import Turnstile.Proofs.Store.Laws
import Turnstile.Proofs.Subscription.Ledger
import Turnstile.Proofs.Traffic.Basic

/-!
# Entitlements under traffic

A flight that is paid for with an entitlement draws from it, and from both of its windows alike,
what was granted to it and is not yet reconciled, and what its first settlement made of that: the
cost of the request, or what was granted where the rest of the cost was refused.  Whatever the
order of the steps, each of them moves the stored document by the change of what its flight draws
(`Flight.Moved`).  The first settlement of a request that cost more than was granted to it is
refused if a window holds less than the rest (`Flight.Overruns`), and no other is.

* `Subscription.reserve_moves`, `Subscription.adjust_moves` — the ledger on a store;
* `Flight.act_moved` — one step of one flight;
* `Flight.OnEntitlement.settle_first` — when a first settlement is refused.
-/

set_option autoImplicit false

namespace Turnstile

open StoreAdmin (books)
open Subscription (Document Selection Holds)
open Subscription.Document (drawnMore)

/-! ## The ledger on a store -/

section Ledger

variable {σ : Type} [UserStore σ] [StoreAdmin σ] [LawfulStore σ] {user balance : Int}
  {d₀ : Document} {used : Nat → Int} {raw : String} {s : σ}

/-- A reservation is refused and changes nothing, or it draws its amount from the entitlement that
it selects. -/
theorem Subscription.reserve_moves {now amount : Int}
    (ha : (books s).account user = some (balance, raw)) (h : Holds d₀ used raw)
    (hdistinct : d₀.Distinct) (hdeployed : ∀ e ∈ d₀.items, e.deployed = true)
    (hfresh : ∀ e ∈ d₀.items, e.stale now = false) (hamount : 0 ≤ amount) :
    (∃ e, Subscription.reserve user now amount s = (.error e, s)) ∨
      ∃ selection s' i raw', Subscription.reserve user now amount s = (.ok selection, s') ∧
        0 < user ∧ d₀.locate? selection = some i ∧
        (books s').account user = some (balance, raw') ∧ Holds d₀ (drawnMore used i amount) raw' := by
  unfold Subscription.reserve
  by_cases huser : user ≤ 0
  · rw [if_pos huser]
    exact .inl ⟨_, rfl⟩
  · rw [if_neg huser, if_neg (Int.not_lt.mpr hamount)]
    rcases Subscription.reserveIn_holds h hdistinct hdeployed hfresh hamount with
      hexhausted | ⟨text?, selection, i, hok, hlocate, hholds⟩
    · rw [LawfulStore.update_refused ha hexhausted]
      exact .inl ⟨_, rfl⟩
    · right
      cases text? with
      | none =>
        rw [LawfulStore.update_kept ha hok]
        exact ⟨selection, s, i, raw, rfl, Int.not_le.mp huser, hlocate, ha, hholds⟩
      | some text =>
        obtain ⟨s', hupdate, hbooks⟩ := LawfulStore.update_written ha hok
        refine ⟨selection, s', i, text, hupdate, Int.not_le.mp huser, hlocate, ?_, hholds⟩
        rw [hbooks, Books.account_write, if_pos rfl, ha]
        rfl

/-- An adjustment draws its delta from the entitlement of the selection, or it is a charge of more
than a window of it holds and refused as exhausted. -/
theorem Subscription.adjust_moves {selection : Selection} {delta : Int} {i : Nat}
    (ha : (books s).account user = some (balance, raw)) (h : Holds d₀ used raw)
    (hwithin : ∀ e ∈ d₀.items, e.Within) (huser : 0 < user)
    (hlocate : d₀.locate? selection = some i) (hroom : delta < 0 → 0 ≤ used i + delta) :
    (Subscription.adjust user selection delta s = (.error .exhausted, s) ∧ 0 < delta ∧
        d₀.Lacks used i delta) ∨
      ∃ s' raw', Subscription.adjust user selection delta s = (.ok (), s') ∧
        (books s').account user = some (balance, raw') ∧ Holds d₀ (drawnMore used i delta) raw' := by
  obtain ⟨hwell, -⟩ := Document.getElem?_of_locate? hlocate
  unfold Subscription.adjust
  rw [if_neg (Int.not_le.mpr huser), hwell]
  simp only [Bool.not_true, Bool.false_eq_true, if_false]
  by_cases hzero : delta = 0
  · subst hzero
    rw [if_pos rfl]
    refine .inr ⟨s, raw, rfl, ha, ?_⟩
    obtain ⟨d, hread, htracks⟩ := h
    refine ⟨d, hread, htracks.congr fun j => ?_⟩
    unfold drawnMore
    simp
  · rw [if_neg hzero]
    rcases Subscription.adjustIn_holds h hwithin hlocate hroom with
      ⟨hexhausted, hlacks⟩ | ⟨text, hok, hholds⟩
    · rw [LawfulStore.update_refused ha hexhausted]
      exact .inl ⟨rfl, hlacks⟩
    · obtain ⟨s', hupdate, hbooks⟩ := LawfulStore.update_written ha hok
      refine .inr ⟨s', text, hupdate, ?_, hholds⟩
      rw [hbooks, Books.account_write, if_pos rfl, ha]
      rfl

end Ledger

/-- No fingerprint stands twice, everything is deployed, and no window holds more or less than it
may. -/
structure Subscription.Document.InForce (d : Document) : Prop where
  distinct : d.Distinct
  deployed : ∀ e ∈ d.items, e.deployed = true
  within : ∀ e ∈ d.items, e.Within

/-- The step neither reserves at a time at which a window of the document is stale nor settles at a
negative cost. -/
def Action.Calm (d : Document) : Action → Prop
  | .start now _ => ∀ e ∈ d.items, e.stale now = false
  | .settle (.succeeded cost) => 0 ≤ cost
  | _ => True

namespace Flight

/-- What the first settlement charged for good: the cost of the request, or what was granted to it
where the rest of the cost was refused. -/
def bill (f : Flight) : Int :=
  match f.first with
  | some ⟨.succeeded cost, none⟩ => cost
  | some ⟨.succeeded _, some _⟩ => f.granted
  | _ => 0

/-- What the flight has drawn from the entitlement that it picked. -/
def drawn (f : Flight) : Int := f.unreconciled + f.bill

/-- What the flight has drawn from the entitlement at a place of a document. -/
def drawnAt (d : Document) (i : Nat) (f : Flight) : Int :=
  if f.picked.bind d.locate? = some i then f.drawn else 0

/-- What a request cost beyond what was granted to it is more than a window of the entitlement that
it picked still holds, after what was drawn. -/
def Overruns (d : Document) (used : Nat → Int) (outcome : Outcome) (f : Flight) : Prop :=
  ∃ cost i, outcome = .succeeded cost ∧ f.picked.bind d.locate? = some i ∧ f.granted < cost ∧
    d.Lacks used i (cost - f.granted)

/-- What is always true of a flight that is paid for with an entitlement of a user. -/
structure OnEntitlement (config : QuotaConfig) (d₀ : Document) (user : Int) (f : Flight) :
    Prop where
  path : Quota.usesSubscription config f.ctx = true
  owner : f.ctx.user = user
  granted : 0 ≤ f.granted
  unplanned : ∀ p, f.stage ≠ .planned p
  early : f.stage = .fresh → f.first = none ∧ f.picked = none
  unpicked : f.picked = none → f.granted = 0
  picked : ∀ selection, f.picked = some selection →
    0 < user ∧ ∃ i, d₀.locate? selection = some i
  unsettled : f.first = none → f.ctx.settled = false ∧ f.ctx.reserved = f.granted ∧
    f.ctx.selection = f.picked ∧ f.pending = []
  settled : f.first ≠ none → f.ctx.settled = true
  cost : ∀ cost refusal, f.first = some ⟨.succeeded cost, refusal⟩ → 0 ≤ cost
  refused : ∀ selection outcome refusal, f.picked = some selection →
    f.first = some ⟨outcome, some refusal⟩ →
    refusal = .subscriptionExhausted ∧ ∃ cost, outcome = .succeeded cost ∧ f.granted < cost
  pending : f.pending = [] ∨ ∃ r selection, f.first = some ⟨.failed, r⟩ ∧
    f.picked = some selection ∧ f.pending = [.refundSelection user selection f.granted]

/-- A step of a flight moves the stored document by the change of what the flight draws. -/
structure Moved (config : QuotaConfig) (d₀ : Document) (user balance : Int) (used : Nat → Int)
    (f f' : Flight) (b' : Books) : Prop where
  onEntitlement : f'.OnEntitlement config d₀ user
  text : ∃ raw', b'.account user = some (balance, raw') ∧
    Holds d₀ (fun i => used i + (f'.drawnAt d₀ i - f.drawnAt d₀ i)) raw'

theorem drawnAt_of_unpicked {f : Flight} (h : f.picked = none) (d : Document) (i : Nat) :
    f.drawnAt d i = 0 := by
  unfold drawnAt
  rw [h]
  rfl

theorem drawnAt_of_picked {f : Flight} {selection : Selection} {d : Document} {i : Nat}
    (hpicked : f.picked = some selection) (hlocate : d.locate? selection = some i) (j : Nat) :
    f.drawnAt d j = if j = i then f.drawn else 0 := by
  unfold drawnAt
  rw [hpicked, Option.bind_some, hlocate]
  by_cases hij : j = i
  · subst hij
    rw [if_pos rfl, if_pos rfl]
  · rw [if_neg hij, if_neg fun heq => hij (Option.some.inj heq).symm]

theorem drawn_of_unsettled {f : Flight} (h : f.first = none) : f.drawn = f.granted := by
  unfold drawn unreconciled bill
  rw [h]
  exact Int.add_zero f.granted

section

variable {config : QuotaConfig} {d₀ : Document} {user balance : Int} {used : Nat → Int}
  {raw : String} {f f' : Flight} {b' : Books}

/-- Nothing negative is ever drawn. -/
theorem OnEntitlement.drawn_nonneg (h : f.OnEntitlement config d₀ user) : 0 ≤ f.drawn := by
  have hgranted := h.granted
  unfold drawn unreconciled bill
  cases hfirst : f.first with
  | none => simpa using hgranted
  | some r =>
    obtain ⟨outcome, refusal⟩ := r
    cases outcome with
    | failed =>
      dsimp only
      split
      · decide
      · simpa using hgranted
    | succeeded cost =>
      have hcost := h.cost cost refusal hfirst
      cases refusal with
      | none => simpa using hcost
      | some e => simpa using hgranted

theorem OnEntitlement.drawnAt_nonneg (h : f.OnEntitlement config d₀ user) (i : Nat) :
    0 ≤ f.drawnAt d₀ i := by
  unfold drawnAt
  split
  · exact h.drawn_nonneg
  · exact Int.le_refl 0

/-- A step that neither changes the document nor what is drawn. -/
theorem Moved.of_same (h : f'.OnEntitlement config d₀ user)
    (hsame : ∀ i, f'.drawnAt d₀ i = f.drawnAt d₀ i)
    (ha : b'.account user = some (balance, raw)) (hholds : Holds d₀ used raw) :
    Moved config d₀ user balance used f f' b' := by
  obtain ⟨d, hread, htracks⟩ := hholds
  refine ⟨h, raw, ha, d, hread, htracks.congr fun i => ?_⟩
  rw [hsame i, Int.sub_self, Int.add_zero]

/-- A step that draws from the entitlement that its flight picked. -/
theorem Moved.of_drawn {i : Nat} {delta : Int} (h : f'.OnEntitlement config d₀ user)
    (hdrawn : ∀ j, f'.drawnAt d₀ j - f.drawnAt d₀ j = if j = i then delta else 0)
    (ha : b'.account user = some (balance, raw))
    (hholds : Holds d₀ (drawnMore used i delta) raw) :
    Moved config d₀ user balance used f f' b' := by
  obtain ⟨d, hread, htracks⟩ := hholds
  refine ⟨h, raw, ha, d, hread, htracks.congr fun j => ?_⟩
  rw [hdrawn j]
  unfold drawnMore
  split
  · rfl
  · exact Int.add_zero _

/-- What a flight draws from the entitlement that it picked changes there and nowhere else. -/
theorem drawnAt_change {selection : Selection} {i : Nat} {delta : Int}
    (hpicked : f.picked = some selection) (hlocate : d₀.locate? selection = some i)
    (hsame : f'.picked = f.picked) (hdelta : f'.drawn = f.drawn + delta) (j : Nat) :
    f'.drawnAt d₀ j - f.drawnAt d₀ j = if j = i then delta else 0 := by
  rw [drawnAt_of_picked hpicked hlocate, drawnAt_of_picked (hsame.trans hpicked) hlocate]
  split
  · rw [hdelta]
    omega
  · rfl

theorem drawnAt_keep {selection : Selection} {i : Nat} (hpicked : f.picked = some selection)
    (hlocate : d₀.locate? selection = some i) (hsame : f'.picked = f.picked)
    (hdrawn : f'.drawn = f.drawn) (j : Nat) : f'.drawnAt d₀ j = f.drawnAt d₀ j := by
  rw [drawnAt_of_picked hpicked hlocate, drawnAt_of_picked (hsame.trans hpicked) hlocate, hdrawn]

theorem OnEntitlement.done (h : f.OnEntitlement config d₀ user) :
    OnEntitlement config d₀ user { f with stage := .done } :=
  ⟨h.path, h.owner, h.granted, fun _ hp => (nomatch hp), fun hp => (nomatch hp), h.unpicked,
    h.picked, h.unsettled, h.settled, h.cost, h.refused, h.pending⟩

variable {σ : Type} [UserStore σ] [StoreAdmin σ] [LawfulStore σ] {s : Quota.State σ}

/-- Reserving from an entitlement is refused and changes nothing, or draws from the one that is
selected. -/
theorem reserve_cases {ctx : Context} {now amount : Int}
    (ha : (books s.store).account user = some (balance, raw)) (hholds : Holds d₀ used raw)
    (hforce : d₀.InForce) (hfresh : ∀ e ∈ d₀.items, e.stale now = false) (hamount : 0 ≤ amount)
    (howner : ctx.user = user) :
    (∃ refusal s', Quota.reserveFromSubscription now amount ctx s = (.error refusal, ctx, s') ∧
      (books s'.store).account user = some (balance, raw)) ∨
    ∃ selection s' i raw', Quota.reserveFromSubscription now amount ctx s =
        (.ok (), { ctx with selection := some selection, reserved := amount }, s') ∧
      0 < user ∧ d₀.locate? selection = some i ∧
      (books s'.store).account user = some (balance, raw') ∧
      Holds d₀ (drawnMore used i amount) raw' := by
  unfold Quota.reserveFromSubscription
  rw [howner]
  rcases Subscription.reserve_moves ha hholds hforce.distinct hforce.deployed hfresh hamount with
    ⟨e, herror⟩ | ⟨selection, store, i, raw', hok, huser, hlocate, ha', hholds'⟩
  · rw [herror]
    left
    cases e <;> exact ⟨_, _, rfl, ha⟩
  · rw [hok]
    exact .inr ⟨selection, _, i, raw', rfl, huser, hlocate, ha', hholds'⟩

omit [StoreAdmin σ] [LawfulStore σ] in
/-- A reservation from an entitlement that goes through. -/
theorem start_reserved {now estimate : Int} {selection : Selection} {store : σ}
    (hstage : f.stage = .fresh) (hpath : Quota.usesSubscription config f.ctx = true)
    (hreserve : Subscription.reserve f.ctx.user now (max estimate 0) s.store =
      (.ok selection, store)) :
    (f.start config now estimate s).1 =
      { f with
        ctx := { f.ctx with selection := some selection, reserved := max estimate 0 }
        stage := .done, granted := max estimate 0, picked := some selection } := by
  unfold start Quota.reserveFromSubscription
  rw [hstage]
  dsimp only
  rw [if_pos hpath, hreserve]

theorem start_moved (h : f.OnEntitlement config d₀ user)
    (ha : (books s.store).account user = some (balance, raw)) (hholds : Holds d₀ used raw)
    (hforce : d₀.InForce) {now : Int} (hfresh : ∀ e ∈ d₀.items, e.stale now = false)
    (estimate : Int) :
    Moved config d₀ user balance used f (f.start config now estimate s).1
      (books (f.start config now estimate s).2.store) := by
  unfold start
  split
  · exact .of_same h (fun _ => rfl) ha hholds
  · exact .of_same h (fun _ => rfl) ha hholds
  · rename_i hstage
    obtain ⟨hfirst, hpicked⟩ := h.early hstage
    obtain ⟨hsettled, hreserved, hselection, hpending⟩ := h.unsettled hfirst
    have hamount : 0 ≤ max estimate 0 := Int.le_max_right estimate 0
    dsimp only
    rw [if_pos h.path]
    rcases reserve_cases ha hholds hforce hfresh hamount h.owner with
      ⟨refusal, s', herror, ha'⟩ | ⟨selection, s', i, raw', hok, huser, hlocate, ha', hholds'⟩
    · rw [herror]
      exact .of_same h.done (fun _ => rfl) ha' hholds
    · rw [hok]
      refine .of_drawn
        ⟨h.path, h.owner, hamount, fun _ hp => (nomatch hp), fun hp => (nomatch hp),
          fun hp => (nomatch hp), ?_, fun _ => ⟨hsettled, rfl, rfl, hpending⟩,
          fun hne => absurd hfirst hne, h.cost, ?_, .inl hpending⟩ (fun j => ?_) ha' hholds'
      · intro selection' hselection'
        cases hselection'
        exact ⟨huser, i, hlocate⟩
      · intro _ outcome refusal _ hfirst'
        exact absurd (hfirst.symm.trans hfirst') nofun
      · rw [drawnAt_of_unpicked hpicked, Int.sub_zero]
        refine (drawnAt_of_picked rfl hlocate j).trans ?_
        split
        · exact drawn_of_unsettled hfirst
        · rfl

omit [LawfulStore σ] in
theorem finish_moved (h : f.OnEntitlement config d₀ user)
    (ha : (books s.store).account user = some (balance, raw)) (hholds : Holds d₀ used raw) :
    Moved config d₀ user balance used f (f.finish s).1 (books (f.finish s).2.store) := by
  unfold finish
  split
  · exact .of_same h (fun _ => rfl) ha hholds
  · exact .of_same h (fun _ => rfl) ha hholds
  · rename_i p hplan
    exact absurd hplan (h.unplanned p)

omit [StoreAdmin σ] [LawfulStore σ] in
/-- The first settlement of a request that failed leaves a refund of what is reserved. -/
theorem settle_failed_entitlement {selection : Selection}
    (hpath : Quota.usesSubscription config f.ctx = true) (hsettled : f.ctx.settled = false)
    (hselection : f.ctx.selection = some selection) :
    ∃ ctx, Gateway.settle config .failed f.ctx s =
        (.ok (if f.ctx.reserved = 0 then none
          else some (.refundSelection f.ctx.user selection f.ctx.reserved)), ctx, s) ∧
      ctx.settled = true := by
  have hpath' : Quota.usesSubscription config { f.ctx with settled := true, reserved := 0 } = true :=
    hpath
  unfold Gateway.settle Quota.release
  rw [hsettled]
  simp only [Bool.false_eq_true, if_false]
  by_cases hzero : f.ctx.reserved = 0
  · rw [if_pos hzero, if_pos hzero]
    exact ⟨_, rfl, rfl⟩
  · rw [if_neg hzero, if_neg hzero, if_pos hpath']
    simp only [hselection]
    exact ⟨_, rfl, rfl⟩

/-- The flight after its first settlement. -/
theorem OnEntitlement.noted (h : f.OnEntitlement config d₀ user) (hctx : f'.ctx.bare = f.ctx.bare)
    (hsettled : f'.ctx.settled = true) (hstage : f'.stage = .done) (hfirst : f'.first ≠ none)
    (hpicked : f'.picked = f.picked) (hgranted : f'.granted = f.granted)
    (hcost : ∀ cost refusal, f'.first = some ⟨.succeeded cost, refusal⟩ → 0 ≤ cost)
    (hrefused : ∀ selection outcome refusal, f.picked = some selection →
      f'.first = some ⟨outcome, some refusal⟩ →
      refusal = .subscriptionExhausted ∧ ∃ cost, outcome = .succeeded cost ∧ f.granted < cost)
    (hpending : f'.pending = [] ∨ ∃ r selection, f'.first = some ⟨.failed, r⟩ ∧
      f.picked = some selection ∧ f'.pending = [.refundSelection user selection f.granted]) :
    f'.OnEntitlement config d₀ user := by
  have howner : f'.ctx.user = f.ctx.user := congrArg Spender.user (Context.spender_of_bare hctx)
  refine ⟨(Quota.usesSubscription_of_bare config hctx).trans h.path, howner.trans h.owner,
    hgranted ▸ h.granted, fun p hp => ?_, fun hp => ?_, fun hp => ?_, ?_, fun hne => absurd hne hfirst,
    fun _ => hsettled, hcost, ?_, ?_⟩
  · exact absurd (hstage.symm.trans hp) nofun
  · exact absurd (hstage.symm.trans hp) nofun
  · rw [hgranted]
    exact h.unpicked (hpicked ▸ hp)
  · rw [hpicked]
    exact h.picked
  · rw [hpicked, hgranted]
    exact hrefused
  · rw [hpicked, hgranted]
    exact hpending

omit [StoreAdmin σ] [LawfulStore σ] in
/-- A settlement of a request for which nothing is reserved leaves the store alone. -/
theorem settle_unpicked (hpath : Quota.usesSubscription config f.ctx = true)
    (hsettled : f.ctx.settled = false) (hreserved : f.ctx.reserved = 0)
    (hselection : f.ctx.selection = none) (outcome : Outcome) :
    ∃ r ctx q, Gateway.settle config outcome f.ctx s = (r, ctx, q) ∧ q.store = s.store ∧
      ctx.settled = true ∧ ∀ job, r = .ok job → job = none := by
  have hpath' : Quota.usesSubscription config { f.ctx with settled := true } = true := hpath
  unfold Gateway.settle
  rw [hsettled]
  simp only [Bool.false_eq_true, if_false]
  cases outcome with
  | failed =>
    unfold Quota.release
    dsimp only
    rw [if_pos hreserved]
    exact ⟨_, _, _, rfl, rfl, rfl, fun job hjob => by cases hjob; rfl⟩
  | succeeded cost =>
    unfold Quota.charge
    dsimp only
    by_cases hzero : cost - f.ctx.reserved = 0
    · rw [if_pos hzero]
      exact ⟨_, _, _, rfl, rfl, rfl, fun job hjob => by cases hjob; rfl⟩
    · rw [if_neg hzero, if_pos hpath', hselection]
      exact ⟨_, _, _, rfl, rfl, rfl, fun job hjob => nomatch hjob⟩

/-- The first settlement of a request that succeeded draws the rest of its cost, or that is more
than a window holds and refused as exhausted. -/
theorem settle_succeeded_entitlement {selection : Selection} {i : Nat} {cost : Int}
    (ha : (books s.store).account user = some (balance, raw)) (hholds : Holds d₀ used raw)
    (hforce : d₀.InForce) (huser : 0 < user) (hlocate : d₀.locate? selection = some i)
    (hpath : Quota.usesSubscription config f.ctx = true) (howner : f.ctx.user = user)
    (hsettled : f.ctx.settled = false) (hselection : f.ctx.selection = some selection)
    (hroom : 0 ≤ used i + (cost - f.ctx.reserved)) :
    (∃ ctx q raw', Gateway.settle config (.succeeded cost) f.ctx s = (.ok none, ctx, q) ∧
      ctx.settled = true ∧ (books q.store).account user = some (balance, raw') ∧
      Holds d₀ (drawnMore used i (cost - f.ctx.reserved)) raw') ∨
    ∃ ctx q, Gateway.settle config (.succeeded cost) f.ctx s =
        (.error .subscriptionExhausted, ctx, q) ∧
      ctx.settled = true ∧ q.store = s.store ∧ f.ctx.reserved < cost ∧
      d₀.Lacks used i (cost - f.ctx.reserved) := by
  have hpath' : Quota.usesSubscription config { f.ctx with settled := true } = true := hpath
  unfold Gateway.settle
  rw [hsettled]
  simp only [Bool.false_eq_true, if_false]
  unfold Quota.charge
  by_cases hzero : cost - f.ctx.reserved = 0
  · rw [if_pos hzero]
    refine .inl ⟨_, _, raw, rfl, rfl, ha, ?_⟩
    obtain ⟨d, hread, htracks⟩ := hholds
    refine ⟨d, hread, htracks.congr fun j => ?_⟩
    unfold drawnMore
    rw [hzero]
    simp
  · rw [if_neg hzero, if_pos hpath', hselection]
    dsimp only
    rw [howner]
    rcases Subscription.adjust_moves ha hholds hforce.within huser hlocate fun _ => hroom with
      ⟨hexhausted, hpos, hlacks⟩ | ⟨store, raw', hok, ha', hholds'⟩
    · rw [hexhausted]
      exact .inr ⟨_, _, rfl, rfl, rfl, by omega, hlacks⟩
    · rw [hok]
      exact .inl ⟨_, _, raw', rfl, rfl, ha', hholds'⟩

/-- The first settlement of a request that was granted something from an entitlement is refused as
exhausted if the rest of the cost is more than a window holds, and goes through otherwise. -/
theorem OnEntitlement.settle_first (h : f.OnEntitlement config d₀ user)
    (ha : (books s.store).account user = some (balance, raw)) (hholds : Holds d₀ used raw)
    (hforce : d₀.InForce) (hused : ∀ i, f.drawnAt d₀ i ≤ used i) {outcome : Outcome}
    (hcost : ∀ cost, outcome = .succeeded cost → 0 ≤ cost) {selection : Selection}
    (hpicked : f.picked = some selection) (hfirst : f.first = none) :
    ((Gateway.settle config outcome f.ctx s).1 = .error .subscriptionExhausted ∧
        f.Overruns d₀ used outcome) ∨
      (∃ job, (Gateway.settle config outcome f.ctx s).1 = .ok job) ∧
        ¬ f.Overruns d₀ used outcome := by
  obtain ⟨hsettled, hreserved, hselection, -⟩ := h.unsettled hfirst
  obtain ⟨huser, i, hlocate⟩ := h.picked selection hpicked
  have hplace : f.picked.bind d₀.locate? = some i := by rw [hpicked, Option.bind_some, hlocate]
  cases outcome with
  | failed =>
    obtain ⟨ctx, heq, -⟩ := settle_failed_entitlement (s := s) h.path hsettled
      (hselection.trans hpicked)
    right
    rw [heq]
    exact ⟨⟨_, rfl⟩, fun ⟨_, _, hoverrun, _⟩ => nomatch hoverrun⟩
  | succeeded cost =>
    have hroom : 0 ≤ used i + (cost - f.ctx.reserved) := by
      have hcost := hcost cost rfl
      have husedAt := hused i
      rw [drawnAt_of_picked hpicked hlocate, if_pos rfl, drawn_of_unsettled hfirst] at husedAt
      omega
    rcases settle_succeeded_entitlement ha hholds hforce huser hlocate h.path h.owner hsettled
      (hselection.trans hpicked) hroom with
      ⟨ctx, q, raw', heq, -, -, hholds'⟩ | ⟨ctx, q, heq, -, -, hmore, hlacks⟩
    · right
      rw [heq]
      refine ⟨⟨none, rfl⟩, ?_⟩
      rintro ⟨cost', j, houtcome, hj, -, hlacks⟩
      cases houtcome
      cases hplace.symm.trans hj
      rw [← hreserved] at hlacks
      exact hholds'.not_lacks hlacks
    · left
      rw [heq]
      rw [hreserved] at hmore hlacks
      exact ⟨rfl, cost, i, rfl, hplace, hmore, hlacks⟩

omit [StoreAdmin σ] [LawfulStore σ] in
/-- A request whose first settlement goes through has drawn its cost. -/
theorem drawn_settled {cost : Int} (hstage : f.stage = .done) (hfirst : f.first = none)
    {job : Option Job} (hok : (Gateway.settle config (.succeeded cost) f.ctx s).1 = .ok job) :
    (f.settle config (.succeeded cost) s).1.picked = f.picked ∧
      (f.settle config (.succeeded cost) s).1.drawn = cost := by
  unfold settle
  rw [hstage]
  dsimp only
  rw [hok]
  unfold drawn unreconciled bill noted
  rw [hfirst]
  exact ⟨rfl, Int.zero_add cost⟩

omit [LawfulStore σ] in
/-- A settlement of a flight that has picked nothing draws nothing. -/
theorem noted_moved_unpicked (h : f.OnEntitlement config d₀ user)
    (ha : (books s.store).account user = some (balance, raw)) (hholds : Holds d₀ used raw)
    {outcome : Outcome} (hcost : ∀ cost, outcome = .succeeded cost → 0 ≤ cost)
    {r : Except Refusal (Option Job)} {ctx : Context} {q : Quota.State σ}
    (hr : Gateway.settle config outcome f.ctx s = (r, ctx, q)) (hsettled : f.ctx.settled = false)
    (hpicked : f.picked = none) :
    Moved config d₀ user balance used f (f.noted outcome ctx r) (books q.store) := by
  have hfirst := first_eq_none h.settled hsettled
  obtain ⟨-, hreserved, hselection, hpending⟩ := h.unsettled hfirst
  have hbare := Gateway.bare_settle config outcome f.ctx s
  rw [hr] at hbare
  obtain ⟨r', ctx', q', heq, hstore, hdone, hjob⟩ := settle_unpicked (s := s) h.path hsettled
    (hreserved.trans (h.unpicked hpicked)) (hselection.trans hpicked) outcome
  rw [heq] at hr
  cases hr
  have hfirstNoted : ∃ e, (f.noted outcome ctx r).first = some ⟨outcome, e⟩ := by
    unfold noted
    rw [hfirst]
    cases r with
    | ok job => exact ⟨none, rfl⟩
    | error refusal => exact ⟨some refusal, rfl⟩
  have hkept : (f.noted outcome ctx r).ctx = ctx ∧ (f.noted outcome ctx r).stage = .done ∧
      (f.noted outcome ctx r).picked = f.picked ∧ (f.noted outcome ctx r).granted = f.granted ∧
      (f.noted outcome ctx r).pending = [] := by
    unfold noted
    cases r with
    | ok job =>
      rw [hjob job rfl, hpending]
      exact ⟨rfl, rfl, rfl, rfl, rfl⟩
    | error refusal => exact ⟨rfl, rfl, rfl, rfl, hpending⟩
  obtain ⟨e, hfirstNoted⟩ := hfirstNoted
  obtain ⟨hctx, hstage, hpickedNoted, hgranted, hnone⟩ := hkept
  apply Moved.of_same
  · apply h.noted
    · rw [hctx]
      exact hbare
    · rw [hctx]
      exact hdone
    · exact hstage
    · rw [hfirstNoted]
      exact nofun
    · exact hpickedNoted
    · exact hgranted
    · intro cost refusal hfirst'
      rw [hfirstNoted] at hfirst'
      cases hfirst'
      exact hcost cost rfl
    · intro selection outcome' refusal hselected
      rw [hpicked] at hselected
      cases hselected
    · exact .inl hnone
  · intro i
    rw [drawnAt_of_unpicked hpicked, drawnAt_of_unpicked (hpickedNoted.trans hpicked)]
  · rw [hstore]
    exact ha
  · exact hholds

omit [LawfulStore σ] in
/-- The first settlement of a failed request draws nothing: what was granted waits in the
background. -/
theorem noted_moved_failed (h : f.OnEntitlement config d₀ user)
    (ha : (books s.store).account user = some (balance, raw)) (hholds : Holds d₀ used raw)
    {r : Except Refusal (Option Job)} {ctx : Context} {q : Quota.State σ}
    (hr : Gateway.settle config .failed f.ctx s = (r, ctx, q)) (hsettled : f.ctx.settled = false)
    {selection : Selection} (hpicked : f.picked = some selection) :
    Moved config d₀ user balance used f (f.noted .failed ctx r) (books q.store) := by
  have hfirst := first_eq_none h.settled hsettled
  obtain ⟨-, hreserved, hselection, hpending⟩ := h.unsettled hfirst
  obtain ⟨-, i, hlocate⟩ := h.picked selection hpicked
  have hdrawn : f.drawn = f.granted := drawn_of_unsettled hfirst
  have hbare := Gateway.bare_settle config .failed f.ctx s
  rw [hr] at hbare
  obtain ⟨ctx', heq, hdone⟩ := settle_failed_entitlement (s := s) h.path hsettled
    (hselection.trans hpicked)
  rw [heq, hreserved, h.owner] at hr
  cases hr
  unfold noted
  rw [hfirst, hpending]
  dsimp only
  by_cases hzero : f.granted = 0
  · rw [if_pos hzero]
    refine .of_same (h.noted hbare hdone rfl nofun rfl rfl (fun _ _ heq => absurd heq nofun)
      (fun _ _ _ _ heq => absurd heq nofun) (.inl rfl)) (drawnAt_keep hpicked hlocate rfl ?_) ha hholds
    rw [hdrawn, hzero]
    rfl
  · rw [if_neg hzero]
    refine .of_same (h.noted hbare hdone rfl nofun rfl rfl (fun _ _ heq => absurd heq nofun)
      (fun _ _ _ _ heq => absurd heq nofun) (.inr ⟨none, selection, rfl, hpicked, rfl⟩))
      (drawnAt_keep hpicked hlocate rfl ?_) ha hholds
    rw [hdrawn]
    exact Int.add_zero f.granted

/-- The first settlement of a successful request draws the rest of its cost, or nothing if that is
refused. -/
theorem noted_moved_succeeded (h : f.OnEntitlement config d₀ user)
    (ha : (books s.store).account user = some (balance, raw)) (hholds : Holds d₀ used raw)
    (hforce : d₀.InForce) (hused : ∀ i, f.drawnAt d₀ i ≤ used i) {cost : Int} (hcost : 0 ≤ cost)
    {r : Except Refusal (Option Job)} {ctx : Context} {q : Quota.State σ}
    (hr : Gateway.settle config (.succeeded cost) f.ctx s = (r, ctx, q))
    (hsettled : f.ctx.settled = false) {selection : Selection}
    (hpicked : f.picked = some selection) :
    Moved config d₀ user balance used f (f.noted (.succeeded cost) ctx r) (books q.store) := by
  have hfirst := first_eq_none h.settled hsettled
  obtain ⟨-, hreserved, hselection, hpending⟩ := h.unsettled hfirst
  obtain ⟨huser, i, hlocate⟩ := h.picked selection hpicked
  have hdrawn : f.drawn = f.granted := drawn_of_unsettled hfirst
  have hbare := Gateway.bare_settle config (.succeeded cost) f.ctx s
  rw [hr] at hbare
  have hfirstCost : ∀ (e : Option Refusal) (cost' : Int) (refusal : Option Refusal),
      some (Settlement.mk (.succeeded cost) e) = some ⟨.succeeded cost', refusal⟩ → 0 ≤ cost' := by
    intro e cost' refusal heq
    cases heq
    exact hcost
  have hroom : 0 ≤ used i + (cost - f.ctx.reserved) := by
    have husedAt := hused i
    rw [drawnAt_of_picked hpicked hlocate, if_pos rfl, hdrawn] at husedAt
    rw [hreserved]
    omega
  rcases settle_succeeded_entitlement ha hholds hforce huser hlocate h.path h.owner hsettled
    (hselection.trans hpicked) hroom with
    ⟨ctx', q', raw', heq, hdone, ha', hholds'⟩ | ⟨ctx', q', heq, hdone, hstore, hmore, -⟩
  · rw [heq] at hr
    cases hr
    unfold noted
    rw [hfirst, hpending]
    dsimp only
    refine .of_drawn (h.noted hbare hdone rfl nofun rfl rfl (hfirstCost _)
      (fun _ _ _ _ heq => absurd heq nofun) (.inl rfl)) (drawnAt_change hpicked hlocate rfl ?_)
      ha' hholds'
    rw [hdrawn, hreserved]
    show 0 + cost = f.granted + (cost - f.granted)
    omega
  · rw [heq] at hr
    cases hr
    unfold noted
    rw [hfirst]
    dsimp only
    refine .of_same (h.noted hbare hdone rfl nofun rfl rfl (hfirstCost _) ?_ (.inl hpending))
      (drawnAt_keep hpicked hlocate rfl ?_) ?_ hholds
    · intro _ _ refusal _ heq
      cases heq
      exact ⟨rfl, cost, rfl, hreserved ▸ hmore⟩
    · rw [hdrawn]
      exact Int.zero_add f.granted
    · rw [hstore]
      exact ha

/-- The flight after a settlement. -/
theorem noted_moved (h : f.OnEntitlement config d₀ user)
    (ha : (books s.store).account user = some (balance, raw)) (hholds : Holds d₀ used raw)
    (hforce : d₀.InForce) (hused : ∀ i, f.drawnAt d₀ i ≤ used i) {outcome : Outcome}
    (hcost : ∀ cost, outcome = .succeeded cost → 0 ≤ cost) {r : Except Refusal (Option Job)}
    {ctx : Context} {q : Quota.State σ}
    (hr : Gateway.settle config outcome f.ctx s = (r, ctx, q)) :
    Moved config d₀ user balance used f (f.noted outcome ctx r) (books q.store) := by
  cases hsettled : f.ctx.settled with
  | true =>
    rw [Gateway.settle_again config hsettled] at hr
    cases hr
    rw [noted_again (first_ne_none (fun hne => (h.unsettled hne).1) hsettled)]
    exact .of_same h.done (fun _ => rfl) ha hholds
  | false =>
    cases hpicked : f.picked with
    | none => exact noted_moved_unpicked h ha hholds hcost hr hsettled hpicked
    | some selection =>
      cases outcome with
      | failed => exact noted_moved_failed h ha hholds hr hsettled hpicked
      | succeeded cost =>
        exact noted_moved_succeeded h ha hholds hforce hused (hcost cost rfl) hr hsettled hpicked

theorem settle_moved (h : f.OnEntitlement config d₀ user)
    (ha : (books s.store).account user = some (balance, raw)) (hholds : Holds d₀ used raw)
    (hforce : d₀.InForce) (hused : ∀ i, f.drawnAt d₀ i ≤ used i) {outcome : Outcome}
    (hcost : ∀ cost, outcome = .succeeded cost → 0 ≤ cost) :
    Moved config d₀ user balance used f (f.settle config outcome s).1
      (books (f.settle config outcome s).2.store) := by
  unfold settle
  split
  · exact .of_same h (fun _ => rfl) ha hholds
  · exact noted_moved h ha hholds hforce hused hcost rfl
  · exact noted_moved h ha hholds hforce hused hcost rfl

theorem work_moved (h : f.OnEntitlement config d₀ user)
    (ha : (books s.store).account user = some (balance, raw)) (hholds : Holds d₀ used raw)
    (hforce : d₀.InForce) (hused : ∀ i, f.drawnAt d₀ i ≤ used i) (k : Nat) :
    Moved config d₀ user balance used f (f.work k s).1 (books (f.work k s).2.store) := by
  unfold work
  cases hjob : f.pending[k]? with
  | none => exact .of_same h (fun _ => rfl) ha hholds
  | some job =>
    rcases h.pending with hnone | ⟨r, selection, hfirst, hpicked, hpending⟩
    · rw [hnone] at hjob
      cases hjob
    · obtain ⟨rfl, rfl⟩ := eq_of_pending hpending hjob
      obtain ⟨huser, i, hlocate⟩ := h.picked selection hpicked
      have hempty : f.pending.eraseIdx 0 = [] := by rw [hpending]; rfl
      have hsettled : f.first ≠ none := by rw [hfirst]; exact nofun
      have hdrawn : f.drawn = f.granted := by
        unfold drawn unreconciled bill
        rw [hfirst, hpending]
        exact Int.add_zero f.granted
      have hgranted := h.granted
      have hroom : 0 ≤ used i + -f.granted := by
        have husedAt := hused i
        rw [drawnAt_of_picked hpicked hlocate, if_pos rfl, hdrawn] at husedAt
        omega
      have hafter : OnEntitlement config d₀ user { f with pending := f.pending.eraseIdx 0 } :=
        ⟨h.path, h.owner, h.granted, h.unplanned, fun hp => absurd (h.early hp).1 hsettled,
          h.unpicked, h.picked, fun hne => absurd hne hsettled, h.settled, h.cost, h.refused,
          .inl hempty⟩
      show Moved config d₀ user balance used f { f with pending := f.pending.eraseIdx 0 }
        (books (Quota.refundSelection user selection f.granted s).store)
      unfold Quota.refundSelection
      rcases Subscription.adjust_moves ha hholds hforce.within huser hlocate fun _ => hroom with
        ⟨-, hpos, -⟩ | ⟨store, raw', hok, ha', hholds'⟩
      · omega
      · rw [hok]
        refine .of_drawn hafter (drawnAt_change hpicked hlocate rfl ?_) ha' hholds'
        rw [hdrawn, Int.add_right_neg]
        unfold drawn unreconciled bill
        dsimp only
        rw [hfirst, hempty]
        rfl

/-- Every step moves the stored document by the change of what its flight draws. -/
theorem act_moved (h : f.OnEntitlement config d₀ user)
    (ha : (books s.store).account user = some (balance, raw)) (hholds : Holds d₀ used raw)
    (hforce : d₀.InForce) (hused : ∀ i, f.drawnAt d₀ i ≤ used i) {act : Action}
    (hcalm : act.Calm d₀) :
    Moved config d₀ user balance used f (f.act config s act).1
      (books (f.act config s act).2.store) := by
  cases act with
  | start now estimate => exact start_moved h ha hholds hforce hcalm estimate
  | finish => exact finish_moved h ha hholds
  | settle outcome =>
    refine settle_moved h ha hholds hforce hused fun cost heq => ?_
    subst heq
    exact hcalm
  | work k => exact work_moved h ha hholds hforce hused k

end

end Flight

end Turnstile
