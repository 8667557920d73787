import Mathlib.Algebra.Ring.Int.Defs
import Turnstile.Admission.Pipeline
import Turnstile.Proofs.Store.Laws

/-!
# What the quota logic charges

Each operation of the quota logic charges the spender of its context, or changes nothing that can
be seen; and whatever it notes in the context, it leaves alone what the request brought with it
(`Context.bare`).  There is one lemma for each operation on the wallet path, so that whoever takes
the operations in some order need not look into them.

* `Quota.carryOut_cases`, `Quota.reserve_wallet_cases` — a reservation;
* `Quota.release_wallet`, `Quota.books_refundWallet` — a release, and the refund that it leaves;
* `Gateway.settle_again`, `Gateway.settle_failed`, `Gateway.settle_succeeded` — a settlement.
-/

set_option autoImplicit false

namespace Turnstile

open StoreAdmin (books)

/-! ## What a request brings with it -/

/-- What a request brings with it: the context without the notes of admission and settlement. -/
def Context.bare (ctx : Context) : Context :=
  { ctx with reserved := 0, seenBalance := 0, selection := none, autoGroup := none, settled := false }

theorem Context.spender_of_bare {ctx ctx' : Context} (h : ctx'.bare = ctx.bare) :
    ctx'.spender = ctx.spender := by
  show ctx'.bare.spender = ctx.bare.spender
  rw [h]

theorem Quota.usesSubscription_of_bare {ctx ctx' : Context} (config : QuotaConfig)
    (h : ctx'.bare = ctx.bare) :
    usesSubscription config ctx' = usesSubscription config ctx := by
  show usesSubscription config ctx'.bare = usesSubscription config ctx.bare
  rw [h]

section Bare

variable {σ : Type} [UserStore σ]

theorem Quota.bare_carryOut (p : Plan) (ctx : Context) (s : State σ) :
    (carryOut p ctx s).2.1.bare = ctx.bare := by
  unfold carryOut
  split
  · rfl
  · dsimp only
    split
    · rfl
    · split <;> rfl

theorem Quota.bare_reserveFromSubscription (now amount : Int) (ctx : Context) (s : State σ) :
    (reserveFromSubscription now amount ctx s).2.1.bare = ctx.bare := by
  unfold reserveFromSubscription
  split <;> rfl

theorem Gateway.bare_settle (config : QuotaConfig) (outcome : Outcome) (ctx : Context)
    (s : Quota.State σ) : (settle config outcome ctx s).2.1.bare = ctx.bare := by
  unfold settle
  split
  · rfl
  · cases outcome with
    | failed =>
      unfold Quota.release
      dsimp only
      split
      · rfl
      · split
        · split <;> rfl
        · rfl
    | succeeded cost =>
      dsimp only
      split <;> rfl

end Bare

/-- What a piece of work gives back to a wallet. -/
def Job.refund : Job → Int
  | .refundWallet _ amount => amount
  | _ => 0

namespace Quota

/-! ## Reservations -/

/-- What a plan takes from the wallet. -/
def Plan.amount : Plan → Int
  | .trust _ => 0
  | .reserve _ amount => amount

/-- A plan never takes less than nothing. -/
theorem amount_nonneg_of_plan {config : QuotaConfig} {ctx : Context} {amount balance : Int}
    {p : Plan} (hamount : 0 ≤ amount) (h : plan config ctx amount balance = .ok p) :
    0 ≤ p.amount := by
  unfold plan at h
  split at h
  · cases h
  · split at h
    · cases h
      exact Int.le_refl 0
    · cases h
      exact hamount

/-- What a plan that was carried out leaves in the context is what it takes. -/
theorem reserved_carryOut {σ : Type} [UserStore σ] {p : Plan} {ctx ctx' : Context}
    {s s' : State σ} (h : carryOut p ctx s = (.ok (), ctx', s')) : ctx'.reserved = p.amount := by
  unfold carryOut at h
  split at h
  · cases h
    rfl
  · dsimp only at h
    split at h
    · cases h
      rfl
    · split at h <;> cases h
      rfl

variable {σ : Type} [UserStore σ] [StoreAdmin σ] [LawfulStore σ] {config : QuotaConfig}
  {ctx : Context} {s : State σ} {a : Int × String}

/-- A plan is carried out and charges what it takes, which is there, or it is refused and changes
nothing. -/
theorem carryOut_cases {p : Plan} (ha : (books s.store).account ctx.user = some a)
    (hp : 0 ≤ p.amount) :
    (∃ ctx' s', carryOut p ctx s = (.ok (), ctx', s') ∧
      ctx'.bare = ctx.bare ∧ ctx'.settled = ctx.settled ∧ ctx'.reserved = p.amount ∧
      (0 < p.amount → (books s.store).Affords ctx.spender p.amount) ∧
      books s'.store = (books s.store).charge ctx.spender p.amount) ∨
    ∃ refusal ctx' s', carryOut p ctx s = (.error refusal, ctx', s') ∧
      ctx'.bare = ctx.bare ∧ ctx'.settled = ctx.settled ∧ ctx'.reserved = ctx.reserved ∧
      books s'.store = books s.store := by
  cases p with
  | trust balance =>
    exact .inl ⟨_, _, rfl, rfl, rfl, rfl, fun hpos => absurd hpos (Int.lt_irrefl 0),
      (Books.charge_zero ctx.spender (books s.store)).symm⟩
  | reserve balance amount =>
    unfold carryOut
    dsimp only
    by_cases hzero : amount ≤ 0
    · have hamount : amount = 0 := Int.le_antisymm hzero hp
      subst hamount
      rw [if_pos (Int.le_refl 0)]
      exact .inl ⟨_, _, rfl, rfl, rfl, rfl, fun hpos => absurd hpos (Int.lt_irrefl 0),
        (Books.charge_zero ctx.spender (books s.store)).symm⟩
    · rw [if_neg hzero]
      have hpos : 0 < amount := by omega
      have hspender : Context.spender { ctx with seenBalance := balance } = ctx.spender := rfl
      rw [hspender]
      cases hs : (books s.store).shortage? ctx.spender amount a.1 with
      | some e =>
        rw [LawfulStore.debit_short hpos ha hs]
        cases e <;> exact .inr ⟨_, _, _, rfl, rfl, rfl, rfl, rfl⟩
      | none =>
        obtain ⟨store, hd, hb⟩ := LawfulStore.debit_paid hpos ha hs
        rw [hd]
        exact .inl ⟨_, _, rfl, rfl, rfl, rfl, fun _ => Books.affords_of_shortage ha hs, hb⟩

/-- A reservation is granted and charged, or it is refused and changes nothing. -/
theorem reserve_wallet_cases (hwallet : usesSubscription config ctx = false)
    (ha : (books s.store).account ctx.user = some a) (now estimate : Int) :
    (∃ ctx' s', reserve config now estimate ctx s = (.ok (), ctx', s') ∧
      ctx'.bare = ctx.bare ∧ ctx'.settled = ctx.settled ∧
      books s'.store = (books s.store).charge ctx.spender ctx'.reserved) ∨
    ∃ refusal ctx' s', reserve config now estimate ctx s = (.error refusal, ctx', s') ∧
      ctx'.bare = ctx.bare ∧ ctx'.settled = ctx.settled ∧ ctx'.reserved = ctx.reserved ∧
      books s'.store = books s.store := by
  unfold reserve reserveFromWallet
  simp only [hwallet, Bool.false_eq_true, if_false, LawfulStore.balance_eq, ha]
  cases hp : plan config ctx (max estimate 0) a.1 with
  | error refusal => exact .inr ⟨refusal, ctx, _, rfl, rfl, rfl, rfl, rfl⟩
  | ok p =>
    rcases carryOut_cases ha (amount_nonneg_of_plan (Int.le_max_right estimate 0) hp) with
      ⟨ctx', s', hok, hbare, hsettled, hreserved, -, hb⟩ | hrefused
    · rw [← hreserved] at hb
      exact .inl ⟨ctx', s', hok, hbare, hsettled, hb⟩
    · exact .inr hrefused

/-! ## Releases -/

/-- The work that gives back to the wallet what is reserved. -/
def setAside (ctx : Context) : Option Job :=
  if ctx.reserved = 0 then none else some (.refundWallet ctx.spender ctx.reserved)

theorem mem_setAside {job : Job} (h : job ∈ (setAside ctx).toList) :
    job = .refundWallet ctx.spender ctx.reserved := by
  unfold setAside at h
  split at h
  · cases h
  · exact List.mem_singleton.mp h

/-- It gives back all of it. -/
theorem sum_setAside (ctx : Context) :
    ((setAside ctx).toList.map Job.refund).sum = ctx.reserved := by
  unfold setAside
  split
  · rename_i hzero
    exact hzero.symm
  · simp [Job.refund]

theorem release_wallet (hwallet : usesSubscription config ctx = false) (counters : Counters) :
    release config ctx counters = (setAside ctx, { ctx with reserved := 0 }, counters) := by
  have hpath : usesSubscription config { ctx with reserved := 0 } = false := hwallet
  unfold release setAside
  simp only [hpath, Bool.false_eq_true, if_false]
  split <;> rfl

/-- A refund charges its amount back. -/
theorem books_refundWallet {who : Spender} {amount : Int}
    (ha : (books s.store).account who.user = some a) (hfits : (books s.store).Fits who (-amount)) :
    books (refundWallet who amount s).store = (books s.store).charge who (-amount) := by
  obtain ⟨store, hc, hb⟩ := LawfulStore.charge_eq ha hfits
  unfold refundWallet
  rw [hc]
  exact hb

end Quota

/-! ## Settlements -/

namespace Gateway

variable {σ : Type} [UserStore σ] {config : QuotaConfig} {ctx : Context} {s : Quota.State σ}

/-- Only the first settlement counts. -/
theorem settle_again (config : QuotaConfig) (h : ctx.settled = true) (outcome : Outcome)
    (s : Quota.State σ) : settle config outcome ctx s = (.ok none, ctx, s) := by
  unfold settle
  rw [h]
  rfl

/-- The first settlement of a request that failed leaves a refund of what is reserved. -/
theorem settle_failed (hwallet : Quota.usesSubscription config ctx = false)
    (hsettled : ctx.settled = false) :
    settle config .failed ctx s =
      (.ok (Quota.setAside ctx), { ctx with settled := true, reserved := 0 }, s) := by
  have hpath : Quota.usesSubscription config { ctx with settled := true } = false := hwallet
  unfold settle
  rw [hsettled]
  simp only [Bool.false_eq_true, if_false, Quota.release_wallet hpath]
  rfl

/-- The first settlement of a request that succeeded charges the rest of the cost. -/
theorem settle_succeeded [StoreAdmin σ] [LawfulStore σ] {a : Int × String}
    (hwallet : Quota.usesSubscription config ctx = false) (hsettled : ctx.settled = false)
    (ha : (books s.store).account ctx.user = some a) {cost : Int}
    (hfit : (books s.store).Fits ctx.spender (cost - ctx.reserved)) :
    ∃ store, settle config (.succeeded cost) ctx s =
        (.ok none, { ctx with settled := true, reserved := 0, selection := none },
          { s with store := store }) ∧
      books store = (books s.store).charge ctx.spender (cost - ctx.reserved) := by
  have hpath : Quota.usesSubscription config { ctx with settled := true } = false := hwallet
  have hspender : Context.spender { ctx with settled := true } = ctx.spender := rfl
  have ha' : (books s.store).account ctx.spender.user = some a := ha
  unfold settle Quota.charge
  rw [hsettled]
  by_cases hzero : cost - ctx.reserved = 0
  · refine ⟨s.store, ?_, ?_⟩
    · simp [hzero]
    · rw [hzero, Books.charge_zero]
  · obtain ⟨store, hc, hb⟩ := LawfulStore.charge_eq ha' hfit
    refine ⟨store, ?_, hb⟩
    simp only [Bool.false_eq_true, if_false, hzero, hpath, hspender, hc]

end Gateway

end Turnstile
