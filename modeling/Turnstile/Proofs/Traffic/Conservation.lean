import Turnstile.Proofs.Traffic.Entitlement

/-!
# Entitlements are conserved

Each step of a flight moves the stored document by the change of what the flight draws, so in every
run the document is at every point what it was at first less what all flights together draw
(`Traffic.Conserved`).  No window ever holds less than nothing or more than its total: no refund is
cut.  What a flight draws is known from its memory alone, and whether its first settlement goes
through from that and from what the others draw.

* `Traffic.Conserved.step` — one turn;
* `Traffic.run_conserves_entitlements` — every run.
-/

set_option autoImplicit false

namespace Turnstile

open StoreAdmin (books)
open Subscription (Document Selection Holds)

namespace Traffic

variable {σ : Type}

/-- What all flights together have drawn from the entitlement at a place of a document. -/
def drawnFrom (d : Document) (i : Nat) (t : Traffic σ) : Int :=
  (t.flights.map (Flight.drawnAt d i)).sum

variable [StoreAdmin σ] {config : QuotaConfig} {d₀ : Document} {user balance : Int} {raw : String}

/-- The stored document is what it was at first, less what the flights have drawn. -/
structure Conserved (config : QuotaConfig) (d₀ : Document) (user balance : Int) (t : Traffic σ) :
    Prop where
  onEntitlement : ∀ f ∈ t.flights, f.OnEntitlement config d₀ user
  text : ∃ raw, (books t.quota.store).account user = some (balance, raw) ∧
    Holds d₀ (fun i => t.drawnFrom d₀ i) raw

/-- Before the first step nothing is drawn. -/
theorem conserved_opened {ctxs : List Context} {quota : Quota.State σ}
    (ha : (books quota.store).account user = some (balance, raw))
    (hread : Document.read raw = .ok (d₀, false)) (hforce : d₀.InForce)
    (hfresh : ∀ ctx ∈ ctxs, ctx.reserved = 0 ∧ ctx.selection = none ∧ ctx.settled = false)
    (hpath : ∀ ctx ∈ ctxs, ctx.user = user ∧ Quota.usesSubscription config ctx = true) :
    Conserved config d₀ user balance (opened quota ctxs) := by
  refine ⟨fun f hf => ?_, raw, ha, d₀, hread, ?_⟩
  · obtain ⟨ctx, hctx, rfl⟩ := List.mem_map.mp hf
    obtain ⟨hreserved, hselection, hsettled⟩ := hfresh ctx hctx
    obtain ⟨howner, hsub⟩ := hpath ctx hctx
    exact ⟨hsub, howner, Int.le_refl 0, fun _ hp => (nomatch hp), fun _ => ⟨rfl, rfl⟩,
      fun _ => rfl, fun _ hp => (nomatch hp), fun _ => ⟨hsettled, hreserved, hselection, rfl⟩,
      fun hne => absurd rfl hne, fun _ _ hp => (nomatch hp), fun _ _ _ hp => (nomatch hp), .inl rfl⟩
  · refine (Document.Tracks.refl hforce.within).congr fun i => ?_
    refine List.sum_eq_zero fun x hx => ?_
    obtain ⟨f, hf, rfl⟩ := List.mem_map.mp hx
    obtain ⟨ctx, -, rfl⟩ := List.mem_map.mp hf
    exact Flight.drawnAt_of_unpicked rfl d₀ i

variable [UserStore σ] [LawfulStore σ]

omit [UserStore σ] [LawfulStore σ] in
/-- No flight has drawn more than all together. -/
theorem Conserved.drawnAt_le {t : Traffic σ} {f : Flight}
    (h : t.Conserved config d₀ user balance) (hmem : f ∈ t.flights) (i : Nat) :
    f.drawnAt d₀ i ≤ t.drawnFrom d₀ i := by
  refine List.single_le_sum (fun x hx => ?_) _ (List.mem_map_of_mem hmem)
  obtain ⟨g, hg, rfl⟩ := List.mem_map.mp hx
  exact (h.onEntitlement g hg).drawnAt_nonneg i

/-- A step of a flight keeps the account, -/
theorem Conserved.act {t : Traffic σ} {i : Nat} {f : Flight} {act : Action}
    (hforce : d₀.InForce) (h : t.Conserved config d₀ user balance) (hf : t.flights[i]? = some f)
    (hcalm : act.Calm d₀) :
    Conserved config d₀ user balance
      ⟨(f.act config t.quota act).2, t.flights.set i (f.act config t.quota act).1⟩ := by
  have hmem : f ∈ t.flights := List.mem_of_getElem? hf
  obtain ⟨raw, ha, hholds⟩ := h.text
  have hmoved :=
    Flight.act_moved (h.onEntitlement f hmem) ha hholds hforce (h.drawnAt_le hmem) hcalm
  generalize f.act config t.quota act = after at hmoved
  obtain ⟨hafter, raw', ha', d, hread, htracks⟩ := hmoved
  refine ⟨fun g hg => ?_, raw', ha', d, hread, htracks.congr fun j => ?_⟩
  · rcases List.mem_or_eq_of_mem_set hg with hg | rfl
    · exact h.onEntitlement g hg
    · exact hafter
  · exact Run.sum_map_set (Flight.drawnAt d₀ j) after.1 hf

/-- and so does every turn. -/
theorem Conserved.step {t : Traffic σ} {turn : Nat × Action} (hforce : d₀.InForce)
    (h : t.Conserved config d₀ user balance) (hcalm : turn.2.Calm d₀) :
    (t.step config turn).Conserved config d₀ user balance := by
  rcases t.step_cases config turn with hnone | ⟨f, hf, hstep⟩
  · rw [hnone]
    exact h
  · rw [hstep]
    exact h.act hforce hf hcalm

/-- However the steps of requests that are paid for with the entitlements of one user interleave,
as long as no window is stale: both windows of each entitlement hold what they held at first less
what the requests that selected it have drawn, which is what is reserved and not reconciled and
what the first settlement charged for good. Neither window ever holds less than nothing or more
than its total, so no refund is cut. At every point the first settlement of such a request goes
through unless the request cost more than was granted to it and a window holds less than the rest;
then it is refused as exhausted. No other first settlement was ever refused. -/
theorem run_conserves_entitlements {ctxs : List Context} {quota : Quota.State σ}
    {turns : List (Nat × Action)}
    (ha : (books quota.store).account user = some (balance, raw))
    (hread : Document.read raw = .ok (d₀, false)) (hforce : d₀.InForce)
    (hfresh : ∀ ctx ∈ ctxs, ctx.reserved = 0 ∧ ctx.selection = none ∧ ctx.settled = false)
    (hpath : ∀ ctx ∈ ctxs, ctx.user = user ∧ Quota.usesSubscription config ctx = true)
    (hcalm : ∀ turn ∈ turns, turn.2.Calm d₀) :
    let t := (opened quota ctxs).run config turns
    t.flights.map (·.ctx.bare) = ctxs.map Context.bare ∧
    (∃ text d, (books t.quota.store).account user = some (balance, text) ∧
      Document.read text = .ok (d, false) ∧ d.items.length = d₀.items.length ∧
      ∀ i e₀, d₀.items[i]? = some e₀ → ∃ e, d.items[i]? = some e ∧
        e.Alike (e₀.debit (t.drawnFrom d₀ i)) ∧ e.Within ∧
        e.short.available = e₀.short.available - t.drawnFrom d₀ i ∧
        e.long.available = e₀.long.available - t.drawnFrom d₀ i) ∧
    ∀ f ∈ t.flights, ∀ selection, f.picked = some selection →
      (∃ i, d₀.locate? selection = some i) ∧
      (∀ outcome refusal, f.first = some ⟨outcome, some refusal⟩ →
        refusal = .subscriptionExhausted ∧ ∃ cost, outcome = .succeeded cost ∧ f.granted < cost) ∧
      (f.first = none → ∀ outcome, (Action.settle outcome).Calm d₀ →
        ((Gateway.settle config outcome f.ctx t.quota).1 = .error .subscriptionExhausted ∧
            f.Overruns d₀ (fun i => t.drawnFrom d₀ i) outcome) ∨
          (∃ job, (Gateway.settle config outcome f.ctx t.quota).1 = .ok job) ∧
            ¬ f.Overruns d₀ (fun i => t.drawnFrom d₀ i) outcome) := by
  intro t
  have hconserved : t.Conserved config d₀ user balance :=
    Run.induction (fun _ _ h hturn => h.step hforce hturn) turns (opened quota ctxs)
      (conserved_opened ha hread hforce hfresh hpath) (Run.along_of_forall hcalm _)
  obtain ⟨text, haccount, hholds⟩ := hconserved.text
  refine ⟨?_, ?_, fun f hf selection hpicked => ?_⟩
  · rw [show t.flights.map (·.ctx.bare) = _ from bare_run config turns (opened quota ctxs)]
    exact List.map_map
  · obtain ⟨d, hd, htracks⟩ := hholds
    refine ⟨text, d, haccount, hd, htracks.length, fun i e₀ he₀ => ?_⟩
    obtain ⟨e, he, halike⟩ := htracks.counterpart he₀
    have hshort : e.short = (e₀.debit (t.drawnFrom d₀ i)).short :=
      halike.congr (·.short) fun _ _ => rfl
    have hlong : e.long = (e₀.debit (t.drawnFrom d₀ i)).long :=
      halike.congr (·.long) fun _ _ => rfl
    exact ⟨e, he, halike, htracks.within e (List.mem_of_getElem? he),
      congrArg Subscription.Window.available hshort, congrArg Subscription.Window.available hlong⟩
  · have hon := hconserved.onEntitlement f hf
    refine ⟨(hon.picked selection hpicked).2,
      fun outcome refusal => hon.refused selection outcome refusal hpicked,
      fun hfirst outcome hsettle => ?_⟩
    refine hon.settle_first haccount hholds hforce (hconserved.drawnAt_le hf) (fun cost heq => ?_)
      hpicked hfirst
    subst heq
    exact hsettle

/-- One entitlement, whose short window is the smaller one. -/
def saleItem : Subscription.Entitlement :=
  { planName := "basic", planId := "p1", subscriptionId := "s1", short := ⟨40, 25, 2000⟩
    long := ⟨200, 150, 9000⟩, term := ⟨1, 9000, false⟩, owner := 7, status := "deployed"
    extra := [] }

def saleDocument : Document := ⟨[saleItem], 0⟩

def saleQuota : Quota.State MemoryStore :=
  ⟨⟨[(7, ⟨"subscription", 100, saleDocument.write⟩)], []⟩, {}⟩

def saleContext : Context := { user := 7, userGroup := "subscription", mode := .responses }

/-- The flight of a request that reserved 20. -/
def saleFlight : Flight where
  ctx := { saleContext with selection := some (.of saleItem 0), reserved := 20 }
  stage := .done
  granted := 20
  picked := some (.of saleItem 0)

theorem read_saleDocument : Document.read saleDocument.write = .ok (saleDocument, false) := by
  have hcanonical : saleDocument.Canonical := by
    refine ⟨fun e he => ?_, by decide⟩
    rw [List.mem_singleton.mp he]
    exact ⟨⟨by decide, by decide, by decide⟩, ⟨by decide, by decide, by decide⟩,
      ⟨by decide, by decide⟩, by decide, fun _ hm => (nomatch hm), List.Pairwise.nil, trivial⟩
  exact Document.read_write hcanonical

theorem inForce_saleDocument : saleDocument.InForce := by
  refine ⟨fun i j e e' hi hj _ => ?_, fun e he => ?_, fun e he => ?_⟩
  · obtain ⟨hi, -⟩ := List.getElem?_eq_some_iff.mp hi
    obtain ⟨hj, -⟩ := List.getElem?_eq_some_iff.mp hj
    have hlength : saleDocument.items.length = 1 := rfl
    omega
  · rw [List.mem_singleton.mp he]
    decide
  · rw [List.mem_singleton.mp he]
    exact ⟨⟨by decide, by decide⟩, ⟨by decide, by decide⟩⟩

theorem reserveIn_sale : ∃ text?,
    Subscription.reserveIn 1000 20 saleDocument.write = .ok (text?, .of saleItem 0) := by
  have hpruned : saleDocument.pruned 1000 = saleDocument :=
    (Document.pruned_eq (by decide) (by decide)).1
  rcases Subscription.reserveIn_of_read read_saleDocument 1000 (by decide : (0 : Int) ≤ 20) with
    ⟨-, hnone⟩ | ⟨i, e, hfirst, hgranted⟩
  · rw [hpruned] at hnone
    exact absurd ((Subscription.Entitlement.usable_iff (by decide)).mp (by decide))
      (hnone saleItem List.mem_cons_self)
  · have hitem := hfirst.item
    rw [hpruned] at hitem
    cases i with
    | zero =>
      cases hitem
      exact ⟨_, hgranted⟩
    | succ i => cases hitem

theorem reserve_sale : ∃ store, Subscription.reserve 7 1000 20 saleQuota.store =
    (.ok (.of saleItem 0), store) := by
  obtain ⟨text?, hreserve⟩ := reserveIn_sale
  have haccount : (books saleQuota.store).account 7 = some (100, saleDocument.write) := rfl
  unfold Subscription.reserve
  rw [if_neg (by decide), if_neg (by decide)]
  cases text? with
  | none => exact ⟨_, LawfulStore.update_kept haccount hreserve⟩
  | some text =>
    obtain ⟨store, hupdate, -⟩ := LawfulStore.update_written haccount hreserve
    exact ⟨store, hupdate⟩

/-- Two requests of one user, of which the first has reserved 20. -/
def saleStarted : Traffic MemoryStore :=
  (opened saleQuota [saleContext, saleContext]).run {} [(0, .start 1000 20)]

/-- The first request is settled. -/
def saleTurns (cost : Int) : List (Nat × Action) :=
  [(0, .start 1000 20)] ++ [(0, .settle (.succeeded cost))]

theorem flights_saleStarted : saleStarted.flights = [saleFlight, { ctx := saleContext }] := by
  obtain ⟨store, hreserve⟩ := reserve_sale
  have hstart : (Flight.start {} 1000 20 { ctx := saleContext } saleQuota).1 = saleFlight :=
    Flight.start_reserved rfl rfl hreserve
  have hfirst : (opened saleQuota [saleContext, saleContext]).flights[0]? =
      some { ctx := saleContext } := rfl
  unfold saleStarted run
  rw [List.foldl_cons, List.foldl_nil, step_eq hfirst]
  unfold Flight.act opened
  dsimp only
  rw [hstart]
  rfl

theorem locate?_sale : saleDocument.locate? (.of saleItem 0) = some 0 :=
  Document.locate?_of inForce_saleDocument.distinct rfl rfl 0

theorem drawnFrom_saleStarted : saleStarted.drawnFrom saleDocument 0 = 20 := by
  have hdrawn : saleFlight.drawn = 20 := rfl
  have hfresh : Flight.drawnAt saleDocument 0 { ctx := saleContext } = 0 := rfl
  unfold drawnFrom
  rw [flights_saleStarted, List.map_cons, List.map_cons, List.map_nil,
    Flight.drawnAt_of_picked rfl locate?_sale, if_pos rfl, hdrawn, hfresh]
  rfl

/-- A settlement that goes through leaves the cost drawn. -/
theorem drawnFrom_saleTurns {cost : Int} {job : Option Job}
    (hok : (Gateway.settle {} (.succeeded cost) saleFlight.ctx saleStarted.quota).1 = .ok job) :
    ((opened saleQuota [saleContext, saleContext]).run {} (saleTurns cost)).drawnFrom
      saleDocument 0 = cost := by
  have hfirst : saleStarted.flights[0]? = some saleFlight := by rw [flights_saleStarted]; rfl
  have hfresh : Flight.drawnAt saleDocument 0 { ctx := saleContext } = 0 := rfl
  obtain ⟨hpicked, hdrawn⟩ := Flight.drawn_settled rfl rfl hok
  unfold saleTurns drawnFrom
  rw [run_concat]
  change (List.map _ (step {} saleStarted _).flights).sum = cost
  rw [step_eq hfirst, flights_saleStarted]
  unfold Flight.act
  rw [List.set_cons_zero, List.map_cons, List.map_cons, List.map_nil,
    Flight.drawnAt_of_picked hpicked locate?_sale, if_pos rfl, hdrawn, hfresh]
  exact Int.add_zero cost

/-- The request may cost 5 more than was reserved for it. -/
theorem overruns_sale {cost : Int} :
    saleFlight.Overruns saleDocument (fun i => saleStarted.drawnFrom saleDocument i)
      (.succeeded cost) ↔ 25 < cost := by
  have hplace : saleFlight.picked.bind saleDocument.locate? = some 0 := locate?_sale
  have hlacks : saleDocument.Lacks (fun i => saleStarted.drawnFrom saleDocument i) 0 (cost - 20) ↔
      25 < cost := by
    unfold Document.Lacks
    dsimp only
    rw [drawnFrom_saleStarted]
    constructor
    · rintro ⟨e, he, hlacks⟩
      cases he
      dsimp only [saleItem] at hlacks
      omega
    · intro hcost
      refine ⟨saleItem, rfl, ?_⟩
      dsimp only [saleItem]
      omega
  constructor
  · rintro ⟨cost', i, houtcome, hi, -, h⟩
    cases houtcome
    cases hplace.symm.trans hi
    exact hlacks.mp h
  · intro hcost
    exact ⟨cost, 0, rfl, hplace, Int.lt_trans (by decide) hcost, hlacks.mpr hcost⟩

/-- What is left of the entitlement. -/
def SaleLeaves (turns : List (Nat × Action)) (short long : Int) : Prop :=
  ∃ text d e,
    (books ((opened saleQuota [saleContext, saleContext]).run {} turns).quota.store).account 7 =
      some (100, text) ∧
    Document.read text = .ok (d, false) ∧ d.items[0]? = some e ∧ e.Within ∧
    e.short.available = short ∧ e.long.available = long

/-- An extra charge of 2 goes through, a surplus of 11 is given back, and an extra charge of 26 is
refused. -/
theorem run_conserves_entitlements_sale :
    SaleLeaves (saleTurns 22) 3 128 ∧ SaleLeaves (saleTurns 9) 16 141 ∧
      (Gateway.settle {} (.succeeded 46) saleFlight.ctx saleStarted.quota).1 =
        .error .subscriptionExhausted := by
  have hstart : ∀ e ∈ saleDocument.items, e.stale 1000 = false := by decide
  have hmem : saleFlight ∈ saleStarted.flights := by
    rw [flights_saleStarted]
    exact List.mem_cons_self
  have hsettle : ∀ cost, 0 ≤ cost →
      (Gateway.settle {} (.succeeded cost) saleFlight.ctx saleStarted.quota).1 =
          .error .subscriptionExhausted ∧ 25 < cost ∨
        (∃ job, (Gateway.settle {} (.succeeded cost) saleFlight.ctx saleStarted.quota).1 =
          .ok job) ∧ ¬ 25 < cost := by
    intro cost hcost
    obtain ⟨-, -, hflights⟩ :=
      @run_conserves_entitlements MemoryStore _ {} saleDocument 7 100 saleDocument.write _ _
        [saleContext, saleContext] saleQuota [(0, .start 1000 20)] rfl read_saleDocument
        inForce_saleDocument (by decide) (by decide) (List.forall_mem_singleton.mpr hstart)
    obtain ⟨-, -, hfirst⟩ := hflights saleFlight hmem _ rfl
    rw [← overruns_sale]
    exact hfirst rfl (.succeeded cost) hcost
  have hleaves : ∀ cost, 0 ≤ cost → cost ≤ 25 →
      SaleLeaves (saleTurns cost) (25 - cost) (150 - cost) := by
    intro cost hcost hle
    have hcalm : ∀ turn ∈ saleTurns cost, turn.2.Calm saleDocument :=
      List.forall_mem_cons.mpr ⟨hstart, List.forall_mem_singleton.mpr hcost⟩
    obtain ⟨-, ⟨text, d, haccount, hread, -, hitems⟩, -⟩ :=
      @run_conserves_entitlements MemoryStore _ {} saleDocument 7 100 saleDocument.write _ _
        [saleContext, saleContext] saleQuota (saleTurns cost) rfl read_saleDocument
        inForce_saleDocument (by decide) (by decide) hcalm
    obtain ⟨job, hok⟩ := ((hsettle cost hcost).resolve_left fun h => by omega).1
    obtain ⟨e, he, -, hwithin, hshort, hlong⟩ := hitems 0 saleItem rfl
    rw [drawnFrom_saleTurns hok] at hshort hlong
    exact ⟨text, d, e, haccount, hread, he, hwithin, hshort, hlong⟩
  exact ⟨hleaves 22 (by decide) (by decide), hleaves 9 (by decide) (by decide),
    ((hsettle 46 (by decide)).resolve_right fun h => by omega).1⟩

end Traffic

end Turnstile
