import Turnstile.Proofs.Subscription.Schedule

/-!
# Seconds and milliseconds

The unit of a point in time is told from its size alone, anew at every comparison.  A point in
seconds that is large enough to be read as milliseconds a thousand times as large may be stored in
either unit, each point of a document by itself.  Two documents that differ in no more than this
are pruned alike and charged alike, and still differ in no more than this afterwards: the end of a
window is taken on in its own unit, and never so far that its unit is taken for the other.

* `SameTime.scale` — a comparison with the clock comes out the same in both units;
* `SameTime.advance` — the end of a window is taken on alike;
* `Document.Restated.perform`, `Document.run_restated` — one operation, and any number of them.
-/

set_option autoImplicit false

namespace Turnstile.Subscription

/-- A thousand times as large, seconds above this one are read as milliseconds. -/
def restatableAbove : Int := 1000000000

/-- `b` is the point in time `a`, or the same in milliseconds. -/
def SameTime (a b : Int) : Prop :=
  b = a ∨ (restatableAbove < a ∧ a ≤ millisecondsAbove ∧ b = a * 1000)

/-- The two windows differ at most in the unit of their end. -/
structure Window.Restated (w w' : Window) : Prop where
  total : w'.total = w.total
  available : w'.available = w.available
  resetAt : SameTime w.resetAt w'.resetAt

/-- The two terms differ at most in the units of their bounds. -/
structure Term.Restated (t t' : Term) : Prop where
  startAt : SameTime t.startAt t'.startAt
  endAt : SameTime t.endAt t'.endAt
  autoRenew : t'.autoRenew = t.autoRenew

/-- The two entitlements differ at most in the units of their points in time. -/
structure Entitlement.Restated (e e' : Entitlement) : Prop where
  rest : { e' with short := e.short, long := e.long, term := e.term } = e
  short : e.short.Restated e'.short
  long : e.long.Restated e'.long
  term : e.term.Restated e'.term

/-- The two documents differ at most in the units of the points in time of their entitlements. -/
structure Document.Restated (d d' : Document) : Prop where
  items : List.Forall₂ Entitlement.Restated d.items d'.items
  lastResetAt : d'.lastResetAt = d.lastResetAt

/-! ## Points in time -/

namespace SameTime

variable {a b t now period : Int}

/-- The other unit scales the point and the clock alike. -/
theorem scale (h : SameTime a b) :
    ∃ k, (k = 1 ∨ k = 1000) ∧ b = a * k ∧
      ∀ t, 0 ≤ t → t ≤ millisecondsAbove → inUnitOf b t = inUnitOf a t * k := by
  rcases h with rfl | ⟨hlow, hhigh, rfl⟩
  · exact ⟨1, .inl rfl, (Int.mul_one _).symm, fun t _ _ => (Int.mul_one _).symm⟩
  · refine ⟨1000, .inr rfl, rfl, fun t hlow' hhigh' => ?_⟩
    rw [inUnitOf_seconds hhigh]
    refine inUnitOf_milliseconds ?_ hlow' hhigh'
    unfold restatableAbove at hlow
    unfold millisecondsAbove
    omega

/-- The clock is past the point in both units or in neither. -/
theorem lt_iff (h : SameTime a b) (hlow : 0 ≤ t) (hhigh : t ≤ millisecondsAbove) :
    b < inUnitOf b t ↔ a < inUnitOf a t := by
  obtain ⟨k, hk, rfl, hclock⟩ := h.scale
  rw [hclock t hlow hhigh]
  rcases hk with rfl | rfl <;> omega

/-- The clock has reached the point in both units or in neither. -/
theorem le_iff (h : SameTime a b) (hlow : 0 ≤ t) (hhigh : t ≤ millisecondsAbove) :
    b ≤ inUnitOf b t ↔ a ≤ inUnitOf a t := by
  obtain ⟨k, hk, rfl, hclock⟩ := h.scale
  rw [hclock t hlow hhigh]
  rcases hk with rfl | rfl <;> omega

theorem eq_zero_iff (h : SameTime a b) : b = 0 ↔ a = 0 := by
  obtain ⟨k, hk, rfl, -⟩ := h.scale
  rcases hk with rfl | rfl <;> omega

/-- The end of a window is taken to the same point in both units. -/
theorem advance (h : SameTime a b) (hlow : 0 ≤ now) (hlast : now ≤ lastReading)
    (hperiod : 0 < period) (hseven : period ≤ sevenDays) (hstale : a < inUnitOf a now) :
    SameTime (advance a now period) (Subscription.advance b now period) := by
  have hhigh : now ≤ millisecondsAbove := hlast.trans (by decide)
  have hstale' := (h.lt_iff hlow hhigh).mpr hstale
  rcases h with rfl | ⟨hsecond, hsecond', rfl⟩
  · exact .inl rfl
  have hset : 0 < a := by
    unfold restatableAbove at hsecond
    omega
  have hms : millisecondsAbove < a * 1000 := by
    unfold restatableAbove at hsecond
    unfold millisecondsAbove
    omega
  obtain ⟨hnext, hstepped, hgrid⟩ :=
    Window.advance_spec hlow hlast hperiod hseven hstale
  obtain ⟨hnext', hstepped', hgrid'⟩ :=
    Window.advance_spec hlow hlast hperiod hseven hstale'
  have hdvd := hgrid hset
  have hdvd' := hgrid' (by omega)
  rw [inUnitOf_seconds hsecond'] at hnext hstepped hdvd hstale
  rw [inUnitOf_seconds hsecond'] at hstepped
  rw [inUnitOf_milliseconds hms hlow hhigh] at hnext' hstepped'
  rw [inUnitOf_milliseconds hms (Int.le_of_lt hperiod) (hseven.trans (by decide))] at hstepped' hdvd'
  -- A thousand times the end in seconds is the point of the finer grid in the same step.
  have hscaled : period * 1000 ∣ Subscription.advance a now period * 1000 - a * 1000 := by
    rw [← Int.sub_mul]
    exact Int.mul_dvd_mul_right 1000 hdvd
  have hsame : Subscription.advance (a * 1000) now period =
      Subscription.advance a now period * 1000 :=
    eq_of_grid hdvd' hscaled hnext' hstepped' (by omega) (by omega)
  unfold lastReading at hlast
  exact .inr ⟨by omega, by omega, hsame⟩

end SameTime

/-! ## Windows, terms and entitlements -/

section Parts

variable {now amount delta : Int}

theorem Window.Restated.stale {w w' : Window} (h : w.Restated w') (hlow : 0 ≤ now)
    (hlast : now ≤ lastReading) : w'.stale now = w.stale now :=
  decide_eq_decide.mpr (h.resetAt.lt_iff hlow (hlast.trans (by decide)))

theorem Window.Restated.rollOver {w w' : Window} (h : w.Restated w') (hlow : 0 ≤ now)
    (hlast : now ≤ lastReading) {period : Int} (hperiod : 0 < period)
    (hseven : period ≤ sevenDays) :
    (w.rollOver now period).Restated (w'.rollOver now period) := by
  unfold Window.rollOver
  rw [h.stale hlow hlast]
  split
  · rename_i hstale
    exact ⟨h.total, h.total,
      h.resetAt.advance hlow hlast hperiod hseven (of_decide_eq_true hstale)⟩
  · exact h

theorem Window.Restated.drawn {w w' : Window} (h : w.Restated w') (delta : Int) :
    (w.drawn delta).Restated (w'.drawn delta) := by
  refine ⟨h.total, ?_, h.resetAt⟩
  unfold Window.drawn
  rw [h.available, h.total]

theorem Term.Restated.contains {t t' : Term} (h : t.Restated t') (hlow : 0 ≤ now)
    (hlast : now ≤ lastReading) : t'.contains now = t.contains now := by
  have hhigh : now ≤ millisecondsAbove := hlast.trans (by decide)
  have hended : inUnitOf t'.endAt now ≤ t'.endAt ↔ inUnitOf t.endAt now ≤ t.endAt := by
    rw [← Int.not_lt, ← Int.not_lt, h.endAt.lt_iff hlow hhigh]
  unfold Term.contains
  rw [Bool.eq_iff_iff]
  simp only [Bool.and_eq_true, bne_iff_ne, ne_eq, decide_eq_true_eq, h.startAt.eq_zero_iff,
    h.endAt.eq_zero_iff, h.startAt.le_iff hlow hhigh, hended]

namespace Entitlement.Restated

variable {e e' : Entitlement} (h : e.Restated e')

include h

theorem deployed : e'.deployed = e.deployed := by
  rw [← h.rest]
  rfl

theorem stale (hlow : 0 ≤ now) (hlast : now ≤ lastReading) : e'.stale now = e.stale now := by
  unfold Entitlement.stale
  rw [h.short.stale hlow hlast, h.long.stale hlow hlast]

theorem usable (hlow : 0 ≤ now) (hlast : now ≤ lastReading) (amount : Int) :
    e'.usable now amount = e.usable now amount := by
  unfold Entitlement.usable
  rw [h.deployed, h.short.available, h.long.available, h.term.contains hlow hlast]

theorem rollOver (hlow : 0 ≤ now) (hlast : now ≤ lastReading) :
    (e.rollOver now).Restated (e'.rollOver now) := by
  refine ⟨?_, h.short.rollOver hlow hlast (by decide) (by decide),
    h.long.rollOver hlow hlast (by decide) (by decide), h.term⟩
  conv_rhs => rw [← h.rest]
  rfl

theorem debit (amount : Int) : (e.debit amount).Restated (e'.debit amount) := by
  refine ⟨?_, ⟨h.short.total, ?_, h.short.resetAt⟩, ⟨h.long.total, ?_, h.long.resetAt⟩, h.term⟩
  · conv_rhs => rw [← h.rest]
    rfl
  · unfold Entitlement.debit
    rw [h.short.available]
  · unfold Entitlement.debit
    rw [h.long.available]

theorem exceeds_iff (delta : Int) : e'.Exceeds delta ↔ e.Exceeds delta := by
  unfold Entitlement.Exceeds
  rw [h.short.available, h.long.available]

theorem drawn (delta : Int) : (e.drawn delta).Restated (e'.drawn delta) := by
  refine ⟨?_, h.short.drawn delta, h.long.drawn delta, h.term⟩
  conv_rhs => rw [← h.rest]
  rfl

end Entitlement.Restated

end Parts

/-! ## Documents -/

/-- An operation at a reading of the clock. -/
def Operation.Timely : Operation → Prop
  | .prune now => 0 ≤ now ∧ now ≤ lastReading
  | .charge now _ => 0 ≤ now ∧ now ≤ lastReading
  | .adjust _ _ => True

namespace Document

variable {d d' : Document} {now amount : Int} {i : Nat} {e e' : Entitlement}

/-- What does not tell an entitlement from its counterpart is the same of both lists. -/
theorem map_eq_of_restated {α : Type} {f : Entitlement → α} {l l' : List Entitlement}
    (h : List.Forall₂ Entitlement.Restated l l') (hf : ∀ e e', e.Restated e' → f e' = f e) :
    l'.map f = l.map f := by
  rw [← List.forall₂_eq_eq_eq, List.forall₂_map_left_iff, List.forall₂_map_right_iff]
  exact (h.imp fun e e' he => hf e e' he).flip

theorem any_eq_of_restated {f : Entitlement → Bool} {l l' : List Entitlement}
    (h : List.Forall₂ Entitlement.Restated l l') (hf : ∀ e e', e.Restated e' → f e' = f e) :
    l'.any f = l.any f := by
  have hany := congrArg (List.any · id) (map_eq_of_restated h hf)
  simp only [List.any_map] at hany
  exact hany

theorem Restated.counterpart (h : d.Restated d') (hi : d.items[i]? = some e) :
    ∃ e', d'.items[i]? = some e' ∧ e.Restated e' := by
  obtain ⟨hlt, rfl⟩ := List.getElem?_eq_some_iff.mp hi
  have hlt' : i < d'.items.length := h.items.length_eq ▸ hlt
  exact ⟨_, List.getElem?_eq_getElem hlt', h.items.get hlt hlt'⟩

theorem Restated.put (h : d.Restated d') (i : Nat) (he : e.Restated e') :
    (d.put i e).Restated (d'.put i e') := by
  refine ⟨?_, h.lastResetAt⟩
  show List.Forall₂ _ (d.items.set i e) (d'.items.set i e')
  rw [List.forall₂_iff_get]
  refine ⟨by rw [List.length_set, List.length_set, h.items.length_eq], fun j hj hj' => ?_⟩
  rw [List.length_set] at hj hj'
  simp only [List.get_eq_getElem, List.getElem_set]
  split
  · exact he
  · exact h.items.get hj hj'

section Readings

variable (hlow : 0 ≤ now) (hlast : now ≤ lastReading)

include hlow hlast

/-- Both documents ask for pruning or neither does. -/
theorem Restated.needsPruning (h : d.Restated d') :
    d'.needsPruning now = d.needsPruning now :=
  any_eq_of_restated h.items fun e e' he => by rw [he.deployed, he.stale hlow hlast]

theorem Restated.pruned (h : d.Restated d') : (d.pruned now).Restated (d'.pruned now) := by
  have hkept : List.Forall₂ Entitlement.Restated (d.items.filter Entitlement.deployed)
      (d'.items.filter Entitlement.deployed) :=
    List.rel_filter (fun e e' he => iff_of_eq (congrArg (· = true) he.deployed.symm)) h.items
  constructor
  · show List.Forall₂ _ (List.map _ _) (List.map _ _)
    rw [List.forall₂_map_left_iff, List.forall₂_map_right_iff]
    exact hkept.imp fun e e' he => he.rollOver hlow hlast
  · unfold Document.pruned
    dsimp only
    rw [any_eq_of_restated hkept fun e e' he => he.stale hlow hlast, h.lastResetAt]

/-- The first usable entitlement stands at the same place in both. -/
theorem Restated.firstUsable? (h : d.Restated d') (amount : Int) :
    d'.firstUsable? now amount = d.firstUsable? now amount := by
  have hall := map_eq_of_restated h.items (f := (·.usable now amount))
    fun e e' he => he.usable hlow hlast amount
  have hfind := congrArg (List.findIdx? id) hall
  rw [List.findIdx?_map, List.findIdx?_map] at hfind
  exact hfind

/-- A charge goes to the same place in both documents, or to none in either. -/
theorem Restated.charge (h : d.Restated d') (amount : Int) :
    (d.charge? now amount = none ∧ d'.charge? now amount = none) ∨
    ∃ i e e', d.items[i]? = some e ∧ d'.items[i]? = some e' ∧
      d.charge? now amount = some (d.put i (e.debit amount), .of e i) ∧
      d'.charge? now amount = some (d'.put i (e'.debit amount), .of e' i) ∧
      (d.put i (e.debit amount)).Restated (d'.put i (e'.debit amount)) := by
  have husable := h.firstUsable? hlow hlast amount
  unfold charge?
  by_cases hamount : amount < 0
  · exact .inl ⟨if_pos hamount, if_pos hamount⟩
  rw [if_neg hamount, if_neg hamount, husable]
  rcases d.firstUsable?_cases (Int.not_lt.mp hamount) with ⟨hnone, -⟩ | ⟨i, e, hsome, hfirst⟩
  · rw [hnone]
    exact .inl ⟨rfl, rfl⟩
  · obtain ⟨e', hi', he⟩ := h.counterpart hfirst.item
    rw [hsome]
    dsimp only
    rw [hfirst.item, hi']
    exact .inr ⟨i, e, e', hfirst.item, hi', rfl, rfl, h.put i (he.debit amount)⟩

end Readings

/-- One operation. -/
theorem Restated.perform (h : d.Restated d') {o : Operation} (htimely : o.Timely) :
    (d.perform o).2.Restated (d'.perform o).2 := by
  cases o with
  | prune now => exact h.pruned htimely.1 htimely.2
  | charge now amount =>
    simp only [Document.perform]
    rcases h.charge htimely.1 htimely.2 amount with
      ⟨hnone, hnone'⟩ | ⟨i, e, e', -, -, hsome, hsome', hput⟩
    · rw [hnone, hnone']
      exact h
    · rw [hsome, hsome']
      exact hput
  | adjust i delta =>
    cases hi : d.items[i]? with
    | none =>
      have hi' : d'.items[i]? = none := by
        rw [List.getElem?_eq_none_iff] at hi ⊢
        rwa [← h.items.length_eq]
      simp only [Document.perform, hi, hi']
      exact h
    | some e =>
      obtain ⟨e', hi', he⟩ := h.counterpart hi
      rw [perform_adjust hi, perform_adjust hi']
      simp only [he.exceeds_iff]
      split
      · exact h
      · exact h.put i (he.drawn delta)

/-- Any number of operations leave two documents that differ in units of points in time alone, and
so whatever is done next goes the same way: pruning changes both or neither, and a charge goes to
the entitlement at the same place, or to none.  Nothing but the units differs afterwards. -/
theorem run_restated (h : d.Restated d') {operations : List Operation}
    (htimely : ∀ o ∈ operations, o.Timely) :
    let left := d.run operations
    let left' := d'.run operations
    left.Restated left' ∧
    ∀ now, 0 ≤ now → now ≤ lastReading →
      (left'.needsPruning now = left.needsPruning now ∧
        (left.pruned now).Restated (left'.pruned now)) ∧
      ∀ amount, (left.charge? now amount = none ∧ left'.charge? now amount = none) ∨
        ∃ i e e', left.items[i]? = some e ∧ left'.items[i]? = some e' ∧
          left.charge? now amount = some (left.put i (e.debit amount), .of e i) ∧
          left'.charge? now amount = some (left'.put i (e'.debit amount), .of e' i) ∧
          (left.put i (e.debit amount)).Restated (left'.put i (e'.debit amount)) := by
  have hrun : (d.run operations).Restated (d'.run operations) := by
    unfold run
    induction operations generalizing d d' with
    | nil => exact h
    | cons o rest ih =>
      exact ih (h.perform (htimely o List.mem_cons_self))
        fun o' ho' => htimely o' (List.mem_cons_of_mem o ho')
  exact ⟨hrun, fun now hlow hlast => ⟨⟨hrun.needsPruning hlow hlast, hrun.pruned hlow hlast⟩,
    hrun.charge hlow hlast⟩⟩

/-- An entitlement with the ends of its windows and the bounds of its term. -/
def dated (short long startAt endAt : Int) : Entitlement :=
  { shelved "s1" "deployed" ⟨40, 5, short⟩ with
    long := ⟨200, 150, long⟩, term := ⟨startAt, endAt, false⟩ }

/-- All in seconds. -/
def inSeconds : Document := ⟨[dated 1699990000 1700500000 1600000000 1800000000], 0⟩

/-- The end of the short window and that of the term in milliseconds. -/
def inBoth : Document := ⟨[dated 1699990000000 1700500000 1600000000 1800000000000], 0⟩

theorem run_restated_both :
    let operations : List Operation :=
      [.prune 1700000000, .charge 1700000000 20, .prune 1700600000]
    let left := inSeconds.run operations
    let left' := inBoth.run operations
    inSeconds.Restated inBoth ∧ (∀ o ∈ operations, o.Timely) ∧ left.Restated left' ∧
      left'.needsPruning 1700620000 = left.needsPruning 1700620000 ∧
      left.items.map (fun e => (e.short.resetAt, e.long.resetAt)) =
        [(1700602000, 1701104800)] ∧
      left'.items.map (fun e => (e.short.resetAt, e.long.resetAt)) =
        [(1700602000000, 1701104800)] := by
  intro operations left left'
  have hrestated : inSeconds.Restated inBoth := by
    refine ⟨.cons ⟨rfl, ⟨rfl, rfl, ?_⟩, ⟨rfl, rfl, .inl rfl⟩, ⟨.inl rfl, ?_, rfl⟩⟩ .nil, rfl⟩
    · exact .inr ⟨by decide, by decide, rfl⟩
    · exact .inr ⟨by decide, by decide, rfl⟩
  have htimely : ∀ o ∈ operations, o.Timely := by
    simp only [operations, List.forall_mem_cons]
    exact ⟨⟨by decide, by decide⟩, ⟨by decide, by decide⟩, ⟨by decide, by decide⟩,
      List.forall_mem_nil _⟩
  obtain ⟨hleft, hnext⟩ := run_restated hrestated htimely
  exact ⟨hrestated, htimely, hleft, (hnext 1700620000 (by decide) (by decide)).1.1, by decide,
    by decide⟩

end Document

end Turnstile.Subscription
