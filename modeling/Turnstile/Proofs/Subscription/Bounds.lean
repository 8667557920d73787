import Turnstile.Proofs.Run
import Turnstile.Proofs.Subscription.FirstFit

/-!
# Windows stay within their bounds

A document is pruned, its first usable entitlement is charged, and single entitlements are charged
or refunded later, in any order, at any times and by any amounts.  None of this takes a window
below zero or above what it holds when full, as long as that was so at the start.  Everything else
about an entitlement stays as it was, and an entitlement only goes when a document is pruned and
it is not deployed.

* `Entitlement.adjust_eq` — an adjustment is refused exactly if it is a charge of more than one of
  the windows holds, and draws the same amount from both otherwise;
* `Document.within_perform`, `Document.constant_perform` — one operation;
* `Document.run_within` — any operations one after the other.
-/

set_option autoImplicit false

namespace Turnstile

theorem Word.sub_neg_iff {a b : Int} : Word.sub a b < 0 ↔ a < b := by
  unfold sub saturate least greatest
  omega

namespace Subscription

/-! ## One window -/

namespace Window

/-- The window after `delta` was taken from it; what is put back by a negative `delta` fills it up
to its total at most. -/
def drawn (w : Window) (delta : Int) : Window :=
  { w with
    available := if delta < 0 then min (Word.sub w.available delta) w.total
      else Word.sub w.available delta }

/-- The total of the window alone. -/
def capacity (w : Window) : Window := ⟨w.total, 0, 0⟩

variable {w : Window} {delta : Int}

theorem Within.drawn (h : w.Within) (hfits : delta ≤ w.available) : (w.drawn delta).Within := by
  obtain ⟨hlow, hhigh⟩ := h
  unfold Window.drawn Word.sub Word.saturate Word.least Word.greatest
  constructor <;> dsimp only <;> split <;> omega

/-- Where nothing leaves the words, what is drawn is the amount itself, up to the total. -/
theorem Within.available_drawn (h : w.Within) (hfits : delta ≤ w.available)
    (htotal : Word.InRange w.total) :
    (w.drawn delta).available = min (w.available - delta) w.total := by
  obtain ⟨hlow, hhigh⟩ := h
  unfold Window.drawn Word.sub Word.saturate
  unfold Word.InRange Word.least Word.greatest at *
  dsimp only
  split <;> omega

theorem InRange.drawn (h : w.InRange) (delta : Int) : (w.drawn delta).InRange := by
  refine ⟨h.total, ?_, h.resetAt⟩
  have hleft : Word.InRange (Word.sub w.available delta) := Word.inRange_saturate _
  have htotal := h.total
  unfold Window.drawn Word.InRange at *
  dsimp only
  split <;> omega

theorem Within.rollOver (h : w.Within) (now period : Int) : (w.rollOver now period).Within := by
  obtain ⟨hlow, hhigh⟩ := h
  unfold Window.rollOver
  split
  · exact ⟨Int.le_trans hlow hhigh, Int.le_refl _⟩
  · exact ⟨hlow, hhigh⟩

theorem capacity_rollOver (w : Window) (now period : Int) :
    (w.rollOver now period).capacity = w.capacity := by
  unfold Window.rollOver
  split <;> rfl

end Window

/-! ## One entitlement -/

namespace Entitlement

/-- What never changes about an entitlement: all but what its windows hold and when they end. -/
def constant (e : Entitlement) : Entitlement :=
  { e with short := e.short.capacity, long := e.long.capacity }

/-- `delta` taken from both windows. -/
def drawn (e : Entitlement) (delta : Int) : Entitlement :=
  { e with short := e.short.drawn delta, long := e.long.drawn delta }

/-- The charge is more than one of the windows holds. -/
def Exceeds (e : Entitlement) (delta : Int) : Prop :=
  0 < delta ∧ (e.short.available < delta ∨ e.long.available < delta)

instance (e : Entitlement) (delta : Int) : Decidable (e.Exceeds delta) :=
  inferInstanceAs (Decidable (_ ∧ _))

theorem adjust_eq (e : Entitlement) (delta : Int) :
    e.adjust delta = if e.Exceeds delta then .error .exhausted else .ok (e.drawn delta) := by
  have hexceeds : (decide (0 < delta) && (decide (Word.sub e.short.available delta < 0) ||
      decide (Word.sub e.long.available delta < 0))) = decide (e.Exceeds delta) := by
    rw [← Bool.decide_or, ← Bool.decide_and]
    exact decide_eq_decide.mpr (and_congr_right fun _ =>
      or_congr Word.sub_neg_iff Word.sub_neg_iff)
  unfold adjust
  dsimp only
  rw [hexceeds]
  by_cases h : e.Exceeds delta
  · rw [decide_eq_true h, if_pos rfl, if_pos h]
  · rw [decide_eq_false h, if_neg Bool.false_ne_true, if_neg h]
    rfl

variable {e : Entitlement} {delta : Int}

/-- What is not too much for the windows fits both of them. -/
theorem Within.fits (h : e.Within) (hexceeds : ¬ e.Exceeds delta) :
    delta ≤ e.short.available ∧ delta ≤ e.long.available := by
  obtain ⟨⟨hshort, -⟩, ⟨hlong, -⟩⟩ := h
  unfold Exceeds at hexceeds
  omega

theorem Within.drawn (h : e.Within) (hexceeds : ¬ e.Exceeds delta) : (e.drawn delta).Within :=
  ⟨h.short.drawn (h.fits hexceeds).1, h.long.drawn (h.fits hexceeds).2⟩

theorem Within.rollOver (h : e.Within) (now : Int) : (e.rollOver now).Within :=
  ⟨h.short.rollOver now fiveHours, h.long.rollOver now sevenDays⟩

theorem constant_rollOver (e : Entitlement) (now : Int) :
    (e.rollOver now).constant = e.constant := by
  unfold constant rollOver
  dsimp only
  rw [Window.capacity_rollOver, Window.capacity_rollOver]

end Entitlement

/-! ## Operations on a document -/

/-- What is done to a document. -/
inductive Operation where
  | prune (now : Int)
  /-- Charges the first usable entitlement. -/
  | charge (now amount : Int)
  /-- Charges or refunds the entitlement at a place. -/
  | adjust (i : Nat) (delta : Int)

/-- Only pruning drops entitlements. -/
def Operation.prunes : Operation → Bool
  | .prune _ => true
  | .charge _ _ => false
  | .adjust _ _ => false

namespace Document

/-- Carries out an operation. -/
def perform (o : Operation) (d : Document) : Except ChargeError Unit × Document :=
  match o with
  | .prune now => (.ok (), d.pruned now)
  | .charge now amount => match d.charge? now amount with
    | none => (.error .exhausted, d)
    | some (d', _) => (.ok (), d')
  | .adjust i delta => match d.items[i]? with
    | none => (.ok (), d)
    | some e => match e.adjust delta with
      | .error x => (.error x, d)
      | .ok e' => (.ok (), d.put i e')

/-- The document after operations one after the other. -/
def run (operations : List Operation) (d : Document) : Document :=
  operations.foldl (fun d o => (d.perform o).2) d

/-- No window holds less than nothing or more than when full. -/
def Within (d : Document) : Prop := ∀ e ∈ d.items, e.Within

/-- The integers of all windows are signed 64-bit words. -/
def WindowsInRange (d : Document) : Prop := ∀ e ∈ d.items, e.short.InRange ∧ e.long.InRange

variable {d : Document}

/-- A charge is refused, or it goes to the first entitlement that is eligible. -/
theorem charge?_cases (d : Document) (now amount : Int) :
    d.charge? now amount = none ∨
      ∃ i e, 0 ≤ amount ∧ d.FirstEligible now amount i e ∧
        d.charge? now amount = some (d.put i (e.debit amount), .of e i) := by
  unfold charge?
  by_cases hamount : amount < 0
  · rw [if_pos hamount]
    exact .inl rfl
  · rw [if_neg hamount]
    have hnonneg := Int.not_lt.mp hamount
    rcases d.firstUsable?_cases hnonneg with ⟨hnone, -⟩ | ⟨i, e, hsome, hfirst⟩
    · rw [hnone]
      exact .inl rfl
    · rw [hsome]
      dsimp only
      rw [hfirst.item]
      exact .inr ⟨i, e, hnonneg, hfirst, rfl⟩

/-- An adjustment of the entitlement at a place. -/
theorem perform_adjust {i : Nat} {e : Entitlement} (hi : d.items[i]? = some e) (delta : Int) :
    d.perform (.adjust i delta) =
      if e.Exceeds delta then (.error .exhausted, d) else (.ok (), d.put i (e.drawn delta)) := by
  simp only [perform]
  rw [hi]
  dsimp only
  rw [e.adjust_eq delta]
  by_cases hexceeds : e.Exceeds delta
  · rw [if_pos hexceeds, if_pos hexceeds]
  · rw [if_neg hexceeds, if_neg hexceeds]

/-- All that an operation can do: nothing, if it is refused or has nothing to work on; prune; or
put in the place of an entitlement what is left of it, after a charge that it is eligible for or
after an adjustment that is not too much for it. -/
theorem perform_cases (o : Operation) (d : Document) :
    ((d.perform o).2 = d ∧ o.prunes = false) ∨
    (∃ now, o = .prune now ∧ d.perform o = (.ok (), d.pruned now)) ∨
    ∃ i e e', d.items[i]? = some e ∧ o.prunes = false ∧ d.perform o = (.ok (), d.put i e') ∧
      ((∃ now amount, 0 ≤ amount ∧ e.Eligible now amount ∧ e' = e.debit amount) ∨
        ∃ delta, ¬ e.Exceeds delta ∧ e' = e.drawn delta) := by
  cases o with
  | prune now => exact .inr (.inl ⟨now, rfl, rfl⟩)
  | charge now amount =>
    simp only [perform]
    rcases d.charge?_cases now amount with hnone | ⟨i, e, hnonneg, hfirst, hsome⟩
    · rw [hnone]
      exact .inl ⟨rfl, rfl⟩
    · rw [hsome]
      exact .inr (.inr ⟨i, e, _, hfirst.item, rfl, rfl,
        .inl ⟨now, amount, hnonneg, hfirst.eligible, rfl⟩⟩)
  | adjust i delta =>
    cases hi : d.items[i]? with
    | none =>
      simp only [perform]
      rw [hi]
      exact .inl ⟨rfl, rfl⟩
    | some e =>
      rw [perform_adjust hi]
      by_cases hexceeds : e.Exceeds delta
      · rw [if_pos hexceeds]
        exact .inl ⟨rfl, rfl⟩
      · rw [if_neg hexceeds]
        exact .inr (.inr ⟨i, e, _, hi, rfl, rfl, .inr ⟨delta, hexceeds, rfl⟩⟩)

theorem within_put (h : d.Within) {i : Nat} {e : Entitlement} (he : e.Within) :
    (d.put i e).Within := by
  intro e' he'
  rcases List.mem_or_eq_of_mem_set he' with he' | rfl
  · exact h e' he'
  · exact he

theorem within_perform (h : d.Within) (o : Operation) : (d.perform o).2.Within := by
  rcases perform_cases o d with ⟨hsame, -⟩ | ⟨now, -, hpruned⟩ |
    ⟨i, e, e', hi, -, hput, ⟨now, amount, hamount, heligible, rfl⟩ | ⟨delta, hexceeds, rfl⟩⟩
  · rw [hsame]
    exact h
  · rw [hpruned]
    intro e he
    obtain ⟨e', he', -, rfl⟩ := mem_pruned.mp he
    exact (h e' he').rollOver now
  · rw [hput]
    exact within_put h (heligible.within (h e (List.mem_of_getElem? hi)) hamount)
  · rw [hput]
    exact within_put h ((h e (List.mem_of_getElem? hi)).drawn hexceeds)

/-- An operation changes nothing that is constant, and leaves out what is not deployed if it
prunes. -/
theorem constant_perform (o : Operation) (d : Document) :
    (d.perform o).2.items.map Entitlement.constant =
      (d.items.map Entitlement.constant).filter fun e => e.deployed || !o.prunes := by
  have hall : ∀ l : List Entitlement, (l.filter fun e => e.deployed || !false) = l := by
    simp
  rcases perform_cases o d with ⟨hsame, hprunes⟩ | ⟨now, rfl, hpruned⟩ |
    ⟨i, e, e', hi, hprunes, hput, hchange⟩
  · rw [hsame, hprunes, hall]
  · have hkept : (fun e : Entitlement => e.deployed || !(Operation.prune now).prunes) ∘
        Entitlement.constant = Entitlement.deployed := funext fun e => Bool.or_false _
    have hconstant : Entitlement.constant ∘ (·.rollOver now) = Entitlement.constant :=
      funext fun e => e.constant_rollOver now
    rw [hpruned, List.filter_map, hkept]
    unfold Document.pruned
    dsimp only
    rw [List.map_map, hconstant]
  · rw [hput, hprunes, hall]
    refine map_put hi ?_
    rcases hchange with ⟨now, amount, -, -, rfl⟩ | ⟨delta, -, rfl⟩
    · rfl
    · rfl

/-- No operation takes an integer of a window out of the words. -/
theorem inRange_perform (h : d.Within) (hrange : d.WindowsInRange) (o : Operation) :
    (d.perform o).2.WindowsInRange := by
  have hput : ∀ {i : Nat} {e : Entitlement}, e.short.InRange ∧ e.long.InRange →
      (d.put i e).WindowsInRange := by
    intro i e he e' he'
    rcases List.mem_or_eq_of_mem_set he' with he' | rfl
    · exact hrange e' he'
    · exact he
  rcases perform_cases o d with ⟨hsame, -⟩ | ⟨now, -, hpruned⟩ |
    ⟨i, e, e', hi, -, hdone, ⟨now, amount, hamount, heligible, rfl⟩ | ⟨delta, -, rfl⟩⟩
  · rw [hsame]
    exact hrange
  · rw [hpruned]
    intro e he
    obtain ⟨e', he', -, rfl⟩ := mem_pruned.mp he
    obtain ⟨hshort, hlong⟩ := hrange e' he'
    exact ⟨Window.inRange_rollOver hshort now fiveHours, Window.inRange_rollOver hlong now sevenDays⟩
  · rw [hdone]
    have hmem := List.mem_of_getElem? hi
    obtain ⟨hshort, hlong⟩ := hrange e hmem
    obtain ⟨hs, hl⟩ := heligible.within (h e hmem) hamount
    exact hput ⟨⟨hshort.total, hs.inRange hshort.total, hshort.resetAt⟩,
      ⟨hlong.total, hl.inRange hlong.total, hlong.resetAt⟩⟩
  · rw [hdone]
    obtain ⟨hshort, hlong⟩ := hrange e (List.mem_of_getElem? hi)
    exact hput ⟨hshort.drawn delta, hlong.drawn delta⟩

/-! ## Any operations -/

theorem within_run (h : d.Within) (operations : List Operation) : (d.run operations).Within := by
  have hstep : ∀ (d : Document) (o : Operation), d.Within → (d.perform o).2.Within :=
    fun _ o h => within_perform h o
  exact Run.keeps hstep operations h

theorem inRange_run (h : d.Within) (hrange : d.WindowsInRange) (operations : List Operation) :
    (d.run operations).WindowsInRange := by
  have hstep : ∀ (d : Document) (o : Operation), d.Within ∧ d.WindowsInRange →
      (d.perform o).2.Within ∧ (d.perform o).2.WindowsInRange :=
    fun _ o h => ⟨within_perform h.1 o, inRange_perform h.1 h.2 o⟩
  exact (Run.keeps hstep operations ⟨h, hrange⟩).2

theorem constant_run (operations : List Operation) (d : Document) :
    (d.run operations).items.map Entitlement.constant =
      (d.items.map Entitlement.constant).filter
        fun e => e.deployed || !operations.any Operation.prunes := by
  induction operations generalizing d with
  | nil => simp [run]
  | cons o rest ih =>
    unfold run at ih ⊢
    rw [List.foldl_cons, ih, constant_perform, List.filter_filter]
    congr 1
    funext e
    rw [List.any_cons, Bool.not_or]
    cases e.deployed <;> simp [Bool.and_comm]

/-- After any operations on a document whose windows are within their bounds they still are, and
all but the windows is as it was: the entitlements that are left are those from the start, in
their order, without those that are not deployed if there was any pruning.  An operation that is
refused changes nothing; an adjustment is refused exactly if it is a charge of more than one of the
windows holds.  Among words the windows hold words, and an adjustment that is not refused draws its
amount from both, where a refund goes no further than the total. -/
theorem run_within (h : d.Within) (operations : List Operation) :
    let left := d.run operations
    (∀ e ∈ left.items, (0 ≤ e.short.available ∧ e.short.available ≤ e.short.total) ∧
      0 ≤ e.long.available ∧ e.long.available ≤ e.long.total) ∧
    left.items.map Entitlement.constant =
      (d.items.filter fun e => e.deployed || !operations.any Operation.prunes).map
        Entitlement.constant ∧
    (∀ o x, (left.perform o).1 = .error x → (left.perform o).2 = left) ∧
    (∀ i e delta, left.items[i]? = some e →
      ((left.perform (.adjust i delta)).1 = .error .exhausted ↔
        0 < delta ∧ (e.short.available < delta ∨ e.long.available < delta))) ∧
    (d.WindowsInRange → left.WindowsInRange ∧
      ∀ i e delta, left.items[i]? = some e → (left.perform (.adjust i delta)).1 = .ok () →
        ∃ e', (left.perform (.adjust i delta)).2 = left.put i e' ∧ e'.constant = e.constant ∧
          e'.short.available = min (e.short.available - delta) e.short.total ∧
          e'.long.available = min (e.long.available - delta) e.long.total) := by
  intro left
  have hwithin : left.Within := within_run h operations
  refine ⟨fun e he => ?_, ?_, fun o x hrefused => ?_, fun i e delta hi => ?_, fun hrange => ?_⟩
  · obtain ⟨⟨hs, hs'⟩, hl, hl'⟩ := hwithin e he
    exact ⟨⟨hs, hs'⟩, hl, hl'⟩
  · rw [constant_run, List.filter_map]
    rfl
  · rcases perform_cases o left with ⟨hsame, -⟩ | ⟨now, -, hdone⟩ | ⟨i, e, e', -, -, hdone, -⟩
    · exact hsame
    · rw [hdone] at hrefused
      cases hrefused
    · rw [hdone] at hrefused
      cases hrefused
  · rw [perform_adjust hi]
    by_cases hexceeds : e.Exceeds delta
    · rw [if_pos hexceeds]
      exact ⟨fun _ => hexceeds, fun _ => rfl⟩
    · rw [if_neg hexceeds]
      exact ⟨nofun, fun hmore => absurd hmore hexceeds⟩
  · have hleft := inRange_run h hrange operations
    refine ⟨hleft, fun i e delta hi hok => ?_⟩
    rw [perform_adjust hi] at hok ⊢
    by_cases hexceeds : e.Exceeds delta
    · rw [if_pos hexceeds] at hok
      cases hok
    · rw [if_neg hexceeds]
      have hmem := List.mem_of_getElem? hi
      obtain ⟨hshort, hlong⟩ := (hwithin e hmem).fits hexceeds
      obtain ⟨hsrange, hlrange⟩ := hleft e hmem
      exact ⟨e.drawn delta, rfl, rfl, (hwithin e hmem).short.available_drawn hshort hsrange.total,
        (hwithin e hmem).long.available_drawn hlong hlrange.total⟩

/-- A refund and a charge as large as they come, a charge of the first usable entitlement, and
pruning, which drops the first and fills a window of the last. -/
def handled : List Operation :=
  [.adjust 1 Word.least, .adjust 1 Word.greatest, .charge 1000 20, .prune 1000, .adjust 0 (-5)]

theorem run_within_shelf :
    shelfDocument.Within ∧
      (∀ e ∈ (shelfDocument.run handled).items,
        (0 ≤ e.short.available ∧ e.short.available ≤ e.short.total) ∧
          0 ≤ e.long.available ∧ e.long.available ≤ e.long.total) ∧
      (shelfDocument.run handled).items.map (fun e => (e.short.available, e.long.available)) =
        [(25, 185), (40, 150)] := by
  have hwithin : shelfDocument.Within := by
    unfold Within
    simp only [shelfDocument, List.forall_mem_cons]
    exact ⟨⟨⟨by decide, by decide⟩, ⟨by decide, by decide⟩⟩,
      ⟨⟨by decide, by decide⟩, ⟨by decide, by decide⟩⟩,
      ⟨⟨by decide, by decide⟩, ⟨by decide, by decide⟩⟩, List.forall_mem_nil _⟩
  exact ⟨hwithin, (run_within hwithin handled).1, by decide⟩

end Document

end Subscription

end Turnstile
