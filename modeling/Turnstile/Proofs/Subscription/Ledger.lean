import Turnstile.Subscription.Ledger
import Turnstile.Proofs.Subscription.RoundTrip
import Turnstile.Proofs.Subscription.Selection

/-!
# What the ledger does to a document

As long as no window is stale and every entitlement is deployed, a document that started as `d₀`
differs from it only in what has been drawn from each entitlement, the same amount from both of
its windows (`Document.Tracks`).  A reservation draws its amount from one entitlement, an
adjustment its delta from the one that a selection names; either may be refused as exhausted, and
nothing else can go wrong.

* `Entitlement.adjust_cases` — an adjustment draws its delta unless that is too much;
* `Document.firstUsable?_cases`, `reserveIn_of_read` — a reservation charges the first entitlement
  that is eligible;
* `adjustIn_of_read` — an adjustment adjusts the entitlement that the selection leads to;
* `reserveIn_holds`, `adjustIn_holds` — the two changes of a stored text.
-/

set_option autoImplicit false

namespace Turnstile.Subscription

/-- Neither less than nothing nor more than it holds when full. -/
structure Window.Within (w : Window) : Prop where
  nonneg : 0 ≤ w.available
  le_total : w.available ≤ w.total

/-- What a window may hold fits a word. -/
theorem Window.Within.inRange {w : Window} (h : w.Within) (htotal : Word.InRange w.total) :
    Word.InRange w.available := by
  obtain ⟨hlow, hhigh⟩ := h
  obtain ⟨-, htotal⟩ := htotal
  constructor
  · unfold Word.least
    omega
  · omega

namespace Entitlement

/-- Both windows hold what they may hold. -/
structure Within (e : Entitlement) : Prop where
  short : e.short.Within
  long : e.long.Within

/-- The same entitlement, but for the members without a meaning. -/
def Alike (e e' : Entitlement) : Prop := { e with extra := e'.extra } = e'

theorem Alike.refl (e : Entitlement) : e.Alike e := rfl

theorem alike_echo (e : Entitlement) : e.echo.Alike e := rfl

theorem Alike.trans {e e' e'' : Entitlement} (h : e.Alike e') (h' : e'.Alike e'') :
    e.Alike e'' := by
  unfold Alike at h h' ⊢
  rw [← h', ← h]

theorem Alike.debit {e e' : Entitlement} (h : e.Alike e') (amount : Int) :
    (e.debit amount).Alike (e'.debit amount) := by
  unfold Alike at h ⊢
  rw [← h]
  rfl

/-- What tells whether two entitlements are the same one does not depend on other members. -/
theorem Alike.congr {α : Type} {e e' : Entitlement} (h : e.Alike e') (f : Entitlement → α)
    (hf : ∀ (e : Entitlement) ms, f { e with extra := ms } = f e) : f e = f e' := by
  unfold Alike at h
  rw [← hf e e'.extra, h]

theorem Alike.fingerprint {e e' : Entitlement} (h : e.Alike e') :
    e.fingerprint = e'.fingerprint :=
  h.congr Entitlement.fingerprint fun _ _ => rfl

theorem debit_debit (e : Entitlement) (a b : Int) : (e.debit a).debit b = e.debit (a + b) := by
  unfold debit
  simp only [Int.sub_sub]

theorem debit_zero (e : Entitlement) : e.debit 0 = e := by
  unfold debit
  simp only [Int.sub_zero]

theorem within_debit {e : Entitlement} {amount : Int} : (e.debit amount).Within ↔
    (0 ≤ e.short.available - amount ∧ e.short.available - amount ≤ e.short.total) ∧
      0 ≤ e.long.available - amount ∧ e.long.available - amount ≤ e.long.total := by
  constructor
  · rintro ⟨⟨hs, hs'⟩, hl, hl'⟩
    exact ⟨⟨hs, hs'⟩, hl, hl'⟩
  · rintro ⟨⟨hs, hs'⟩, hl, hl'⟩
    exact ⟨⟨hs, hs'⟩, hl, hl'⟩

theorem canonical_debit {e : Entitlement} (h : e.Canonical) {amount : Int}
    (hshort : Word.InRange (e.short.available - amount))
    (hlong : Word.InRange (e.long.available - amount)) : (e.debit amount).Canonical :=
  ⟨⟨h.short.total, hshort, h.short.resetAt⟩, ⟨h.long.total, hlong, h.long.resetAt⟩, h.term,
    h.owner, h.extra⟩

theorem Within.canonical {e : Entitlement} (h : e.Canonical) {amount : Int}
    (hwithin : (e.debit amount).Within) : (e.debit amount).Canonical :=
  canonical_debit h (hwithin.short.inRange h.short.total) (hwithin.long.inRange h.long.total)

/-- An adjustment that leaves both windows with what they may hold draws its delta. -/
theorem adjust_of_within {e : Entitlement} (hcanonical : e.Canonical) {delta : Int}
    (h : (e.debit delta).Within) : e.adjust delta = .ok (e.debit delta) := by
  obtain ⟨⟨hs, hs'⟩, hl, hl'⟩ := within_debit.mp h
  have hshort : Word.sub e.short.available delta = e.short.available - delta :=
    Word.saturate_of_inRange (h.short.inRange hcanonical.short.total)
  have hlong : Word.sub e.long.available delta = e.long.available - delta :=
    Word.saturate_of_inRange (h.long.inRange hcanonical.long.total)
  unfold adjust debit
  dsimp only
  rw [hshort, hlong, if_neg, Int.min_eq_left hs', Int.min_eq_left hl', ite_self, ite_self]
  simp only [Bool.and_eq_true, Bool.or_eq_true, decide_eq_true_eq]
  omega

/-- An adjustment draws its delta, or it is a charge of more than a window holds. -/
theorem adjust_cases {e : Entitlement} (hcanonical : e.Canonical) (hwithin : e.Within)
    {delta : Int} (hroom : delta < 0 → (e.debit delta).Within) :
    (e.adjust delta = .error .exhausted ∧ 0 < delta ∧
        (e.short.available < delta ∨ e.long.available < delta)) ∨
      (e.adjust delta = .ok (e.debit delta) ∧ (e.debit delta).Within) := by
  by_cases hdebit : (e.debit delta).Within
  · exact .inr ⟨adjust_of_within hcanonical hdebit, hdebit⟩
  · left
    obtain ⟨⟨hs, hs'⟩, hl, hl'⟩ := hwithin
    have hnonneg : ¬ delta < 0 := fun hneg => hdebit (hroom hneg)
    rw [within_debit] at hdebit
    have hpos : 0 < delta := by omega
    have hshort : e.short.available < delta ∨ e.long.available < delta := by omega
    refine ⟨?_, hpos, hshort⟩
    unfold adjust Word.sub Word.saturate Word.least Word.greatest
    dsimp only
    rw [if_pos]
    simp only [Bool.and_eq_true, Bool.or_eq_true, decide_eq_true_eq]
    omega

end Entitlement

namespace Document

/-! ## Documents that differ in what was drawn -/

/-- The document is `d₀` with `used i` drawn from both windows of each entitlement `i`, and no
window holds more or less than it may. -/
structure Tracks (d₀ : Document) (used : Nat → Int) (d : Document) : Prop where
  length : d.items.length = d₀.items.length
  alike : ∀ (i : Nat) (e e₀ : Entitlement), d.items[i]? = some e →
    d₀.items[i]? = some e₀ → e.Alike (e₀.debit (used i))
  within : ∀ e ∈ d.items, e.Within

/-- What was drawn after `amount` more was drawn from the entitlement at `i`. -/
def drawnMore (used : Nat → Int) (i : Nat) (amount : Int) (j : Nat) : Int :=
  if j = i then used j + amount else used j

variable {d₀ d : Document} {used : Nat → Int} {i : Nat} {e : Entitlement}

theorem Tracks.refl (h : ∀ e ∈ d.items, e.Within) : Tracks d (fun _ => 0) d := by
  refine ⟨rfl, fun i e e₀ he he₀ => ?_, h⟩
  rw [he] at he₀
  cases he₀
  rw [Entitlement.debit_zero]
  exact .refl e

/-- Each entitlement has its counterpart. -/
theorem Tracks.item (h : Tracks d₀ used d) (hi : d.items[i]? = some e) :
    ∃ e₀, d₀.items[i]? = some e₀ ∧ e.Alike (e₀.debit (used i)) := by
  obtain ⟨hlt, -⟩ := List.getElem?_eq_some_iff.mp hi
  have hlt₀ : i < d₀.items.length := h.length ▸ hlt
  exact ⟨d₀.items[i], List.getElem?_eq_getElem hlt₀, h.alike i e _ hi (List.getElem?_eq_getElem hlt₀)⟩

/-- The other way round. -/
theorem Tracks.counterpart (h : Tracks d₀ used d) {e₀ : Entitlement}
    (hi : d₀.items[i]? = some e₀) :
    ∃ e, d.items[i]? = some e ∧ e.Alike (e₀.debit (used i)) := by
  obtain ⟨hlt, -⟩ := List.getElem?_eq_some_iff.mp hi
  have hlt' : i < d.items.length := h.length ▸ hlt
  exact ⟨d.items[i], List.getElem?_eq_getElem hlt', h.alike i _ e₀ (List.getElem?_eq_getElem hlt') hi⟩

theorem Tracks.congr (h : Tracks d₀ used d) {used' : Nat → Int} (heq : ∀ i, used' i = used i) :
    Tracks d₀ used' d := by
  have hfun : used' = used := funext heq
  rw [hfun]
  exact h

theorem Tracks.echo (h : Tracks d₀ used d) : Tracks d₀ used d.echo := by
  refine ⟨?_, fun i e e₀ he he₀ => ?_, fun e he => ?_⟩
  · rw [← h.length]
    exact List.length_map _
  · unfold Document.echo at he
    rw [List.getElem?_map] at he
    obtain ⟨e', he', rfl⟩ := Option.map_eq_some_iff.mp he
    exact (Entitlement.alike_echo e').trans (h.alike i e' e₀ he' he₀)
  · obtain ⟨e', he', rfl⟩ := List.mem_map.mp he
    obtain ⟨hshort, hlong⟩ := h.within e' he'
    exact ⟨hshort, hlong⟩

/-- An amount drawn from one entitlement. -/
theorem Tracks.put (h : Tracks d₀ used d) (hi : d.items[i]? = some e) {amount : Int}
    (hwithin : (e.debit amount).Within) :
    Tracks d₀ (drawnMore used i amount) (d.put i (e.debit amount)) := by
  refine ⟨?_, fun j e' e₀ he' he₀ => ?_, fun e' he' => ?_⟩
  · rw [← h.length]
    exact List.length_set
  · unfold Document.put at he'
    rw [List.getElem?_set] at he'
    unfold drawnMore
    by_cases hij : j = i
    · subst hij
      rw [if_pos rfl] at he' ⊢
      split at he'
      · cases he'
        rw [← Entitlement.debit_debit]
        exact (h.alike j e e₀ hi he₀).debit amount
      · cases he'
    · rw [if_neg (Ne.symm hij)] at he'
      rw [if_neg hij]
      exact h.alike j e' e₀ he' he₀
  · rcases List.mem_or_eq_of_mem_set he' with he' | rfl
    · exact h.within e' he'
    · exact hwithin

theorem canonical_put (h : d.Canonical) (he : e.Canonical) : (d.put i e).Canonical := by
  refine ⟨fun e' he' => ?_, h.lastResetAt⟩
  rcases List.mem_or_eq_of_mem_set he' with he' | rfl
  · exact h.items e' he'
  · exact he

/-- A selection is resolved by the fingerprints alone. -/
theorem locate?_congr {d d' : Document}
    (h : d.items.map Entitlement.fingerprint = d'.items.map Entitlement.fingerprint)
    (selection : Selection) : d.locate? selection = d'.locate? selection := by
  have hitem : ∀ i : Nat, (d.items[i]?).map Entitlement.fingerprint =
      (d'.items[i]?).map Entitlement.fingerprint := by
    intro i
    rw [← List.getElem?_map, ← List.getElem?_map, h]
  have hfind : ∀ fingerprint, d.findFingerprint? fingerprint = d'.findFingerprint? fingerprint := by
    intro fingerprint
    have hmap : ∀ d : Document, d.findFingerprint? fingerprint =
        (d.items.map Entitlement.fingerprint).findIdx? (· == fingerprint) := by
      intro d
      rw [List.findIdx?_map]
      rfl
    rw [hmap, hmap, h]
  unfold locate?
  split
  · rfl
  · rename_i a _
    rw [hfind]
    cases a.hint with
    | none => rfl
    | some i =>
      have hi := hitem i
      dsimp only
      cases he : d.items[i]? with
      | none =>
        rw [he] at hi
        rw [Option.map_eq_none_iff.mp hi.symm]
      | some e =>
        rw [he] at hi
        obtain ⟨e', he', heq⟩ := Option.map_eq_some_iff.mp hi.symm
        rw [he']
        dsimp only
        rw [heq]

theorem Tracks.fingerprints (h : Tracks d₀ used d) :
    d.items.map Entitlement.fingerprint = d₀.items.map Entitlement.fingerprint := by
  refine List.ext_getElem? fun i => ?_
  rw [List.getElem?_map, List.getElem?_map]
  cases hi : d.items[i]? with
  | none =>
    have hlen := List.getElem?_eq_none_iff.mp hi
    rw [h.length] at hlen
    rw [List.getElem?_eq_none_iff.mpr hlen]
  | some e =>
    obtain ⟨e₀, he₀, halike⟩ := h.item hi
    rw [he₀]
    exact congrArg some halike.fingerprint

theorem Tracks.locate? (h : Tracks d₀ used d) (selection : Selection) :
    d.locate? selection = d₀.locate? selection :=
  locate?_congr h.fingerprints selection

/-- A selection that is resolved is well formed, and leads to a place in the document. -/
theorem getElem?_of_locate? {selection : Selection} (h : d.locate? selection = some i) :
    selection.wellFormed = true ∧ ∃ e, d.items[i]? = some e := by
  obtain ⟨a, e, ha, he, -⟩ := locate?_eq_some h
  refine ⟨?_, e, he⟩
  unfold Selection.wellFormed
  rw [ha]
  rfl

/-- Where everything is deployed and nothing stale there is nothing to prune. -/
theorem pruned_eq {now : Int} (hdeployed : ∀ e ∈ d.items, e.deployed = true)
    (hfresh : ∀ e ∈ d.items, e.stale now = false) :
    d.pruned now = d ∧ d.needsPruning now = false := by
  have hroll : ∀ e ∈ d.items, e.rollOver now = e := by
    intro e he
    have hstale := hfresh e he
    unfold Entitlement.stale at hstale
    obtain ⟨hshort, hlong⟩ := Bool.or_eq_false_iff.mp hstale
    unfold Entitlement.rollOver Window.rollOver
    simp only [hshort, hlong, Bool.false_eq_true, if_false]
  have hkept : d.items.filter Entitlement.deployed = d.items :=
    List.filter_eq_self.mpr hdeployed
  have hmap : d.items.map (·.rollOver now) = d.items :=
    (List.map_congr_left hroll).trans (List.map_id _)
  have hany : d.items.any (·.stale now) = false :=
    List.any_eq_false.mpr fun e he => by simp [hfresh e he]
  constructor
  · unfold Document.pruned
    dsimp only
    rw [hkept, hmap, hany]
    rfl
  · unfold Document.needsPruning
    exact List.any_eq_false.mpr fun e he => by simp [hfresh e he, hdeployed e he]

end Document

/-! ## The first entitlement that is eligible -/

/-- A charge of `amount` at `now` may go to this entitlement: it is deployed, something is left in
both windows and no less than the amount, and `now` lies within its term, both bounds of which are
set, each compared in its own unit. -/
structure Entitlement.Eligible (now amount : Int) (e : Entitlement) : Prop where
  deployed : e.status = "deployed"
  short : 0 < e.short.available ∧ amount ≤ e.short.available
  long : 0 < e.long.available ∧ amount ≤ e.long.available
  started : e.term.startAt ≠ 0 ∧ e.term.startAt ≤ inUnitOf e.term.startAt now
  running : e.term.endAt ≠ 0 ∧ inUnitOf e.term.endAt now ≤ e.term.endAt

theorem Entitlement.usable_iff {e : Entitlement} {now amount : Int} (hamount : 0 ≤ amount) :
    e.usable now amount = true ↔ e.Eligible now amount := by
  unfold usable Term.contains Entitlement.deployed deployedStatus
  simp only [Bool.and_eq_true, Bool.or_eq_true, decide_eq_true_eq, beq_iff_eq, bne_iff_ne]
  constructor
  · rintro ⟨⟨⟨⟨hdeployed, hshort⟩, hlong⟩, hfits⟩, ⟨⟨hstart, hend⟩, hstarted⟩, hrunning⟩
    exact ⟨hdeployed, ⟨hshort, by omega⟩, ⟨hlong, by omega⟩, ⟨hstart, hstarted⟩, hend, hrunning⟩
  · rintro ⟨hdeployed, ⟨hshort, hshort'⟩, ⟨hlong, hlong'⟩, ⟨hstart, hstarted⟩, hend, hrunning⟩
    exact ⟨⟨⟨⟨hdeployed, hshort⟩, hlong⟩, .inr ⟨hshort', hlong'⟩⟩, ⟨⟨hstart, hend⟩, hstarted⟩,
      hrunning⟩

/-- An eligible entitlement can bear the charge. -/
theorem Entitlement.Eligible.within {e : Entitlement} {now amount : Int}
    (h : e.Eligible now amount) (hwithin : e.Within) (hamount : 0 ≤ amount) :
    (e.debit amount).Within := by
  obtain ⟨⟨-, hs⟩, -, hl⟩ := hwithin
  obtain ⟨-, ⟨-, hshort⟩, ⟨-, hlong⟩, -, -⟩ := h
  rw [Entitlement.within_debit]
  omega

/-- `e` stands at `i` and is eligible, and nothing before it is. -/
structure Document.FirstEligible (d : Document) (now amount : Int) (i : Nat) (e : Entitlement) :
    Prop where
  item : d.items[i]? = some e
  eligible : e.Eligible now amount
  earlier : ∀ (j : Nat) (e' : Entitlement), j < i → d.items[j]? = some e' → ¬ e'.Eligible now amount

/-- The search for a usable entitlement finds the first one that is eligible, or there is none. -/
theorem Document.firstUsable?_cases (d : Document) {now amount : Int} (hamount : 0 ≤ amount) :
    (d.firstUsable? now amount = none ∧ ∀ e ∈ d.items, ¬ e.Eligible now amount) ∨
      ∃ i e, d.firstUsable? now amount = some i ∧ d.FirstEligible now amount i e := by
  unfold Document.firstUsable?
  cases hfind : d.items.findIdx? (·.usable now amount) with
  | none =>
    left
    refine ⟨rfl, fun e he heligible => ?_⟩
    have hunusable := List.findIdx?_eq_none_iff.mp hfind e he
    rw [(Entitlement.usable_iff hamount).mpr heligible] at hunusable
    cases hunusable
  | some i =>
    obtain ⟨hlt, husable, hbefore⟩ := List.findIdx?_eq_some_iff_getElem.mp hfind
    right
    refine ⟨i, d.items[i], rfl, List.getElem?_eq_getElem hlt,
      (Entitlement.usable_iff hamount).mp husable, fun j e hj he heligible => ?_⟩
    obtain ⟨_, rfl⟩ := List.getElem?_eq_some_iff.mp he
    exact hbefore j hj ((Entitlement.usable_iff hamount).mpr heligible)

/-! ## Changes of a stored text -/

open Document (Tracks drawnMore)

variable {d₀ : Document} {used : Nat → Int} {raw : String} {now amount delta : Int}

/-- The stored text is that of a document in its present form, which tracks `d₀`. -/
def Holds (d₀ : Document) (used : Nat → Int) (raw : String) : Prop :=
  ∃ d, Document.read raw = .ok (d, false) ∧ Tracks d₀ used d

/-- A window of the entitlement at a place holds less than `amount`, after what was drawn. -/
def Document.Lacks (d₀ : Document) (used : Nat → Int) (i : Nat) (amount : Int) : Prop :=
  ∃ e, d₀.items[i]? = some e ∧
    (e.short.available - used i < amount ∨ e.long.available - used i < amount)

/-- Where an amount was drawn, it was there. -/
theorem Holds.not_lacks {i : Nat} (h : Holds d₀ (drawnMore used i amount) raw) :
    ¬ d₀.Lacks used i amount := by
  rintro ⟨e₀, he₀, hlacks⟩
  obtain ⟨d, -, htracks⟩ := h
  obtain ⟨e, he, halike⟩ := htracks.counterpart he₀
  obtain ⟨⟨hs, -⟩, ⟨hl, -⟩⟩ := htracks.within e (List.mem_of_getElem? he)
  have hshort : e.short = (e₀.debit _).short := halike.congr (·.short) fun _ _ => rfl
  have hlong : e.long = (e₀.debit _).long := halike.congr (·.long) fun _ _ => rfl
  simp only [Entitlement.debit, drawnMore, if_true] at hshort hlong
  rw [hshort] at hs
  rw [hlong] at hl
  dsimp only at hs hl
  omega

theorem holds_write {d : Document} (hd : d.Canonical) (h : Tracks d₀ used d) :
    Holds d₀ used d.write :=
  ⟨d.echo, Document.read_write hd, h.echo⟩

/-- A reservation in a stored text charges the first eligible entitlement of the pruned document,
or there is none. -/
theorem reserveIn_of_read {d : Document} {older : Bool} (hread : Document.read raw = .ok (d, older))
    (now : Int) (hamount : 0 ≤ amount) :
    (reserveIn now amount raw = .error .exhausted ∧
      ∀ e ∈ (d.pruned now).items, ¬ e.Eligible now amount) ∨
    ∃ i e, (d.pruned now).FirstEligible now amount i e ∧
      reserveIn now amount raw =
        .ok (if older || d.needsPruning now || 0 < amount
          then some ((d.pruned now).put i (e.debit amount)).write else none, .of e i) := by
  unfold reserveIn
  rw [hread]
  dsimp only
  unfold Document.charge?
  rw [if_neg (Int.not_lt.mpr hamount)]
  rcases (d.pruned now).firstUsable?_cases hamount with ⟨hnone, hall⟩ | ⟨i, e, hsome, hfirst⟩
  · rw [hnone]
    exact .inl ⟨rfl, hall⟩
  · rw [hsome]
    dsimp only
    rw [hfirst.item]
    exact .inr ⟨i, e, hfirst, rfl⟩

/-- An adjustment in a stored text adjusts the entitlement that the selection leads to; there may be
none, or too little left. -/
theorem adjustIn_of_read {d : Document} {older : Bool} (hread : Document.read raw = .ok (d, older))
    (selection : Selection) (delta : Int) :
    (d.locate? selection = none ∧ adjustIn selection delta raw = .error .itemNotFound) ∨
    ∃ i e, d.locate? selection = some i ∧ d.items[i]? = some e ∧
      ((e.adjust delta = .error .exhausted ∧
          adjustIn selection delta raw = .error .exhausted) ∨
        ∃ e', e.adjust delta = .ok e' ∧
          adjustIn selection delta raw = .ok (some (d.put i e').write, ())) := by
  unfold adjustIn
  rw [hread]
  dsimp only
  cases hlocate : d.locate? selection with
  | none => exact .inl ⟨rfl, rfl⟩
  | some i =>
    obtain ⟨-, e, he⟩ := Document.getElem?_of_locate? hlocate
    right
    refine ⟨i, e, rfl, he, ?_⟩
    dsimp only
    rw [he]
    dsimp only
    cases hadjust : e.adjust delta with
    | error x => exact .inl ⟨rfl, rfl⟩
    | ok e' => exact .inr ⟨e', rfl, rfl⟩

/-- A reservation is refused as exhausted, or it draws its amount from the entitlement that it
selects. -/
theorem reserveIn_holds (h : Holds d₀ used raw) (hdistinct : d₀.Distinct)
    (hdeployed : ∀ e ∈ d₀.items, e.deployed = true) (hfresh : ∀ e ∈ d₀.items, e.stale now = false)
    (hamount : 0 ≤ amount) :
    reserveIn now amount raw = .error .exhausted ∨
      ∃ text? selection i, reserveIn now amount raw = .ok (text?, selection) ∧
        d₀.locate? selection = some i ∧ Holds d₀ (drawnMore used i amount) (text?.getD raw) := by
  obtain ⟨d, hread, htracks⟩ := h
  have hsame : ∀ e ∈ d.items, e.deployed = true ∧ e.stale now = false := by
    intro e he
    obtain ⟨i, hi⟩ := List.getElem?_of_mem he
    obtain ⟨e₀, he₀, halike⟩ := htracks.item hi
    have hmem := List.mem_of_getElem? he₀
    have hstatus : e.deployed = e₀.deployed := halike.congr Entitlement.deployed fun _ _ => rfl
    have hstale : e.stale now = e₀.stale now := halike.congr (·.stale now) fun _ _ => rfl
    exact ⟨hstatus.trans (hdeployed e₀ hmem), hstale.trans (hfresh e₀ hmem)⟩
  obtain ⟨hpruned, hneeds⟩ := Document.pruned_eq (fun e he => (hsame e he).1)
    fun e he => (hsame e he).2
  rcases reserveIn_of_read hread now hamount with ⟨hrefused, -⟩ | ⟨i, e, hfirst, hgranted⟩
  · exact .inl hrefused
  · rw [hpruned] at hfirst hgranted
    rw [hneeds] at hgranted
    have hi := hfirst.item
    have hmem := List.mem_of_getElem? hi
    obtain ⟨e₀, he₀, halike⟩ := htracks.item hi
    have hwithin := hfirst.eligible.within (htracks.within e hmem) hamount
    right
    refine ⟨_, _, i, hgranted, Document.locate?_of hdistinct he₀ halike.fingerprint i, ?_⟩
    simp only [Bool.false_or, decide_eq_true_eq]
    by_cases hpos : 0 < amount
    · rw [if_pos hpos]
      have hcanonical := Document.canonical_of_read hread
      have hitem := Entitlement.Within.canonical (hcanonical.items e hmem) hwithin
      exact holds_write (Document.canonical_put hcanonical hitem) (htracks.put hi hwithin)
    · -- An amount of zero is not written.
      have hzero : amount = 0 := by omega
      subst hzero
      rw [if_neg hpos]
      refine ⟨d, hread, htracks.congr fun j => ?_⟩
      unfold drawnMore
      simp

/-- An adjustment of a selection draws its delta from the entitlement, or it is a charge of more
than a window of it holds and refused as exhausted. A refund of no more than what was drawn is never
cut. -/
theorem adjustIn_holds (h : Holds d₀ used raw) (hwithin : ∀ e ∈ d₀.items, e.Within)
    {selection : Selection} {i : Nat} (hlocate : d₀.locate? selection = some i)
    (hroom : delta < 0 → 0 ≤ used i + delta) :
    (adjustIn selection delta raw = .error .exhausted ∧ 0 < delta ∧ d₀.Lacks used i delta) ∨
      ∃ text, adjustIn selection delta raw = .ok (some text, ()) ∧
        Holds d₀ (drawnMore used i delta) text := by
  obtain ⟨d, hread, htracks⟩ := h
  have hplace := (htracks.locate? selection).trans hlocate
  have hcanonical := Document.canonical_of_read hread
  rcases adjustIn_of_read hread selection delta with ⟨hnone, -⟩ | ⟨j, e, hsome, he, hadjusted⟩
  · rw [hplace] at hnone
    cases hnone
  · rw [hplace] at hsome
    cases hsome
    have hmem := List.mem_of_getElem? he
    obtain ⟨e₀, he₀, halike⟩ := htracks.item he
    have hshort : e.short = (e₀.debit (used i)).short := halike.congr (·.short) fun _ _ => rfl
    have hlong : e.long = (e₀.debit (used i)).long := halike.congr (·.long) fun _ _ => rfl
    simp only [Entitlement.debit] at hshort hlong
    have hrefund : delta < 0 → (e.debit delta).Within := by
      intro hneg
      have hused := hroom hneg
      obtain ⟨⟨hs0, -⟩, ⟨hl0, -⟩⟩ := htracks.within e hmem
      obtain ⟨⟨-, hs⟩, ⟨-, hl⟩⟩ := hwithin e₀ (List.mem_of_getElem? he₀)
      rw [Entitlement.within_debit]
      simp only [hshort, hlong] at hs0 hl0 ⊢
      omega
    rcases Entitlement.adjust_cases (hcanonical.items e hmem) (htracks.within e hmem) hrefund with
      ⟨hexhausted, hpos, hlacks⟩ | ⟨hok, hafter⟩
    · rcases hadjusted with ⟨-, hrefused⟩ | ⟨e', hok, -⟩
      · rw [hshort, hlong] at hlacks
        exact .inl ⟨hrefused, hpos, e₀, he₀, hlacks⟩
      · rw [hexhausted] at hok
        cases hok
    · rcases hadjusted with ⟨hexhausted, -⟩ | ⟨e', hok', hstored⟩
      · rw [hok] at hexhausted
        cases hexhausted
      · rw [hok] at hok'
        cases hok'
        have hitem := Entitlement.Within.canonical (hcanonical.items e hmem) hafter
        exact .inr ⟨_, hstored,
          holds_write (Document.canonical_put hcanonical hitem) (htracks.put he hafter)⟩

end Turnstile.Subscription
