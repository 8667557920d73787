import Turnstile.Proofs.Subscription.Schedule

/-!
# Where the end of a window is taken

The end of a window is moved in one step, however many periods have passed: to the first point of
its grid after now, or a period from now where no end has been set.  The arithmetic is that of
words.  `advanceBy` writes it out step by step, with the saturating steps as a parameter, so that
one statement says that no other step overflows, and another what the result is where no step
saturates.  Among the readings of the clock none does.

* `advanceBy_saturate` — the steps that do not saturate never overflow;
* `advanceBy_exact` — the result where none of the others saturates;
* `rollover_settles` — both, and what a pruning makes of a document.
-/

set_option autoImplicit false

namespace Turnstile

/-- The exact result of a step, if it is a word: what a step that does not saturate gives without
overflowing. -/
def Word.checked? (n : Int) : Option Int := if InRange n then some n else none

theorem Word.checked?_eq_some_iff {n m : Int} : checked? n = some m ↔ InRange n ∧ n = m := by
  unfold checked?
  split
  · rename_i h
    simp [h]
  · rename_i h
    simp [h]

theorem Word.saturate_of_checked? {n m : Int} (h : checked? n = some m) : saturate n = m := by
  obtain ⟨hrange, rfl⟩ := checked?_eq_some_iff.mp h
  exact saturate_of_inRange hrange

namespace Subscription

/-- How many of the units in which `reference` stands make up a second. -/
def unitOf (reference : Int) : Int := if reference > millisecondsAbove then 1000 else 1

/-- Where the end of a window is taken that ends at `resetAt`, at the time `now` and with the period
`step`, all three in one unit. -/
structure NextEnd (resetAt now step next : Int) : Prop where
  unset : resetAt ≤ 0 → next = now + step
  ahead : 0 < resetAt → now ≤ resetAt → next = resetAt
  passed : 0 < resetAt → resetAt < now →
    now < next ∧ next - step ≤ now ∧ ∃ periods, 0 < periods ∧ next - resetAt = periods * step

/-- `inUnitOf` with `saturated` for the saturating step. -/
def inUnitBy (saturated : Int → Option Int) (reference t : Int) : Option Int :=
  if reference > millisecondsAbove then saturated (t * 1000) else some t

/-- `advance` step by step.  `saturated` is what a step that may saturate makes of its exact
result; the difference, the quotient, which drops the fraction, and the count have to be words. -/
def advanceBy (saturated : Int → Option Int) (resetAt now period : Int) : Option Int :=
  if period ≤ 0 then some resetAt
  else do
    let at_ ← inUnitBy saturated resetAt now
    let step ← inUnitBy saturated resetAt period
    if resetAt ≤ 0 then saturated (at_ + step)
    else if at_ ≤ resetAt then some resetAt
    else
      let elapsed ← Word.checked? (at_ - resetAt)
      let whole ← if step = 0 then none else Word.checked? (elapsed.tdiv step)
      let periods ← Word.checked? (whole + 1)
      let lead ← saturated (periods * step)
      saturated (resetAt + lead)

section Steps

variable {resetAt now period next : Int}

theorem inUnitBy_saturate (reference t : Int) :
    inUnitBy (fun n => some (Word.saturate n)) reference t = some (inUnitOf reference t) := by
  unfold inUnitBy inUnitOf Word.mul
  split <;> rfl

theorem inUnitBy_exact {reference t u : Int} (h : inUnitBy Word.checked? reference t = some u) :
    inUnitOf reference t = u ∧ t * unitOf reference = u := by
  unfold inUnitBy at h
  unfold inUnitOf unitOf Word.mul
  split at h
  · rename_i hms
    rw [if_pos hms, if_pos hms]
    exact ⟨Word.saturate_of_checked? h, (Word.checked?_eq_some_iff.mp h).2⟩
  · rename_i hs
    cases h
    rw [if_neg hs, if_neg hs, Int.mul_one]
    exact ⟨rfl, rfl⟩

/-- A period in the unit of the window's end is a period still. -/
theorem inUnitOf_period_pos (resetAt : Int) (hperiod : 0 < period) : 0 < inUnitOf resetAt period := by
  unfold inUnitOf Word.mul Word.saturate Word.least Word.greatest
  split <;> omega

theorem inUnitOf_le_greatest (resetAt : Int) (hnow : now ≤ Word.greatest) :
    inUnitOf resetAt now ≤ Word.greatest := by
  unfold inUnitOf
  split
  · exact (Word.inRange_saturate _).2
  · exact hnow

/-- The steps that do not saturate never overflow, and leave only those that may. -/
theorem advanceBy_eq {saturated : Int → Option Int} {at_ step : Int} (hperiod : 0 < period)
    (hat : inUnitBy saturated resetAt now = some at_) (hlimit : at_ ≤ Word.greatest)
    (hstep : inUnitBy saturated resetAt period = some step) (hpos : 0 < step) :
    advanceBy saturated resetAt now period =
      if resetAt ≤ 0 then saturated (at_ + step)
      else if at_ ≤ resetAt then some resetAt
      else (saturated (((at_ - resetAt) / step + 1) * step)).bind fun lead =>
        saturated (resetAt + lead) := by
  unfold advanceBy
  rw [if_neg (Int.not_le.mpr hperiod), hat, hstep]
  simp only [Option.bind_eq_bind, Option.bind_some]
  split
  · rfl
  split
  · rfl
  · have hwhole : (at_ - resetAt).tdiv step = (at_ - resetAt) / step :=
      Int.tdiv_eq_ediv_of_nonneg (by omega)
    have hnonneg : 0 ≤ (at_ - resetAt) / step := Int.ediv_nonneg (by omega) (by omega)
    have hle : (at_ - resetAt) / step ≤ at_ - resetAt := Int.ediv_le_self _ (by omega)
    have hexact : ∀ n, 0 ≤ n → n ≤ Word.greatest → Word.checked? n = some n := fun n hn hn' =>
      Word.checked?_eq_some_iff.mpr ⟨⟨by unfold Word.least; omega, hn'⟩, rfl⟩
    rw [hexact _ (by omega) (by omega), Option.bind_some, if_neg (Int.ne_of_gt hpos), hwhole,
      hexact _ hnonneg (by omega), Option.bind_some, hexact _ (by omega) (by omega),
      Option.bind_some]

theorem advanceBy_saturate (hnow : now ≤ Word.greatest) (hperiod : 0 < period) :
    advanceBy (fun n => some (Word.saturate n)) resetAt now period =
      some (advance resetAt now period) := by
  rw [advanceBy_eq hperiod (inUnitBy_saturate resetAt now) (inUnitOf_le_greatest resetAt hnow)
    (inUnitBy_saturate resetAt period) (inUnitOf_period_pos resetAt hperiod)]
  unfold advance
  rw [if_neg (Int.not_le.mpr hperiod)]
  dsimp only
  split
  · rfl
  split
  · rfl
  · rfl

/-- Where no step saturates, the end is taken to where it should be. -/
theorem advanceBy_exact (hnow : now ≤ Word.greatest) (hperiod : 0 < period)
    (h : advanceBy Word.checked? resetAt now period = some next) :
    advance resetAt now period = next ∧
      NextEnd resetAt (now * unitOf resetAt) (period * unitOf resetAt) next := by
  have hunits := h
  unfold advanceBy at hunits
  rw [if_neg (Int.not_le.mpr hperiod)] at hunits
  obtain ⟨at_, hat, hunits⟩ := Option.bind_eq_some_iff.mp hunits
  obtain ⟨step, hstep, -⟩ := Option.bind_eq_some_iff.mp hunits
  obtain ⟨hat', hnow'⟩ := inUnitBy_exact hat
  obtain ⟨hstep', hperiod'⟩ := inUnitBy_exact hstep
  have hpos : 0 < step := hstep' ▸ inUnitOf_period_pos resetAt hperiod
  rw [advanceBy_eq hperiod hat (hat' ▸ inUnitOf_le_greatest resetAt hnow) hstep hpos] at h
  unfold advance
  rw [if_neg (Int.not_le.mpr hperiod), hat', hstep', hnow', hperiod']
  dsimp only
  split at h
  · rename_i hunset
    rw [if_pos hunset]
    exact ⟨Word.saturate_of_checked? h, fun _ => (Word.checked?_eq_some_iff.mp h).2.symm,
      fun hset => by omega, fun hset => by omega⟩
  rename_i hset
  rw [if_neg hset]
  split at h
  · rename_i hahead
    cases h
    rw [if_pos hahead]
    exact ⟨rfl, fun hunset => absurd hunset hset, fun _ _ => rfl, fun _ hover => by omega⟩
  · rename_i hover
    obtain ⟨lead, hlead, hnext⟩ := Option.bind_eq_some_iff.mp h
    have hvalue : resetAt + ((at_ - resetAt) / step + 1) * step = next := by
      rw [(Word.checked?_eq_some_iff.mp hlead).2]
      exact (Word.checked?_eq_some_iff.mp hnext).2
    have hnonneg : 0 ≤ (at_ - resetAt) / step := Int.ediv_nonneg (by omega) (by omega)
    obtain ⟨hpast, hwithin⟩ := grid_next at_ resetAt hpos
    rw [hvalue] at hpast hwithin
    rw [if_neg hover]
    refine ⟨?_, fun hunset => absurd hunset hset, fun _ hahead => absurd hahead hover,
      fun _ _ => ⟨hpast, by omega, (at_ - resetAt) / step + 1, by omega, by omega⟩⟩
    unfold Word.add Word.mul
    rw [Word.saturate_of_checked? hlead, Word.saturate_of_checked? hnext]

theorem inUnitBy_reading (resetAt : Int) {t : Int} (hlow : 0 ≤ t) (hhigh : t ≤ millisecondsAbove) :
    inUnitBy Word.checked? resetAt t = some (inUnitOf resetAt t) := by
  unfold inUnitBy
  split
  · rename_i hms
    rw [inUnitOf_milliseconds hms hlow hhigh]
    refine Word.checked?_eq_some_iff.mpr ⟨?_, rfl⟩
    unfold millisecondsAbove at hhigh
    unfold Word.InRange Word.least Word.greatest
    omega
  · rename_i hs
    rw [inUnitOf_seconds (Int.not_lt.mp hs)]

/-- A reading of the clock is far from the end of the words in either unit. -/
theorem inUnitOf_le_reading (resetAt : Int) {t : Int} (hlow : 0 ≤ t)
    (hhigh : t ≤ millisecondsAbove) :
    0 ≤ inUnitOf resetAt t ∧ inUnitOf resetAt t ≤ millisecondsAbove * 1000 := by
  rcases Int.lt_or_le millisecondsAbove resetAt with hms | hs
  · rw [inUnitOf_milliseconds hms hlow hhigh]
    omega
  · rw [inUnitOf_seconds hs]
    unfold millisecondsAbove at *
    omega

/-- Among the clock's readings no step saturates where a window is stale. -/
theorem advanceBy_reading (hlow : 0 ≤ now) (hlast : now ≤ lastReading) (hperiod : 0 < period)
    (hseven : period ≤ sevenDays) (hstale : resetAt < inUnitOf resetAt now) :
    advanceBy Word.checked? resetAt now period = some (advance resetAt now period) := by
  have hhigh : now ≤ millisecondsAbove := hlast.trans (by decide)
  have hhigh' : period ≤ millisecondsAbove := hseven.trans (by decide)
  have hpos := inUnitOf_period_pos resetAt hperiod
  obtain ⟨hat, hat'⟩ := inUnitOf_le_reading resetAt hlow hhigh
  obtain ⟨-, hstep⟩ := inUnitOf_le_reading resetAt (Int.le_of_lt hperiod) hhigh'
  have hexact : ∀ n, 0 ≤ n → n ≤ millisecondsAbove * 2000 →
      Word.checked? n = some n ∧ Word.saturate n = n := by
    intro n hn hn'
    have hrange : Word.InRange n := by
      unfold Word.InRange Word.least Word.greatest
      unfold millisecondsAbove at hn'
      omega
    exact ⟨Word.checked?_eq_some_iff.mpr ⟨hrange, rfl⟩, Word.saturate_of_inRange hrange⟩
  rw [advanceBy_eq hperiod (inUnitBy_reading resetAt hlow hhigh)
    (inUnitOf_le_greatest resetAt (hhigh.trans (by decide)))
    (inUnitBy_reading resetAt (Int.le_of_lt hperiod) hhigh') hpos]
  unfold advance Word.add Word.mul
  rw [if_neg (Int.not_le.mpr hperiod)]
  obtain ⟨hpast, hwithin⟩ := grid_next (inUnitOf resetAt now) resetAt hpos
  have hnonneg : 0 ≤ (inUnitOf resetAt now - resetAt) / inUnitOf resetAt period :=
    Int.ediv_nonneg (by omega) (by omega)
  have hproduct : 0 ≤ ((inUnitOf resetAt now - resetAt) / inUnitOf resetAt period + 1) *
      inUnitOf resetAt period := Int.mul_nonneg (by omega) (by omega)
  dsimp only
  split
  · rw [(hexact _ (by omega) (by omega)).1, (hexact _ (by omega) (by omega)).2]
  · rw [if_neg (Int.not_le.mpr hstale), if_neg (Int.not_le.mpr hstale)]
    rw [(hexact _ hproduct (by omega)).1, (hexact _ hproduct (by omega)).2, Option.bind_some,
      (hexact _ (by omega) (by omega)).1, (hexact _ (by omega) (by omega)).2]

end Steps

/-! ## Documents -/

/-- What becomes of a window: if it is stale it is filled and its end taken on, and if it is not it
stays as it is. -/
structure Window.Refilled (w : Window) (now period : Int) (w' : Window) : Prop where
  filled : w.stale now = true → w'.total = w.total ∧ w'.available = w.total ∧
    NextEnd w.resetAt (now * unitOf w.resetAt) (period * unitOf w.resetAt) w'.resetAt
  untouched : w.stale now = false → w' = w

/-- What becomes of an entitlement: each window is taken by itself, and all else stays. -/
structure Entitlement.Refilled (e : Entitlement) (now : Int) (e' : Entitlement) : Prop where
  rest : { e' with short := e.short, long := e.long } = e
  short : e.short.Refilled now fiveHours e'.short
  long : e.long.Refilled now sevenDays e'.long

/-- What becomes of a document: the deployed entitlements are left, in their order and with nothing
stale, and the time is noted if a window of them was stale. -/
structure Document.Settled (d : Document) (now : Int) (d' : Document) : Prop where
  items : List.Forall₂ (fun e e' => e.Refilled now e') (d.items.filter Entitlement.deployed) d'.items
  deployed : ∀ e ∈ d'.items, e.deployed = true
  fresh : ∀ e ∈ d'.items, e.short.stale now = false ∧ e.long.stale now = false
  noted : (∃ e ∈ d.items, e.deployed = true ∧ e.stale now = true) → d'.lastResetAt = now
  unnoted : (∀ e ∈ d.items, e.deployed = true → e.stale now = false) →
    d'.lastResetAt = d.lastResetAt

section Documents

variable {now : Int}

theorem Window.refilled_rollOver (hlow : 0 ≤ now) (hlast : now ≤ lastReading) {period : Int}
    (hperiod : 0 < period) (hseven : period ≤ sevenDays) (w : Window) :
    w.Refilled now period (w.rollOver now period) := by
  constructor
  · intro hstale
    have hexact := advanceBy_reading hlow hlast hperiod hseven (of_decide_eq_true hstale)
    have hnow : now ≤ Word.greatest := hlast.trans (by decide)
    unfold rollOver
    rw [if_pos hstale]
    exact ⟨rfl, rfl, (advanceBy_exact hnow hperiod hexact).2⟩
  · intro hfresh
    unfold rollOver
    rw [hfresh, if_neg Bool.false_ne_true]

theorem Document.settled_pruned (hlow : 0 ≤ now) (hlast : now ≤ lastReading) (d : Document) :
    d.Settled now (d.pruned now) := by
  constructor
  · show List.Forall₂ _ _ (List.map _ _)
    rw [List.forall₂_map_right_iff, List.forall₂_same]
    exact fun e _ => ⟨rfl, Window.refilled_rollOver hlow hlast (by decide) (by decide) e.short,
      Window.refilled_rollOver hlow hlast (by decide) (by decide) e.long⟩
  · intro e he
    obtain ⟨e', -, hdeployed, rfl⟩ := mem_pruned.mp he
    exact hdeployed
  · intro e he
    obtain ⟨e', -, -, rfl⟩ := mem_pruned.mp he
    exact e'.stale_rollOver hlow hlast
  · rintro ⟨e, he, hdeployed, hstale⟩
    exact if_pos (List.any_eq_true.mpr ⟨e, List.mem_filter.mpr ⟨he, hdeployed⟩, hstale⟩)
  · intro hfresh
    have hnone : (d.items.filter Entitlement.deployed).any (·.stale now) = false := by
      refine List.any_eq_false.mpr fun e he => ?_
      obtain ⟨hmem, hdeployed⟩ := List.mem_filter.mp he
      rw [hfresh e hmem hdeployed]
      exact Bool.false_ne_true
    exact if_neg (hnone ▸ Bool.false_ne_true)

/-- Taking an end on overflows at no step that does not saturate, and where none of the others
saturates the result is the first point of the grid after now, a period from now where no end was
set, or the end itself while it is ahead.  So among the clock's readings a pruning settles a
document, and a second one at the same time has nothing to change. -/
theorem rollover_settles {now : Int} :
    (∀ resetAt period : Int, Word.InRange resetAt → Word.InRange now → Word.InRange period →
      0 < period →
      advanceBy (fun n => some (Word.saturate n)) resetAt now period =
          some (advance resetAt now period) ∧
        ∀ next, advanceBy Word.checked? resetAt now period = some next →
          advance resetAt now period = next ∧
            NextEnd resetAt (now * unitOf resetAt) (period * unitOf resetAt) next) ∧
    (0 ≤ now → now ≤ lastReading → ∀ d : Document,
      d.Settled now (d.pruned now) ∧
        (d.pruned now).needsPruning now = false ∧ (d.pruned now).pruned now = d.pruned now) := by
  refine ⟨fun _ _ _ hnow _ hperiod => ⟨advanceBy_saturate hnow.2 hperiod,
    fun next h => advanceBy_exact hnow.2 hperiod h⟩, fun hlow hlast d => ?_⟩
  have hsettled := d.settled_pruned hlow hlast
  have hstale : ∀ e ∈ (d.pruned now).items, e.stale now = false := by
    intro e he
    obtain ⟨hshort, hlong⟩ := hsettled.fresh e he
    unfold Entitlement.stale
    rw [hshort, hlong]
    rfl
  obtain ⟨hsame, hnothing⟩ := Document.pruned_eq hsettled.deployed hstale
  exact ⟨hsettled, hnothing, hsame⟩

end Documents

/-- An end in milliseconds that lies ten seconds back, and a document with stale windows. -/
theorem rollover_settles_shelf :
    advance 1699999990000 1700000000 18000 = 1700017990000 ∧
      NextEnd 1699999990000 (1700000000 * 1000) (18000 * 1000) 1700017990000 ∧
      shelfDocument.Settled 10000 (shelfDocument.pruned 10000) ∧
      (shelfDocument.pruned 10000).pruned 10000 = shelfDocument.pruned 10000 ∧
      (shelfDocument.pruned 10000).items.map (fun e => (e.short.resetAt, e.long.resetAt)) =
        [(20000, 613800), (18900, 613800)] := by
  obtain ⟨-, hexact⟩ := (@rollover_settles 1700000000).1 1699999990000 18000 (by decide) (by decide)
    (by decide) (by decide)
  obtain ⟨hadvance, hnext⟩ := hexact 1700017990000 (by decide)
  obtain ⟨hsettled, -, hsame⟩ :=
    (@rollover_settles 10000).2 (by decide) (by decide) shelfDocument
  exact ⟨hadvance, hnext, hsettled, hsame, by decide⟩

end Subscription

end Turnstile
