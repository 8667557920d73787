import Turnstile.Proofs.Subscription.Bounds

/-!
# How often a document is pruned hardly matters

The end of a window that was set stays on a grid, whole periods apart, however often and whenever
the window is rolled over.  Rolling over takes it to the first point of the grid after now, so what
earlier prunings left of it makes no difference to a later one, with one exception.  At a point of
the grid itself a window that ends right there is not stale and stays as it is, and one that ended
before is taken a period further (`Window.Turns`).  So a pruning at that point leaves one end or
the other, by what was pruned before.

* `Window.advance_spec` — where a stale window's end is taken;
* `Window.Swept.next`, `Window.swept_rolledAt` — one more rolling over, and any number of them;
* `Document.prunedAt_schedule` — what a schedule of prunings comes to, and when it is of no account.
-/

set_option autoImplicit false

namespace Turnstile.Subscription

/-- The clock's last reading from which no period leads out of the seconds. -/
def lastReading : Int := millisecondsAbove - sevenDays

/-! ## Points in time and their units -/

section Units

variable {reference t : Int}

theorem inUnitOf_seconds (h : reference ≤ millisecondsAbove) (t : Int) :
    inUnitOf reference t = t :=
  if_neg (Int.not_lt.mpr h)

/-- Nothing saturates among readings that are seconds. -/
theorem inUnitOf_milliseconds (h : millisecondsAbove < reference) (hlow : 0 ≤ t)
    (hhigh : t ≤ millisecondsAbove) : inUnitOf reference t = t * 1000 := by
  unfold inUnitOf Word.mul Word.saturate Word.least Word.greatest
  unfold millisecondsAbove at *
  rw [if_pos h]
  omega

theorem inUnitOf_mono (reference : Int) {t' : Int} (hlow : 0 ≤ t) (hle : t ≤ t')
    (hhigh : t' ≤ millisecondsAbove) :
    inUnitOf reference t ≤ inUnitOf reference t' := by
  rcases Int.lt_or_le millisecondsAbove reference with hms | hs
  · rw [inUnitOf_milliseconds hms hlow (by omega), inUnitOf_milliseconds hms (by omega) hhigh]
    omega
  · rw [inUnitOf_seconds hs, inUnitOf_seconds hs]
    exact hle

theorem inUnitOf_pos (hpos : 0 < t) (hhigh : t ≤ millisecondsAbove) :
    0 < inUnitOf reference t := by
  rcases Int.lt_or_le millisecondsAbove reference with hms | hs
  · rw [inUnitOf_milliseconds hms (by omega) hhigh]
    omega
  · rwa [inUnitOf_seconds hs]

/-- Up to a period from now the unit of a window's end stays the same. -/
theorem inUnitOf_ahead {resetAt ahead now period : Int} (hlast : now ≤ lastReading)
    (hseven : period ≤ sevenDays) (hle : resetAt ≤ ahead)
    (hwithin : ahead ≤ inUnitOf resetAt now + inUnitOf resetAt period) (t : Int) :
    inUnitOf ahead t = inUnitOf resetAt t := by
  have hunit : ahead > millisecondsAbove ↔ resetAt > millisecondsAbove := by
    unfold lastReading at hlast
    rcases Int.lt_or_le millisecondsAbove resetAt with hms | hs
    · omega
    · rw [inUnitOf_seconds hs, inUnitOf_seconds hs] at hwithin
      omega
  unfold inUnitOf
  simp only [hunit]

/-- Two points of a grid in the same step are one. -/
theorem eq_of_grid {step origin a b low : Int} (ha : step ∣ a - origin) (hb : step ∣ b - origin)
    (hlow : low < a) (hhigh : a ≤ low + step) (hlow' : low < b) (hhigh' : b ≤ low + step) :
    a = b := by
  have hdvd : step ∣ a - b := by
    have := Int.dvd_sub ha hb
    rwa [show a - origin - (b - origin) = a - b by omega] at this
  have hzero : a - b = 0 := Int.eq_zero_of_abs_lt_dvd hdvd (by rw [abs_lt]; omega)
  omega

/-- The first point of a grid after another point is a step away at most. -/
theorem grid_next (point origin : Int) {step : Int} (hstep : 0 < step) :
    point < origin + ((point - origin) / step + 1) * step ∧
      origin + ((point - origin) / step + 1) * step ≤ point + step := by
  have hbelow := Int.ediv_mul_le (point - origin) (Int.ne_of_gt hstep)
  have habove := Int.lt_ediv_add_one_mul_self (point - origin) hstep
  rw [Int.add_mul] at *
  omega

end Units

/-! ## One window -/

namespace Window

variable {w w' : Window} {now later period : Int}

/-- A whole number of periods is over at `now` since the end of the window. -/
def Turns (w : Window) (now period : Int) : Prop :=
  w.resetAt < inUnitOf w.resetAt now ∧
    inUnitOf w.resetAt period ∣ inUnitOf w.resetAt now - w.resetAt

instance (w : Window) (now period : Int) : Decidable (w.Turns now period) :=
  inferInstanceAs (Decidable (_ ∧ _))

/-- The window rolled over at `now`; or, at a point where it turns, filled with that for its end,
where rolling over takes the end a period further. -/
def Swept (w : Window) (now period : Int) (w' : Window) : Prop :=
  w' = w.rollOver now period ∨
    (w.Turns now period ∧ w' = ⟨w.total, w.total, inUnitOf w.resetAt now⟩ ∧
      w.rollOver now period =
        ⟨w.total, w.total, inUnitOf w.resetAt now + inUnitOf w.resetAt period⟩)

section Advance

variable (hlow : 0 ≤ now) (hlast : now ≤ lastReading) (hperiod : 0 < period)
  (hseven : period ≤ sevenDays)

include hlow hlast hperiod hseven

/-- The end of a stale window is taken past `now`, by a period at most, and along its grid if it had
been set. -/
theorem advance_spec {resetAt : Int} (hstale : resetAt < inUnitOf resetAt now) :
    inUnitOf resetAt now < advance resetAt now period ∧
      advance resetAt now period ≤ inUnitOf resetAt now + inUnitOf resetAt period ∧
      (0 < resetAt → inUnitOf resetAt period ∣ advance resetAt now period - resetAt) := by
  have hstep : 0 < inUnitOf resetAt period :=
    inUnitOf_pos hperiod (hseven.trans (by decide))
  have hsum : 0 ≤ inUnitOf resetAt now ∧
      inUnitOf resetAt now + inUnitOf resetAt period ≤ Word.greatest := by
    unfold lastReading sevenDays millisecondsAbove Word.greatest at *
    rcases Int.lt_or_le millisecondsAbove resetAt with hms | hs
    · rw [inUnitOf_milliseconds hms, inUnitOf_milliseconds hms]
      all_goals
        unfold millisecondsAbove at *
        omega
    · rw [inUnitOf_seconds hs, inUnitOf_seconds hs]
      omega
  obtain ⟨hnext, hstepped⟩ := grid_next (inUnitOf resetAt now) resetAt hstep
  unfold advance
  rw [if_neg (Int.not_le.mpr hperiod)]
  dsimp only
  by_cases hset : resetAt ≤ 0
  · have hadd : Word.add (inUnitOf resetAt now) (inUnitOf resetAt period) =
        inUnitOf resetAt now + inUnitOf resetAt period :=
      Word.saturate_of_inRange ⟨by unfold Word.least; omega, hsum.2⟩
    rw [if_pos hset, hadd]
    omega
  · have hperiods : 0 ≤ (inUnitOf resetAt now - resetAt) / inUnitOf resetAt period :=
      Int.ediv_nonneg (by omega) (by omega)
    have hproduct : 0 ≤ ((inUnitOf resetAt now - resetAt) / inUnitOf resetAt period + 1) *
        inUnitOf resetAt period := Int.mul_nonneg (by omega) (by omega)
    have hmul : Word.mul ((inUnitOf resetAt now - resetAt) / inUnitOf resetAt period + 1)
        (inUnitOf resetAt period) = _ :=
      Word.saturate_of_inRange ⟨by unfold Word.least; omega, by omega⟩
    have hadd : Word.add resetAt (((inUnitOf resetAt now - resetAt) / inUnitOf resetAt period + 1) *
        inUnitOf resetAt period) = _ :=
      Word.saturate_of_inRange ⟨by unfold Word.least; omega, by omega⟩
    rw [if_neg hset, if_neg (Int.not_le.mpr hstale), hmul, hadd]
    refine ⟨hnext, hstepped, fun _ => ?_⟩
    rw [add_sub_cancel_left]
    exact Int.dvd_mul_left _ _

/-- Its end is not taken over to another unit. -/
theorem inUnitOf_advance {resetAt : Int} (hstale : resetAt < inUnitOf resetAt now) (t : Int) :
    inUnitOf (advance resetAt now period) t = inUnitOf resetAt t := by
  obtain ⟨hnext, hstepped, -⟩ := advance_spec hlow hlast hperiod hseven hstale
  exact inUnitOf_ahead hlast hseven (by omega) hstepped t

/-- What was rolled over is not stale at the same time. -/
theorem stale_rollOver (w : Window) : (w.rollOver now period).stale now = false := by
  unfold rollOver
  cases hstale : w.stale now with
  | false =>
    rw [if_neg Bool.false_ne_true]
    exact hstale
  | true =>
    have hpast := of_decide_eq_true hstale
    have hnext := (advance_spec hlow hlast hperiod hseven hpast).1
    rw [if_pos rfl]
    refine decide_eq_false ?_
    dsimp only
    rw [inUnitOf_advance hlow hlast hperiod hseven hpast]
    omega

/-- Where a window turns, rolling over takes its end a period past that point. -/
theorem rollOver_of_turns (hset : 0 < w.resetAt) (h : w.Turns now period) :
    w.rollOver now period =
      ⟨w.total, w.total, inUnitOf w.resetAt now + inUnitOf w.resetAt period⟩ := by
  obtain ⟨hpast, hturn⟩ := h
  obtain ⟨hnext, hstepped, hgrid⟩ := advance_spec hlow hlast hperiod hseven hpast
  have hstep : 0 < inUnitOf w.resetAt period :=
    inUnitOf_pos hperiod (hseven.trans (by decide))
  have hend : inUnitOf w.resetAt period ∣
      inUnitOf w.resetAt now + inUnitOf w.resetAt period - w.resetAt := by
    rw [add_sub_right_comm]
    exact Int.dvd_add hturn (Int.dvd_refl _)
  have hstale : w.stale now = true := decide_eq_true hpast
  unfold rollOver
  rw [if_pos hstale, eq_of_grid (hgrid hset) hend hnext hstepped (by omega) (Int.le_refl _)]

/-- A window in sweeping: as it was while not stale, and filled since, with its end on the grid and
neither over nor more than a period off. -/
theorem swept_iff (hset : 0 < w.resetAt) :
    w.Swept now period w' ↔ if w.stale now then
        w' = ⟨w.total, w.total, w'.resetAt⟩ ∧
          inUnitOf w.resetAt period ∣ w'.resetAt - w.resetAt ∧
          inUnitOf w.resetAt now ≤ w'.resetAt ∧
          w'.resetAt ≤ inUnitOf w.resetAt now + inUnitOf w.resetAt period
      else w' = w := by
  have hstep : 0 < inUnitOf w.resetAt period :=
    inUnitOf_pos hperiod (hseven.trans (by decide))
  unfold Swept
  cases hstale : w.stale now with
  | false =>
    have hahead : ¬ w.Turns now period := fun h => of_decide_eq_false hstale h.1
    unfold rollOver
    simp [hstale, hahead]
  | true =>
    have hpast := of_decide_eq_true hstale
    obtain ⟨hnext, hstepped, hgrid⟩ := advance_spec hlow hlast hperiod hseven hpast
    have hroll : w.rollOver now period = ⟨w.total, w.total, advance w.resetAt now period⟩ :=
      if_pos hstale
    rw [if_pos rfl]
    constructor
    · rintro (rfl | ⟨⟨-, hturn⟩, rfl, -⟩)
      · rw [hroll]
        exact ⟨rfl, hgrid hset, Int.le_of_lt hnext, hstepped⟩
      · exact ⟨rfl, hturn, Int.le_refl _, by dsimp only; omega⟩
    · rintro ⟨hfull, hdvd, hover, hwithin⟩
      rcases Int.le_iff_lt_or_eq.mp hover with hover | hend
      · left
        rw [hroll, hfull, eq_of_grid hdvd (hgrid hset) hover hwithin hnext hstepped]
      · right
        rw [← hend] at hdvd hfull
        exact ⟨⟨hpast, hdvd⟩, hfull,
          rollOver_of_turns hlow hlast hperiod hseven hset ⟨hpast, hdvd⟩⟩

end Advance

/-- A window in sweeping is still in sweeping after it is rolled over later. -/
theorem Swept.next (h : w.Swept now period w') (hset : 0 < w.resetAt) (hlow : 0 ≤ now)
    (hle : now ≤ later) (hlast : later ≤ lastReading) (hperiod : 0 < period)
    (hseven : period ≤ sevenDays) : w.Swept later period (w'.rollOver later period) := by
  rw [swept_iff hlow (hle.trans hlast) hperiod hseven hset] at h
  cases hstale : w.stale now with
  | false =>
    rw [hstale, if_neg Bool.false_ne_true] at h
    rw [h]
    exact .inl rfl
  | true =>
    rw [hstale, if_pos rfl] at h
    obtain ⟨hfull, hdvd, hover, hwithin⟩ := h
    have hpast := of_decide_eq_true hstale
    have hmono := inUnitOf_mono w.resetAt hlow hle (hlast.trans (by decide))
    have hunit : ∀ t, inUnitOf w'.resetAt t = inUnitOf w.resetAt t :=
      inUnitOf_ahead (hle.trans hlast) hseven (by omega) hwithin
    have hlater : w.stale later = true := decide_eq_true (by omega)
    have hlow' : 0 ≤ later := hlow.trans hle
    rw [swept_iff hlow' hlast hperiod hseven hset, hlater, if_pos rfl]
    unfold rollOver
    -- The end is a period past `now` at most: it is still ahead at `later`, or is taken past that.
    cases hagain : w'.stale later with
    | false =>
      have hahead := of_decide_eq_false hagain
      rw [hunit] at hahead
      rw [if_neg Bool.false_ne_true]
      exact ⟨hfull, hdvd, by omega, by omega⟩
    | true =>
      have hpast' := of_decide_eq_true hagain
      obtain ⟨hnext, hstepped, hgrid⟩ := advance_spec hlow' hlast hperiod hseven hpast'
      have hdvd' := Int.dvd_add (hgrid (by omega)) ((hunit period).symm ▸ hdvd)
      rw [hunit] at hnext hstepped hdvd'
      rw [hunit] at hstepped
      rw [if_pos rfl]
      refine ⟨by rw [hfull], ?_, Int.le_of_lt hnext, hstepped⟩
      rwa [sub_add_sub_cancel] at hdvd'

/-- A window is rolled over at one point after the other. -/
def rolledAt (times : List Int) (period : Int) (w : Window) : Window :=
  times.foldl (fun w now => w.rollOver now period) w

/-- However often a window was rolled over before, it is in sweeping at the last time. -/
theorem swept_rolledAt {times : List Int} (hset : 0 < w.resetAt) (hperiod : 0 < period)
    (hseven : period ≤ sevenDays) (hfirst : ∀ t ∈ times ++ [now], 0 ≤ t)
    (horder : (times ++ [now]).Pairwise (· ≤ ·)) (hlast : now ≤ lastReading) :
    w.Swept now period (w.rolledAt (times ++ [now]) period) := by
  unfold rolledAt
  rw [List.foldl_append]
  induction times using List.reverseRecOn generalizing now with
  | nil => exact .inl rfl
  | append_singleton times t ih =>
    have hbefore := List.pairwise_append.mp horder
    have hle : t ≤ now := hbefore.2.2 t (by simp) now (by simp)
    have hlow : 0 ≤ t := hfirst t (by simp)
    rw [List.foldl_append]
    refine Swept.next (ih (fun t' ht' => hfirst t' ?_) hbefore.1 (hle.trans hlast)) hset hlow hle
      hlast hperiod hseven
    exact List.mem_append_left _ ht'

/-- Rolled over a second before it turns, a window ends where it turns, and stays so. -/
theorem rollOver_before_turn (hset : 0 < w.resetAt) (hlow : 0 ≤ now) (hlast : now ≤ lastReading)
    (hperiod : 1 < period) (hseven : period ≤ sevenDays) (h : w.Turns now period) :
    (w.rollOver (now - 1) period).rollOver now period =
      ⟨w.total, w.total, inUnitOf w.resetAt now⟩ := by
  obtain ⟨hpast, hturn⟩ := h
  have hstep : inUnitOf w.resetAt period ≤ inUnitOf w.resetAt now - w.resetAt :=
    Int.le_of_dvd (by omega) hturn
  have hsecond : 1 ≤ now ∧ inUnitOf w.resetAt (now - 1) < inUnitOf w.resetAt now ∧
      inUnitOf w.resetAt now < inUnitOf w.resetAt (now - 1) + inUnitOf w.resetAt period := by
    unfold lastReading sevenDays millisecondsAbove at *
    rcases Int.lt_or_le millisecondsAbove w.resetAt with hms | hs
    · have hunit {t : Int} (hlow : 0 ≤ t) (hhigh : t ≤ 1000000000000) :=
        inUnitOf_milliseconds hms hlow hhigh
      rw [hunit] at hpast
      rw [hunit, hunit, hunit]
      all_goals omega
    · rw [inUnitOf_seconds hs] at hpast
      rw [inUnitOf_seconds hs, inUnitOf_seconds hs, inUnitOf_seconds hs]
      omega
  obtain ⟨hone, hbefore, hwithin⟩ := hsecond
  have hpast' : w.resetAt < inUnitOf w.resetAt (now - 1) := by omega
  have hlast' : now - 1 ≤ lastReading := by omega
  obtain ⟨hnext, hstepped, hgrid⟩ :=
    advance_spec (Int.sub_nonneg_of_le hone) hlast' (Int.lt_trans Int.zero_lt_one hperiod) hseven
      hpast'
  have hend : advance w.resetAt (now - 1) period = inUnitOf w.resetAt now :=
    eq_of_grid (hgrid hset) hturn hnext hstepped hbefore (Int.le_of_lt hwithin)
  have hstale : w.stale (now - 1) = true := decide_eq_true hpast'
  have hkept : Window.stale ⟨w.total, w.total, inUnitOf w.resetAt now⟩ now = false := by
    refine decide_eq_false (Int.not_lt.mpr (Int.le_of_eq ?_))
    exact inUnitOf_ahead hlast' hseven (Int.le_of_lt hpast) (Int.le_of_lt hwithin) now
  unfold rollOver
  rw [if_pos hstale, hend, hkept, if_neg Bool.false_ne_true]

/-- Nothing turns before the clock runs. -/
theorem Turns.one_le (h : w.Turns now period) (hset : 0 < w.resetAt) (hlow : 0 ≤ now) :
    1 ≤ now := by
  have hpast := h.1
  rcases Int.le_iff_lt_or_eq.mp hlow with hlow | rfl
  · exact hlow
  · have hzero : inUnitOf w.resetAt 0 = 0 := by
      unfold inUnitOf
      split <;> rfl
    omega

/-- So where a window turns, a rolling over a second before makes a difference. -/
theorem Turns.rolledAt_ne (h : w.Turns now period) (hset : 0 < w.resetAt) (hlow : 0 ≤ now)
    (hlast : now ≤ lastReading) (hperiod : 1 < period) (hseven : period ≤ sevenDays) :
    w.rolledAt [now - 1, now] period ≠ w.rollOver now period := by
  have hpositive : 0 < period := Int.lt_trans Int.zero_lt_one hperiod
  have hstep : 0 < inUnitOf w.resetAt period := inUnitOf_pos hpositive (hseven.trans (by decide))
  have hbefore := rollOver_before_turn hset hlow hlast hperiod hseven h
  rw [rollOver_of_turns hlow hlast hpositive hseven hset h]
  intro hsame
  have hend := congrArg Window.resetAt (hbefore.symm.trans hsame)
  dsimp only at hend
  omega

end Window

/-! ## One entitlement -/

namespace Entitlement

/-- Both windows swept, and everything else as it was. -/
structure Swept (e : Entitlement) (now : Int) (e' : Entitlement) : Prop where
  rest : { e' with short := e.short, long := e.long } = e
  short : e.short.Swept now fiveHours e'.short
  long : e.long.Swept now sevenDays e'.long

/-- The ends of both windows have been set. -/
def Dated (e : Entitlement) : Prop := 0 < e.short.resetAt ∧ 0 < e.long.resetAt

instance (e : Entitlement) : Decidable e.Dated := inferInstanceAs (Decidable (_ ∧ _))

/-- Some window turns at `now`. -/
def Turns (e : Entitlement) (now : Int) : Prop :=
  e.short.Turns now fiveHours ∨ e.long.Turns now sevenDays

instance (e : Entitlement) (now : Int) : Decidable (e.Turns now) :=
  inferInstanceAs (Decidable (_ ∨ _))

variable {e e' : Entitlement} {now : Int}

/-- Neither window is stale right after both were rolled over. -/
theorem stale_rollOver (e : Entitlement) (hlow : 0 ≤ now) (hlast : now ≤ lastReading) :
    (e.rollOver now).short.stale now = false ∧ (e.rollOver now).long.stale now = false :=
  ⟨Window.stale_rollOver hlow hlast (by decide) (by decide) e.short,
    Window.stale_rollOver hlow hlast (by decide) (by decide) e.long⟩

/-- The entitlement is rolled over at one point after the other. -/
def rolledAt (times : List Int) (e : Entitlement) : Entitlement :=
  times.foldl Entitlement.rollOver e

theorem rolledAt_eq (times : List Int) (e : Entitlement) :
    e.rolledAt times =
      { e with
        short := e.short.rolledAt times fiveHours, long := e.long.rolledAt times sevenDays } := by
  unfold rolledAt
  induction times generalizing e with
  | nil => rfl
  | cons t times ih =>
    rw [List.foldl_cons, ih]
    rfl

/-- Swept where no window turns, an entitlement is rolled over. -/
theorem Swept.eq_rollOver (h : e.Swept now e') (hturns : ¬ e.Turns now) :
    e' = e.rollOver now := by
  obtain ⟨hrest, hshort | hshort, hlong | hlong⟩ := h
  · unfold rollOver
    rw [← hshort, ← hlong, ← hrest]
  · exact absurd (.inr hlong.1) hturns
  · exact absurd (.inl hshort.1) hturns
  · exact absurd (.inl hshort.1) hturns

theorem Turns.one_le (h : e.Turns now) (hdated : e.Dated) (hlow : 0 ≤ now) : 1 ≤ now := by
  rcases h with h | h
  · exact h.one_le hdated.1 hlow
  · exact h.one_le hdated.2 hlow

theorem Turns.rolledAt_ne (h : e.Turns now) (hdated : e.Dated) (hlow : 0 ≤ now)
    (hlast : now ≤ lastReading) : e.rolledAt [now - 1, now] ≠ e.rollOver now := by
  intro hsame
  rw [rolledAt_eq] at hsame
  rcases h with h | h
  · exact h.rolledAt_ne hdated.1 hlow hlast (by decide) (by decide) (congrArg short hsame)
  · exact h.rolledAt_ne hdated.2 hlow hlast (by decide) (by decide) (congrArg long hsame)

end Entitlement

/-! ## Documents -/

namespace Document

variable {d : Document} {times : List Int} {last : Int}

/-- Points in time one after the other, the last of them apart. -/
structure Schedule (times : List Int) (last : Int) : Prop where
  first : ∀ t ∈ times ++ [last], 0 ≤ t
  order : (times ++ [last]).Pairwise (· ≤ ·)
  latest : last ≤ lastReading

/-- The document pruned at one point after the other. -/
def prunedAt (times : List Int) (d : Document) : Document := d.run (times.map Operation.prune)

theorem prunedAt_cons (t : Int) (times : List Int) (d : Document) :
    d.prunedAt (t :: times) = (d.pruned t).prunedAt times := rfl

/-- Without anything to drop, all are rolled over each time. -/
theorem items_prunedAt_deployed (h : ∀ e ∈ d.items, e.deployed = true) :
    (d.prunedAt times).items = d.items.map (Entitlement.rolledAt times) := by
  induction times generalizing d with
  | nil => exact d.items.map_id.symm
  | cons t times ih =>
    have hitems : (d.pruned t).items = d.items.map (·.rollOver t) := by
      unfold pruned
      rw [List.filter_eq_self.mpr h]
    rw [prunedAt_cons, ih, hitems, List.map_map]
    · rfl
    · intro e he
      obtain ⟨e', he', hdeployed, rfl⟩ := mem_pruned.mp he
      exact hdeployed

/-- Pruning drops what is not deployed, and rolls over the rest each time. -/
theorem items_prunedAt_cons (t : Int) (times : List Int) (d : Document) :
    (d.prunedAt (t :: times)).items =
      (d.items.filter Entitlement.deployed).map (Entitlement.rolledAt (t :: times)) := by
  have hitems : (d.pruned t).items = (d.items.filter Entitlement.deployed).map (·.rollOver t) := rfl
  rw [prunedAt_cons, items_prunedAt_deployed, hitems, List.map_map]
  · rfl
  · intro e he
    obtain ⟨e', he', hdeployed, rfl⟩ := mem_pruned.mp he
    exact hdeployed

theorem items_prunedAt (times : List Int) (last : Int) (d : Document) :
    (d.prunedAt (times ++ [last])).items =
      (d.items.filter Entitlement.deployed).map (Entitlement.rolledAt (times ++ [last])) := by
  cases times <;> exact items_prunedAt_cons _ _ d

theorem Schedule.swept {e : Entitlement} (h : Schedule times last) (hdated : e.Dated) :
    e.Swept last (e.rolledAt (times ++ [last])) := by
  obtain ⟨hfirst, horder, hlatest⟩ := h
  rw [Entitlement.rolledAt_eq]
  exact ⟨rfl,
    Window.swept_rolledAt hdated.1 (by decide) (by decide) hfirst horder hlatest,
    Window.swept_rolledAt hdated.2 (by decide) (by decide) hfirst horder hlatest⟩

/-- A pruning right before the last one. -/
theorem schedule_before (hone : 1 ≤ last) (hlatest : last ≤ lastReading) :
    Schedule [last - 1] last := by
  refine ⟨?_, ?_, hlatest⟩
  · intro t ht
    have hcases : t = last - 1 ∨ t = last := by simpa using ht
    omega
  · simp

/-- What is left of a document whose windows all have an end, by a schedule of prunings, is what one
pruning at the last time leaves, but for windows that turn at that time; and a schedule is of no
account exactly where no deployed entitlement has such a window. -/
theorem prunedAt_schedule (hdated : ∀ e ∈ d.items, e.Dated) (hlow : 0 ≤ last)
    (hlatest : last ≤ lastReading) :
    (∀ times, Schedule times last →
      List.Forall₂ (fun e e' => e.Swept last e') (d.items.filter Entitlement.deployed)
        (d.prunedAt (times ++ [last])).items) ∧
    ((∀ times, Schedule times last →
        (d.prunedAt (times ++ [last])).items = (d.pruned last).items) ↔
      ∀ e ∈ d.items, e.deployed = true → ¬ e.Turns last) := by
  have hswept : ∀ times, Schedule times last → ∀ e ∈ d.items.filter Entitlement.deployed,
      e.Swept last (e.rolledAt (times ++ [last])) :=
    fun times h e he => h.swept (hdated e (List.mem_of_mem_filter he))
  refine ⟨fun times h => ?_, fun hsame e he hdeployed hturns => ?_, fun hturns times h => ?_⟩
  · rw [items_prunedAt, List.forall₂_map_right_iff, List.forall₂_same]
    exact hswept times h
  · have hbefore := schedule_before (hturns.one_le (hdated e he) hlow) hlatest
    have hitems := (items_prunedAt [last - 1] last d).symm.trans (hsame _ hbefore)
    have heach := List.map_inj_left.mp hitems e (List.mem_filter.mpr ⟨he, hdeployed⟩)
    exact hturns.rolledAt_ne (hdated e he) hlow hlatest heach
  · rw [items_prunedAt]
    refine List.map_congr_left fun e he => (hswept times h e he).eq_rollOver ?_
    obtain ⟨hmem, hdeployed⟩ := List.mem_filter.mp he
    exact hturns e hmem hdeployed

/-- The short window of the last entitlement turns at 36900, so prunings before that matter then, but
not a second later. -/
theorem prunedAt_schedule_shelf :
    (∀ e ∈ shelfDocument.items, e.Dated) ∧ (0 : Int) ≤ 36900 ∧ 36900 ≤ lastReading ∧
      (∃ times, Schedule times 36900 ∧
        (shelfDocument.prunedAt (times ++ [36900])).items ≠ (shelfDocument.pruned 36900).items) ∧
      ∀ times, Schedule times 36901 →
        (shelfDocument.prunedAt (times ++ [36901])).items = (shelfDocument.pruned 36901).items := by
  have hdated : ∀ e ∈ shelfDocument.items, e.Dated := by
    simp only [shelfDocument, List.forall_mem_cons]
    exact ⟨by decide, by decide, by decide, List.forall_mem_nil _⟩
  have hturns : ¬ ∀ e ∈ shelfDocument.items, e.deployed = true → ¬ e.Turns 36900 := by
    simp only [shelfDocument, List.forall_mem_cons]
    exact fun h => h.2.2.1 (by decide) (by decide)
  have hkept : ∀ e ∈ shelfDocument.items, e.deployed = true → ¬ e.Turns 36901 := by
    simp only [shelfDocument, List.forall_mem_cons]
    exact ⟨fun _ => by decide, fun _ => by decide, fun _ => by decide, List.forall_mem_nil _⟩
  refine ⟨hdated, by decide, by decide, ?_, ?_⟩
  · by_contra hnone
    refine hturns ((prunedAt_schedule hdated (by decide) (by decide)).2.mp fun times h => ?_)
    by_contra hne
    exact hnone ⟨times, h, hne⟩
  · exact (prunedAt_schedule hdated (by decide) (by decide)).2.mpr hkept

/-- Pruned at 1001, the short window ends at 19000, and a pruning right then leaves it alone; one that
is the first fills it until 37000. -/
theorem schedule_matters :
    ¬ ∀ (d : Document) (times : List Int) (last : Int), (∀ e ∈ d.items, e.Dated) →
      Schedule times last →
        (d.prunedAt (times ++ [last])).items = (d.pruned last).items := by
  intro h
  have hdated : ∀ e ∈ [shelved "s1" "deployed" ⟨10, 3, 1000⟩], e.Dated := by
    rw [List.forall_mem_singleton]
    decide
  have hschedule : Schedule [1001] 19000 := ⟨by decide, by decide, by decide⟩
  have hsame := congrArg (List.map fun e => e.short.resetAt) (h ⟨_, 0⟩ _ _ hdated hschedule)
  exact absurd hsame (by decide)

end Document

end Turnstile.Subscription
