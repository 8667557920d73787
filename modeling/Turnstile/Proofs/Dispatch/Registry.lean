import Mathlib.Data.List.Induction
import Turnstile.Dispatch.Registry
import Turnstile.Proofs.Rows
import Turnstile.Proofs.Run
import Turnstile.Proofs.Text.Cut

/-!
# The latest order about a channel counts until its time is over

An entry of the registry goes when its time is over and someone asks for it, or with a sweep, or
when the channel is enabled; another order replaces it.  Asking and sweeping go by a reading of the
clock, and take out nothing but entries whose time is over by that reading (`Registry.Thinned`).
As the clock never goes back, nothing that is taken out would be shown again, so what is shown of a
channel depends on the latest order about it alone, however often it was asked for and whenever the
registry was swept.

Calls that overlap go by readings that may be old: `Busy` follows any number of calls, each of
which reads the clock when it begins and comes to the registry later, an asking up to twice.  An
old reading is not after the clock, so an entry whose time is over by it is over.

* `Registry.Thinned` — what asking and sweeping leave;
* `Registry.shown_run` — what is shown after calls one after the other;
* `Registry.Busy.run_turnsOf` — calls that do not overlap after all;
* `Registry.latest_order_counts` — this, and overlapping calls.
-/

set_option autoImplicit false

namespace Turnstile.Registry

variable {now later : Nat} {c k : Int} {d : Disabled} {r r' : Registry}

/-! ## What is shown of a channel -/

/-- What is shown of a channel: its entry, if its time is not over. -/
def shown (now : Nat) (channel : Int) (r : Registry) : Option Disabled :=
  (r.find? channel).filter fun d => now < d.expiresAt

theorem shown_eq_some_iff :
    r.shown now c = some d ↔ r.find? c = some d ∧ now < d.expiresAt := by
  unfold shown
  rw [Option.filter_eq_some_iff, decide_eq_true_eq]

theorem shown_eq_none_iff :
    r.shown now c = none ↔ ∀ d, r.find? c = some d → d.expiresAt ≤ now := by
  unfold shown
  simp only [Option.filter_eq_none_iff, decide_eq_true_eq, Nat.not_lt]

/-- What is shown later is what is shown now, until its time is over. -/
theorem filter_shown (hle : now ≤ later) :
    (r.shown now c).filter (fun d => later < d.expiresAt) = r.shown later c := by
  unfold shown
  rw [Option.filter_filter]
  congr 1
  funext d
  rw [← Bool.decide_and]
  exact decide_eq_decide.mpr (by omega)

theorem info_fst (now : Nat) (c : Int) (r : Registry) : (r.info now c).1 = r.shown now c := by
  unfold info removeIfOver look shown
  cases r.find? c with
  | none => rfl
  | some d =>
    by_cases hlive : now < d.expiresAt
    · simp [hlive, Option.filter_some]
    · simp [hlive, Option.filter_some]

/-- The end of a time. -/
theorem expiryOf_eq (now nanos : Nat) :
    expiryOf now nanos =
      min Word.greatestUnsigned (now + if nanos = 0 then 300000 else nanos / 1000000) := by
  unfold expiryOf Word.addUnsigned defaultMillis
  dsimp only
  generalize (if nanos = 0 then 300000 else nanos / 1000000) = millis
  omega

/-! ## What asking and sweeping leave -/

/-- Nothing has gone but entries whose time is over at `now`. -/
def Thinned (now : Nat) (r r' : Registry) : Prop :=
  ∀ c, r'.find? c = r.find? c ∨ r'.find? c = r.shown now c

theorem Thinned.refl (now : Nat) (r : Registry) : Thinned now r r := fun _ => .inl rfl

theorem Thinned.kept (h : Thinned now r r') (hfind : r.find? c = some d)
    (hlive : now < d.expiresAt) : r'.find? c = some d := by
  rcases h c with hsame | hshown
  · rw [hsame, hfind]
  · rw [hshown, shown_eq_some_iff.mpr ⟨hfind, hlive⟩]

theorem Thinned.only (h : Thinned now r r') (hfind : r'.find? c = some d) :
    r.find? c = some d := by
  rcases h c with hsame | hshown
  · rw [← hsame, hfind]
  · rw [hshown] at hfind
    exact (shown_eq_some_iff.mp hfind).1

/-- What is over by an earlier reading is over. -/
theorem Thinned.mono (h : Thinned now r r') (hle : now ≤ later) : Thinned later r r' := by
  intro c
  rcases h c with hsame | hshown
  · exact .inl hsame
  · cases hshow : r.shown now c with
    | none =>
      refine .inr (hshown.trans (hshow.trans (Eq.symm (shown_eq_none_iff.mpr fun d hd => ?_))))
      exact (shown_eq_none_iff.mp hshow d hd).trans hle
    | some d =>
      left
      rw [hshown, hshow, (shown_eq_some_iff.mp hshow).1]

/-- It makes no difference to what is shown from then on. -/
theorem Thinned.shown_eq (h : Thinned now r r') (hle : now ≤ later) (c : Int) :
    r'.shown later c = r.shown later c := by
  rcases h c with hsame | hshown
  · unfold shown
    rw [hsame]
  · show (r'.find? c).filter _ = _
    rw [hshown, filter_shown hle]

theorem thinned_removeIfOver (now : Nat) (c : Int) (r : Registry) :
    Thinned now r (r.removeIfOver now c).2 := by
  unfold removeIfOver look
  cases hfind : r.find? c with
  | none => exact .refl now r
  | some d =>
    dsimp only
    by_cases hlive : now < d.expiresAt
    · rw [if_pos hlive]
      exact .refl now r
    · rw [if_neg hlive]
      intro k
      rw [Rows.find?_erase]
      by_cases hk : k = c
      · subst hk
        right
        rw [if_pos rfl, eq_comm, shown_eq_none_iff, hfind]
        intro d' hd'
        cases hd'
        exact Nat.not_lt.mp hlive
      · rw [if_neg hk]
        exact .inl rfl

theorem thinned_info (now : Nat) (c : Int) (r : Registry) : Thinned now r (r.info now c).2 := by
  unfold info
  split
  · exact .refl now r
  · exact .refl now r
  · exact thinned_removeIfOver now c r

theorem thinned_sweep (hr : r.Ascending) (now : Nat) : Thinned now r (r.sweep now) :=
  fun c => .inr (hr.find?_filter _ c)

/-! ## Tables stay in order -/

theorem ascending_erase (hr : r.Ascending) (c : Int) : Rows.Ascending (r.erase c) := hr.filter _

theorem ascending_removeIfOver (hr : r.Ascending) (now : Nat) (c : Int) :
    (r.removeIfOver now c).2.Ascending := by
  unfold removeIfOver
  split
  · exact hr
  · exact hr
  · exact ascending_erase hr c

theorem ascending_info (hr : r.Ascending) (now : Nat) (c : Int) : (r.info now c).2.Ascending := by
  unfold info
  split
  · exact hr
  · exact hr
  · exact ascending_removeIfOver hr now c

/-! ## Calls one after the other -/

/-- What happens to a registry. -/
inductive Event where
  | pass (millis : Nat)
  | disable (channel : Int) (nanos : Nat) (reason : String)
  | enable (channel : Int)
  | ask (channel : Int)
  | sweep

namespace Event

/-- It is an order about the channel. -/
def orders (channel : Int) : Event → Bool
  | .disable c _ _ => c == channel
  | .enable c => c == channel
  | .pass _ => false
  | .ask _ => false
  | .sweep => false

/-- It is an order or time that passes, neither a question nor a sweep. -/
def changes : Event → Bool
  | .pass _ => true
  | .disable _ _ _ => true
  | .enable _ => true
  | .ask _ => false
  | .sweep => false

end Event

/-- A registry and the clock that it goes by. -/
structure Watch where
  clock : Nat
  registry : Registry

namespace Watch

/-- What an event leaves. -/
def after (w : Watch) : Event → Watch
  | .pass millis => { w with clock := w.clock + millis }
  | .disable c nanos reason =>
    { w with registry := (w.registry.disable w.clock c nanos reason).2 }
  | .enable c => { w with registry := (w.registry.enable c).2 }
  | .ask c => { w with registry := (w.registry.info w.clock c).2 }
  | .sweep => { w with registry := w.registry.sweep w.clock }

/-- What events one after the other leave of a registry that was empty at `start`. -/
def run (start : Nat) (events : List Event) : Watch := events.foldl after ⟨start, []⟩

/-- What is answered when a channel is asked for. -/
def answer (c : Int) (w : Watch) : Option Disabled := (w.registry.info w.clock c).1

theorem run_snoc (start : Nat) (events : List Event) (e : Event) :
    run start (events ++ [e]) = (run start events).after e := by
  unfold run
  rw [List.foldl_append]
  rfl

end Watch

/-- The latest order about the channel disabled it, and made this entry. -/
def Latest (start : Nat) (events : List Event) (c : Int) (d : Disabled) : Prop :=
  ∃ before nanos reason behind, events = before ++ .disable c nanos reason :: behind ∧
    (∀ e ∈ behind, e.orders c = false) ∧
    d = ⟨expiryOf (Watch.run start before).clock nanos, Text.cutBytes maxReasonBytes reason⟩

theorem latest_iff {start : Nat} {events : List Event} :
    Latest start events c d ↔
      ∃ before nanos reason behind, events = before ++ .disable c nanos reason :: behind ∧
        (∀ e ∈ behind, e.orders c = false) ∧
        d.expiresAt = min Word.greatestUnsigned
          ((Watch.run start before).clock + if nanos = 0 then 300000 else nanos / 1000000) ∧
        Text.LongestFront 256 reason d.reason := by
  unfold Latest
  refine exists_congr fun before => exists_congr fun nanos => exists_congr fun reason =>
    exists_congr fun behind => and_congr_right fun _ => and_congr_right fun _ => ?_
  rw [← expiryOf_eq]
  constructor
  · rintro rfl
    exact ⟨rfl, Text.longestFront_cutBytes _ reason⟩
  · rintro ⟨hexpires, hreason⟩
    have hcut : d.reason = Text.cutBytes maxReasonBytes reason :=
      hreason.unique (Text.longestFront_cutBytes _ reason)
    rw [← hexpires, ← hcut]

theorem latest_snoc {start : Nat} {events : List Event} {e : Event} :
    Latest start (events ++ [e]) c d ↔
      (e.orders c = false ∧ Latest start events c d) ∨
      ∃ nanos reason, e = .disable c nanos reason ∧
        d = ⟨expiryOf (Watch.run start events).clock nanos,
          Text.cutBytes maxReasonBytes reason⟩ := by
  constructor
  · rintro ⟨before, nanos, reason, behind, hevents, hbehind, hd⟩
    rcases behind.eq_nil_or_concat with rfl | ⟨behind, e', rfl⟩
    · obtain ⟨rfl, he⟩ := List.append_inj' hevents rfl
      cases he
      exact .inr ⟨nanos, reason, rfl, hd⟩
    · rw [List.concat_eq_append] at hevents hbehind
      rw [← List.cons_append, ← List.append_assoc] at hevents
      obtain ⟨rfl, he⟩ := List.append_inj' hevents rfl
      cases he
      refine .inl ⟨hbehind e (by simp), before, nanos, reason, behind, rfl, fun e' he' => ?_, hd⟩
      exact hbehind e' (List.mem_append_left _ he')
  · rintro (⟨he, before, nanos, reason, behind, rfl, hbehind, hd⟩ | ⟨nanos, reason, rfl, hd⟩)
    · refine ⟨before, nanos, reason, behind ++ [e], by simp, fun e' he' => ?_, hd⟩
      rcases List.mem_append.mp he' with he' | he'
      · exact hbehind e' he'
      · rw [List.mem_singleton.mp he']
        exact he
    · exact ⟨events, nanos, reason, [], rfl, nofun, hd⟩

theorem Watch.clock_le_after (w : Watch) (e : Event) : w.clock ≤ (w.after e).clock := by
  cases e with
  | pass millis => exact Nat.le_add_right w.clock millis
  | disable _ _ _ => exact Nat.le_refl w.clock
  | enable _ => exact Nat.le_refl w.clock
  | ask _ => exact Nat.le_refl w.clock
  | sweep => exact Nat.le_refl w.clock

theorem Watch.ascending_after {w : Watch} (hw : w.registry.Ascending) (e : Event) :
    (w.after e).registry.Ascending := by
  cases e with
  | pass _ => exact hw
  | disable k _ _ => exact hw.put k _
  | enable k => exact ascending_erase hw k
  | ask k => exact ascending_info hw w.clock k
  | sweep => exact hw.filter _

/-- What is no order about the channel changes nothing of what is shown from then on. -/
theorem Watch.shown_after {w : Watch} (hw : w.registry.Ascending) {e : Event}
    (h : e.orders c = false) (hle : w.clock ≤ later) :
    (w.after e).registry.shown later c = w.registry.shown later c := by
  cases e with
  | pass _ => rfl
  | disable k nanos reason =>
    have hk : c ≠ k := Ne.symm (beq_eq_false_iff_ne.mp h)
    show (Rows.find? c (w.registry.put k _)).filter _ = _
    rw [Rows.find?_put, if_neg hk]
    rfl
  | enable k =>
    have hk : c ≠ k := Ne.symm (beq_eq_false_iff_ne.mp h)
    show (Rows.find? c (w.registry.erase k)).filter _ = _
    rw [Rows.find?_erase, if_neg hk]
    rfl
  | ask k => exact (thinned_info w.clock k w.registry).shown_eq hle c
  | sweep => exact (thinned_sweep hw w.clock).shown_eq hle c

theorem Watch.ascending_run (start : Nat) (events : List Event) :
    (run start events).registry.Ascending :=
  @Run.keeps _ _ after (·.registry.Ascending) (fun _ e h => ascending_after h e) events _
    List.Pairwise.nil

/-- What is shown of a channel is the entry of the latest order about it, until its time is over. -/
theorem shown_run (start : Nat) (events : List Event) (c : Int) (d : Disabled) :
    (Watch.run start events).registry.shown (Watch.run start events).clock c = some d ↔
      Latest start events c d ∧ (Watch.run start events).clock < d.expiresAt := by
  induction events using List.reverseRecOn with
  | nil => simp [Watch.run, shown, Rows.find?, Latest]
  | append_singleton events e ih =>
    have hw := Watch.ascending_run start events
    rw [Watch.run_snoc, latest_snoc]
    generalize Watch.run start events = w at ih hw
    have hle := w.clock_le_after e
    cases ho : e.orders c with
    | false =>
      have hnone : ¬ ∃ nanos reason, e = .disable c nanos reason ∧
          d = ⟨expiryOf w.clock nanos, Text.cutBytes maxReasonBytes reason⟩ := by
        rintro ⟨nanos, reason, rfl, -⟩
        exact absurd (beq_self_eq_true c) (Bool.eq_false_iff.mp ho)
      rw [Watch.shown_after hw ho hle, ← filter_shown hle, Option.filter_eq_some_iff, ih,
        decide_eq_true_eq, or_iff_left hnone]
      constructor
      · rintro ⟨⟨hlatest, -⟩, hlive⟩
        exact ⟨⟨rfl, hlatest⟩, hlive⟩
      · rintro ⟨⟨-, hlatest⟩, hlive⟩
        exact ⟨⟨hlatest, by omega⟩, hlive⟩
    | true =>
      rw [shown_eq_some_iff]
      refine and_congr_left fun _ => ?_
      simp only [Bool.true_eq_false, false_and, false_or]
      cases e with
      | disable k nanos reason =>
        obtain rfl : k = c := eq_of_beq ho
        show Rows.find? k (w.registry.put k _) = some d ↔ _
        rw [Rows.find?_put, if_pos rfl, Option.some.injEq]
        constructor
        · rintro rfl
          exact ⟨nanos, reason, rfl, rfl⟩
        · rintro ⟨nanos', reason', he, rfl⟩
          cases he
          rfl
      | enable k =>
        obtain rfl : k = c := eq_of_beq ho
        show Rows.find? k (w.registry.erase k) = some d ↔ _
        rw [Rows.find?_erase, if_pos rfl]
        simp
      | pass _ => cases ho
      | ask _ => cases ho
      | sweep => cases ho

/-! ## Questions and sweeps left out -/

theorem Event.orders_of_not_changes {e : Event} (h : e.changes = false) (c : Int) :
    e.orders c = false := by
  cases e with
  | pass _ => rfl
  | disable _ _ _ => cases h
  | enable _ => cases h
  | ask _ => rfl
  | sweep => rfl

theorem Watch.clock_after_of_not_changes (w : Watch) {e : Event} (h : e.changes = false) :
    (w.after e).clock = w.clock := by
  cases e with
  | pass _ => cases h
  | disable _ _ _ => cases h
  | enable _ => cases h
  | ask _ => rfl
  | sweep => rfl

/-- The clock is moved by the time that passes and by nothing else. -/
theorem Watch.clock_after_congr {w w' : Watch} (h : w.clock = w'.clock) (e : Event) :
    (w.after e).clock = (w'.after e).clock := by
  cases e with
  | pass millis => exact congrArg (· + millis) h
  | disable _ _ _ => exact h
  | enable _ => exact h
  | ask _ => exact h
  | sweep => exact h

theorem clock_filter (start : Nat) (events : List Event) :
    (Watch.run start (events.filter Event.changes)).clock = (Watch.run start events).clock := by
  induction events using List.reverseRecOn with
  | nil => rfl
  | append_singleton events e ih =>
    rw [List.filter_append, Watch.run_snoc]
    cases hchanges : e.changes with
    | true =>
      rw [List.filter_singleton, hchanges, cond_true, Watch.run_snoc]
      exact Watch.clock_after_congr ih e
    | false =>
      rw [List.filter_singleton, hchanges, cond_false, List.append_nil, ih,
        Watch.clock_after_of_not_changes _ hchanges]

theorem latest_filter (start : Nat) (events : List Event) :
    Latest start (events.filter Event.changes) c d ↔ Latest start events c d := by
  induction events using List.reverseRecOn with
  | nil => rfl
  | append_singleton events e ih =>
    rw [List.filter_append]
    cases hchanges : e.changes with
    | true =>
      rw [List.filter_singleton, hchanges, cond_true, latest_snoc, latest_snoc, ih, clock_filter]
    | false =>
      rw [List.filter_singleton, hchanges, cond_false, List.append_nil, ih, latest_snoc,
        or_iff_left, and_iff_right (Event.orders_of_not_changes hchanges c)]
      rintro ⟨nanos, reason, rfl, -⟩
      cases hchanges

theorem answer_filter (start : Nat) (events : List Event) (c : Int) :
    (Watch.run start (events.filter Event.changes)).answer c =
      (Watch.run start events).answer c := by
  refine Option.ext fun d => ?_
  unfold Watch.answer
  rw [info_fst, info_fst, shown_run, shown_run, latest_filter, clock_filter]

/-! ## Calls that overlap -/

/-- What a call that is under way does when it next comes to the registry. All but an entry that is
put in go by the clock as it was when the call began. -/
inductive Pending where
  /-- An asking looks at the entry. -/
  | look (now : Nat) (channel : Int)
  /-- It met an entry whose time was over, looks again and removes it. -/
  | remove (now : Nat) (channel : Int)
  | sweep (now : Nat)
  /-- A disabling, whose end has been worked out, puts its entry in. -/
  | enter (channel : Int) (d : Disabled)

namespace Pending

/-- The reading of the clock by which the call takes entries out, if it is one that does. -/
def reading? : Pending → Option Nat
  | .look now _ => some now
  | .remove now _ => some now
  | .sweep now => some now
  | .enter _ _ => none

/-- What the call does, and what it still has to do. -/
def proceed (p : Pending) (r : Registry) : Option Pending × Registry :=
  match p with
  | .look now c => match r.look now c with
    | .enabled => (none, r)
    | .disabled _ => (none, r)
    | .over => (some (.remove now c), r)
  | .remove now c => (none, (r.removeIfOver now c).2)
  | .sweep now => (none, r.sweep now)
  | .enter c d => (none, r.put c d)

variable {p p' : Pending}

theorem reading?_proceed (h : p.proceed r = (some p', r')) : p'.reading? = p.reading? := by
  cases p with
  | look now c =>
    unfold proceed at h
    dsimp only at h
    split at h <;> cases h
    rfl
  | remove _ _ => cases h
  | sweep _ => cases h
  | enter _ _ => cases h

theorem ascending_proceed (p : Pending) (hr : r.Ascending) : (p.proceed r).2.Ascending := by
  cases p with
  | look now c =>
    unfold proceed
    dsimp only
    split <;> exact hr
  | remove now c => exact ascending_removeIfOver hr now c
  | sweep now => exact hr.filter _
  | enter c d => exact hr.put c d

/-- A call that takes out entries takes out none whose time is not over by its reading. -/
theorem thinned_proceed (p : Pending) (hr : r.Ascending) (h : p.reading? = some now) :
    Thinned now r (p.proceed r).2 := by
  cases p with
  | look _ c =>
    unfold proceed
    dsimp only
    split <;> exact .refl now r
  | remove _ c =>
    cases h
    exact thinned_removeIfOver now c r
  | sweep _ =>
    cases h
    exact thinned_sweep hr now
  | enter _ _ => cases h

end Pending

/-- What happens next: time passes, a call begins, or the `k`th call under way goes on. Enabling a
channel takes one step. -/
inductive Turn where
  | pass (millis : Nat)
  | ask (channel : Int)
  | sweep
  | disable (channel : Int) (nanos : Nat) (reason : String)
  | enable (channel : Int)
  | go (k : Nat)

/-- A registry, its clock, and the calls under way. -/
structure Busy where
  clock : Nat
  registry : Registry
  calls : List Pending

namespace Busy

/-- A call begins. -/
def begin (p : Pending) (b : Busy) : Busy := { b with calls := b.calls ++ [p] }

/-- What a turn leaves. -/
def after (b : Busy) : Turn → Busy
  | .pass millis => { b with clock := b.clock + millis }
  | .ask c => b.begin (.look b.clock c)
  | .sweep => b.begin (.sweep b.clock)
  | .disable c nanos reason =>
    b.begin (.enter c ⟨expiryOf b.clock nanos, Text.cutBytes maxReasonBytes reason⟩)
  | .enable c => { b with registry := b.registry.erase c }
  | .go k => match b.calls[k]? with
    | none => b
    | some p => match p.proceed b.registry with
      | (none, r) => { b with registry := r, calls := b.calls.eraseIdx k }
      | (some p', r) => { b with registry := r, calls := b.calls.set k p' }

/-- What turns one after the other leave of a registry that was empty at `start`. -/
def run (start : Nat) (turns : List Turn) : Busy := turns.foldl after ⟨start, [], []⟩

/-- The turns of a call that nothing comes between; the last is idle where an asking takes one step
only. -/
def turnsOf : Event → List Turn
  | .pass millis => [.pass millis]
  | .disable c nanos reason => [.disable c nanos reason, .go 0]
  | .enable c => [.enable c]
  | .ask c => [.ask c, .go 0, .go 0]
  | .sweep => [.sweep, .go 0]

theorem foldl_turnsOf (w : Watch) (e : Event) :
    (turnsOf e).foldl after ⟨w.clock, w.registry, []⟩ =
      ⟨(w.after e).clock, (w.after e).registry, []⟩ := by
  cases e with
  | pass _ => rfl
  | disable _ _ _ => rfl
  | enable _ => rfl
  | sweep => rfl
  | ask c =>
    unfold turnsOf Watch.after info
    simp only [List.foldl_cons, List.foldl_nil, after, begin, List.nil_append,
      List.getElem?_cons_zero, Pending.proceed]
    cases w.registry.look w.clock c <;> rfl

/-- Calls that do not overlap are calls one after the other. -/
theorem run_turnsOf (start : Nat) (events : List Event) :
    run start (events.flatMap turnsOf) =
      ⟨(Watch.run start events).clock, (Watch.run start events).registry, []⟩ := by
  induction events using List.reverseRecOn with
  | nil => rfl
  | append_singleton events e ih =>
    unfold run at ih ⊢
    rw [List.flatMap_append, List.foldl_append, ih, List.flatMap_singleton, foldl_turnsOf,
      Watch.run_snoc]

/-- The registry is in order, and no call goes by a reading that is after the clock. -/
structure Sound (b : Busy) : Prop where
  ascending : b.registry.Ascending
  readings : ∀ p ∈ b.calls, ∀ now, p.reading? = some now → now ≤ b.clock

variable {b : Busy} {p : Pending}

theorem Sound.begin (h : b.Sound) (hp : ∀ now, p.reading? = some now → now ≤ b.clock) :
    (b.begin p).Sound := by
  refine ⟨h.ascending, fun p' hp' => ?_⟩
  rcases List.mem_append.mp hp' with hp' | hp'
  · exact h.readings p' hp'
  · rw [List.mem_singleton.mp hp']
    exact hp

theorem Sound.after (h : b.Sound) (t : Turn) : (b.after t).Sound := by
  cases t with
  | pass millis =>
    exact ⟨h.ascending, fun p hp now hnow => (h.readings p hp now hnow).trans (Nat.le_add_right ..)⟩
  | ask c => exact h.begin fun now hnow => (Option.some.inj hnow).ge
  | sweep => exact h.begin fun now hnow => (Option.some.inj hnow).ge
  | disable c nanos reason => exact h.begin nofun
  | enable c => exact ⟨ascending_erase h.ascending c, h.readings⟩
  | go k =>
    unfold Busy.after
    dsimp only
    split
    · exact h
    · rename_i p hk
      have hascending := p.ascending_proceed h.ascending
      split
      · rename_i hproceed
        rw [hproceed] at hascending
        exact ⟨hascending, fun p' hp' => h.readings p' (List.mem_of_mem_eraseIdx hp')⟩
      · rename_i p' r hproceed
        rw [hproceed] at hascending
        refine ⟨hascending, fun q hq => ?_⟩
        rcases List.mem_or_eq_of_mem_set hq with hq | rfl
        · exact h.readings q hq
        · rw [Pending.reading?_proceed hproceed]
          exact h.readings p (List.mem_of_getElem? hk)

theorem sound_run (start : Nat) (turns : List Turn) : (run start turns).Sound :=
  Run.keeps (fun _ t h => h.after t) turns ⟨List.Pairwise.nil, nofun⟩

theorem after_go {k : Nat} (hk : b.calls[k]? = some p) :
    (b.after (.go k)).registry = (p.proceed b.registry).2 := by
  unfold after
  dsimp only
  rw [hk]
  dsimp only
  split <;> (rename_i hproceed; rw [hproceed])

/-- A call that takes out entries takes out none whose time is not over when it does. -/
theorem thinned_go (start : Nat) (turns : List Turn) {k : Nat}
    (hk : (run start turns).calls[k]? = some p) (hnow : p.reading? = some now) :
    Thinned (run start turns).clock (run start turns).registry
      ((run start turns).after (.go k)).registry := by
  have hb := sound_run start turns
  rw [after_go hk]
  exact (p.thinned_proceed hb.ascending hnow).mono
    (hb.readings p (List.mem_of_getElem? hk) now hnow)

end Busy

/-! ## The registry as a whole -/

/-- What is answered about a channel, asked after calls one after the other, is the entry of the
latest order about it if that order disabled it and its time is not over; and questions and sweeps
make no difference to it. Calls may overlap, and those that do not are such calls. Whatever comes
between, a call that takes out entries takes out none whose time is not over at that moment, and
puts none in. -/
theorem latest_order_counts (start : Nat) :
    (∀ events c d, (Watch.run start events).answer c = some d ↔
      ∃ before nanos reason behind, events = before ++ .disable c nanos reason :: behind ∧
        (∀ e ∈ behind, e.orders c = false) ∧
        d.expiresAt = min Word.greatestUnsigned
          ((Watch.run start before).clock + if nanos = 0 then 300000 else nanos / 1000000) ∧
        Text.LongestFront 256 reason d.reason ∧
        (Watch.run start events).clock < d.expiresAt) ∧
    (∀ events events' : List Event, events.filter Event.changes = events'.filter Event.changes →
      ∀ c, (Watch.run start events).answer c = (Watch.run start events').answer c) ∧
    (∀ events, Busy.run start (events.flatMap Busy.turnsOf) =
      ⟨(Watch.run start events).clock, (Watch.run start events).registry, []⟩) ∧
    ∀ (turns : List Turn) (k : Nat) (p : Pending) (now : Nat),
      (Busy.run start turns).calls[k]? = some p → p.reading? = some now →
      (∀ c d, (Busy.run start turns).registry.find? c = some d →
        (Busy.run start turns).clock < d.expiresAt →
        ((Busy.run start turns).after (.go k)).registry.find? c = some d) ∧
      ∀ c d, ((Busy.run start turns).after (.go k)).registry.find? c = some d →
        (Busy.run start turns).registry.find? c = some d := by
  refine ⟨fun events c d => ?_, fun events events' heq c => ?_, Busy.run_turnsOf start,
    fun turns k p now hk hnow => ?_⟩
  · unfold Watch.answer
    rw [info_fst, shown_run, latest_iff, and_comm]
    constructor
    · rintro ⟨hlive, before, nanos, reason, behind, hevents, hbehind, hexpires, hreason⟩
      exact ⟨before, nanos, reason, behind, hevents, hbehind, hexpires, hreason, hlive⟩
    · rintro ⟨before, nanos, reason, behind, hevents, hbehind, hexpires, hreason, hlive⟩
      exact ⟨hlive, before, nanos, reason, behind, hevents, hbehind, hexpires, hreason⟩
  · rw [← answer_filter start events, heq, answer_filter]
  · have hthinned := Busy.thinned_go start turns hk hnow
    exact ⟨fun _ _ => hthinned.kept, fun _ _ => hthinned.only⟩

/-- An asking that met an entry whose time was over comes back after the channel was disabled
again, and leaves the new entry. -/
theorem disabled_again_between_steps :
    let turns : List Turn := [.disable 7 2000000 "timeouts", .go 0, .pass 5, .ask 7, .go 0,
      .disable 7 9000000 "refusals", .go 1]
    (Busy.run 1000 turns).calls = [.remove 1005 7] ∧
      (Busy.run 1000 turns).registry.find? 7 = some ⟨1014, "refusals"⟩ ∧
      ((Busy.run 1000 turns).after (.go 0)).registry.find? 7 = some ⟨1014, "refusals"⟩ :=
  ⟨rfl, rfl, ((latest_order_counts 1000).2.2.2 _ 0 _ 1005 rfl rfl).1 7 ⟨1014, "refusals"⟩ rfl
    (by decide)⟩

end Turnstile.Registry
