import Turnstile.Proofs.Rows
import Turnstile.Proofs.Subscription.Schedule
import Turnstile.Proofs.Subscription.StoredForm

/-!
# A pass over a group

A pass prunes the documents of a group one user after the other.  What becomes of a row depends on
its own text alone (`Fate`): a text that cannot be read is counted and stays, one in the older form
or with something to prune is written anew, any other stays.  What was written anew is in the
present form, and nothing in it is stale at the same time, so another pass then writes nothing; a
text of the older form that was one level too deep for the present one is counted as failed then.

* `RowStore` — stores whose users are rows of a table; the store in memory and the tables are both;
* `rewritten?_again` — what is written anew is not written anew again;
* `resetEach_rows` — a pass over some rows;
* `resetAll_group` — over those of a group, and again.
-/

set_option autoImplicit false

namespace Turnstile

/-- A row with the group of a user and the text of the document. -/
class TextRow (ρ : Type) where
  group : ρ → String
  text : ρ → String
  setText : String → ρ → ρ
  group_setText (t : String) (row : ρ) : group (setText t row) = group row
  text_setText (t : String) (row : ρ) : text (setText t row) = t

/-- A store that keeps its users in the rows of a table, apart from everything else. -/
class RowStore (σ : Type) (ρ : outParam Type) [UserStore σ] [TextRow ρ] where
  users : σ → Rows ρ
  setUsers : Rows ρ → σ → σ
  users_setUsers (rows : Rows ρ) (s : σ) : users (setUsers rows s) = rows
  setUsers_users (s : σ) : setUsers (users s) s = s
  setUsers_setUsers (rows rows' : Rows ρ) (s : σ) :
    setUsers rows (setUsers rows' s) = setUsers rows s
  members_eq (g : String) (s : σ) :
    UserStore.members g s = (.ok ((users s).numbers fun row => TextRow.group row == g), s)
  update_eq {α : Type} (user : Int) (f : String → Except LedgerError (Option String × α)) (s : σ) :
    UserStore.update user f s = match (users s).find? user with
      | none => (.error (.store (.userNotFound user)), s)
      | some row => match f (TextRow.text row) with
        | .error e => (.error e, s)
        | .ok (none, x) => (.ok x, s)
        | .ok (some t, x) => (.ok x, setUsers ((users s).modify user (TextRow.setText t)) s)

instance : TextRow Account where
  group := Account.group
  text := Account.document
  setText t a := { a with document := t }
  group_setText _ _ := rfl
  text_setText _ _ := rfl

instance : RowStore MemoryStore Account where
  users := MemoryStore.users
  setUsers rows s := { s with users := rows }
  users_setUsers _ _ := rfl
  setUsers_users _ := rfl
  setUsers_setUsers _ _ _ := rfl
  members_eq _ _ := rfl
  update_eq user f s := by
    simp only [UserStore.update, MemoryStore.update]
    cases s.users.find? user with
    | none => rfl
    | some a =>
      cases hf : f a.document with
      | error e => simp [TextRow.text, hf]
      | ok change => obtain ⟨_ | t, x⟩ := change <;> simp [TextRow.text, TextRow.setText, hf]

instance : TextRow UserRow where
  group := UserRow.group
  text row := row.document.getD ""
  setText t row := { row with document := some t }
  group_setText _ _ := rfl
  text_setText _ _ := rfl

instance : RowStore TableStore UserRow where
  users := TableStore.users
  setUsers rows s := { s with users := rows }
  users_setUsers _ _ := rfl
  setUsers_users _ := rfl
  setUsers_setUsers _ _ _ := rfl
  members_eq _ _ := rfl
  update_eq user f s := by
    simp only [UserStore.update, TableStore.update, TableStore.document]
    cases s.users.find? user with
    | none => rfl
    | some row =>
      cases hf : f (row.document.getD "") with
      | error e => simp [TextRow.text, hf]
      | ok change => obtain ⟨_ | t, x⟩ := change <;> simp [TextRow.text, TextRow.setText, hf]

namespace Subscription

/-! ## One text -/

/-- What a pass writes in the place of a text, if anything. -/
def rewritten? (now : Int) (raw : String) : Option String :=
  match Document.read raw with
  | .error _ => none
  | .ok (d, older) => if older || d.needsPruning now then some (d.pruned now).write else none

variable {now : Int} {raw written : String}

theorem resetIn_eq (now : Int) (raw : String) :
    resetIn now raw = match Document.read raw with
      | .error e => .error (.decode e)
      | .ok _ => .ok (rewritten? now raw, (rewritten? now raw).isSome) := by
  unfold resetIn rewritten?
  cases Document.read raw with
  | error e => rfl
  | ok r =>
    obtain ⟨d, older⟩ := r
    cases hchange : older || d.needsPruning now <;> simp [hchange]

theorem rewritten?_unreadable {e : Json.DecodeError} (h : Document.read raw = .error e) :
    rewritten? now raw = none := by
  unfold rewritten?
  rw [h]

/-- Nothing is left to prune. -/
theorem Document.needsPruning_pruned (d : Document) (hlow : 0 ≤ now) (hlast : now ≤ lastReading) :
    (d.pruned now).needsPruning now = false := by
  unfold needsPruning
  refine List.any_eq_false.mpr fun e he => ?_
  obtain ⟨e', -, hdeployed, rfl⟩ := mem_pruned.mp he
  have hstale : (e'.rollOver now).stale now = false := by
    obtain ⟨hshort, hlong⟩ := e'.stale_rollOver hlow hlast
    unfold Entitlement.stale
    rw [hshort, hlong]
    rfl
  have hkept : (e'.rollOver now).deployed = true := hdeployed
  simp [hstale, hkept]

theorem Document.needsPruning_echo (d : Document) (now : Int) :
    d.echo.needsPruning now = d.needsPruning now := by
  unfold needsPruning echo
  rw [List.any_map]
  rfl

theorem inRange_reading (hlow : 0 ≤ now) (hlast : now ≤ lastReading) : Word.InRange now := by
  unfold lastReading millisecondsAbove sevenDays at hlast
  unfold Word.InRange Word.least Word.greatest
  omega

/-- What is written anew is not written anew again. -/
theorem rewritten?_again (hlow : 0 ≤ now) (hlast : now ≤ lastReading)
    (h : rewritten? now raw = some written) : rewritten? now written = none := by
  unfold rewritten? at h
  cases hread : Document.read raw with
  | error e =>
    rw [hread] at h
    cases h
  | ok r =>
    obtain ⟨d, older⟩ := r
    rw [hread] at h
    dsimp only at h
    split at h
    · cases h
      have hwithin := (Document.canonicalWithin_of_read hread).pruned (inRange_reading hlow hlast)
      unfold rewritten?
      cases hagain : Document.read (d.pruned now).write with
      -- An older text nests less than the same document in the present form, and may be too deep.
      | error e => rfl
      | ok r' =>
        have hdepth := (Document.read_write_iff hwithin).mp ⟨r', hagain⟩
        have hecho := Document.read_write (hwithin.canonical hdepth)
        rw [hagain] at hecho
        cases hecho
        dsimp only
        rw [Document.needsPruning_echo, d.needsPruning_pruned hlow hlast]
        rfl
    · cases h

/-! ## One row -/

/-- How a pass takes a row. -/
inductive Fate where
  /-- The user is not in the group. -/
  | outside
  | failed
  | kept
  | updated
  deriving DecidableEq

section Rows

variable {σ ρ : Type} [UserStore σ] [TextRow ρ] [RowStore σ ρ] {group : String} {row : ρ}
  {user : Int} {s : σ}

open TextRow RowStore

/-- How a pass over a group takes a row. -/
def fate (group : String) (now : Int) (row : ρ) : Fate :=
  if TextRow.group row = group then match Document.read (text row) with
    | .error _ => .failed
    | .ok (d, older) => if older || d.needsPruning now then .updated else .kept
  else .outside

/-- The row after a pass over a group. -/
def passed (group : String) (now : Int) (row : ρ) : ρ :=
  if TextRow.group row = group then match rewritten? now (text row) with
    | none => row
    | some t => setText t row
  else row

/-- What a pass over a group may make of a row. A text that changes is in the older form, or holds
something to prune; it gives way to the pruned document, which is read back from what is written if
that can be stored. -/
inductive Passed (group : String) (now : Int) : Fate → ρ → ρ → Prop
  | outside {row : ρ} (hgroup : TextRow.group row ≠ group) : Passed group now .outside row row
  | failed {row : ρ} {e : Json.DecodeError} (hgroup : TextRow.group row = group)
    (hread : Document.read (text row) = .error e) : Passed group now .failed row row
  | kept {row : ρ} {d : Document} (hgroup : TextRow.group row = group)
    (hread : Document.read (text row) = .ok (d, false)) (hsame : d.pruned now = d) :
    Passed group now .kept row row
  | updated {row : ρ} {d : Document} {older : Bool} (hgroup : TextRow.group row = group)
    (hread : Document.read (text row) = .ok (d, older)) (hchange : older = true ∨ d.pruned now ≠ d)
    (hagain : (d.pruned now).Storable →
      Document.read (d.pruned now).write = .ok (d.pruned now, false)) :
    Passed group now .updated row (setText (d.pruned now).write row)

theorem passed_spec (hnow : Word.InRange now) (group : String) (row : ρ) :
    Passed group now (fate group now row) row (passed group now row) := by
  unfold fate passed rewritten?
  by_cases hgroup : TextRow.group row = group
  · rw [if_pos hgroup, if_pos hgroup]
    cases hread : Document.read (text row) with
    | error e => exact .failed hgroup hread
    | ok r =>
      obtain ⟨d, older⟩ := r
      dsimp only
      by_cases hchange : (older || d.needsPruning now) = true
      · rw [if_pos hchange, if_pos hchange]
        refine .updated hgroup hread ?_ fun hstorable => ?_
        · rw [Ne, Document.pruned_eq_iff hnow]
          simpa using hchange
        · have hwithin := (Document.canonicalWithin_of_read hread).pruned hnow
          exact Document.read_write_faithful (hwithin.faithful hstorable)
      · rw [if_neg hchange, if_neg hchange]
        simp only [Bool.or_eq_true, not_or, Bool.not_eq_true] at hchange
        obtain ⟨rfl, hfresh⟩ := hchange
        exact .kept hgroup hread ((Document.pruned_eq_iff hnow).mpr hfresh)
  · rw [if_neg hgroup, if_neg hgroup]
    exact .outside hgroup

/-- A row of the group is taken by what is written in the place of its text. -/
theorem fate_member (hgroup : TextRow.group row = group) :
    fate group now row = match Document.read (text row) with
      | .error _ => .failed
      | .ok _ => if (rewritten? now (text row)).isSome then .updated else .kept := by
  unfold fate rewritten?
  rw [if_pos hgroup]
  cases Document.read (text row) with
  | error e => rfl
  | ok r => cases hchange : r.2 || r.1.needsPruning now <;> simp [hchange]

theorem fate_eq_updated_iff :
    fate group now row = .updated ↔
      TextRow.group row = group ∧ rewritten? now (text row) ≠ none := by
  by_cases hgroup : TextRow.group row = group
  · rw [fate_member hgroup]
    cases hread : Document.read (text row) with
    | error e => simp [rewritten?_unreadable hread]
    | ok r => cases h : rewritten? now (text row) <;> simp [hgroup]
  · simp [fate, hgroup]

theorem fate_eq_outside_iff : fate group now row = .outside ↔ TextRow.group row ≠ group := by
  by_cases hgroup : TextRow.group row = group
  · rw [fate_member hgroup]
    cases Document.read (text row) with
    | error e => simp [hgroup]
    | ok r => cases rewritten? now (text row) <;> simp [hgroup]
  · simp [fate, hgroup]

/-- A pass leaves a row in its group. -/
theorem group_passed (group : String) (now : Int) (row : ρ) :
    TextRow.group (passed group now row) = TextRow.group row := by
  unfold passed
  split
  · split
    · rfl
    · exact group_setText _ row
  · rfl

/-- Another pass finds nothing to write. -/
theorem rewritten?_passed (hlow : 0 ≤ now) (hlast : now ≤ lastReading)
    (hgroup : TextRow.group row = group) :
    rewritten? now (text (passed group now row)) = none := by
  unfold passed
  rw [if_pos hgroup]
  cases h : rewritten? now (text row) with
  | none => exact h
  | some t =>
    dsimp only
    rw [text_setText]
    exact rewritten?_again hlow hlast h

theorem passed_passed (hlow : 0 ≤ now) (hlast : now ≤ lastReading) (group : String) (row : ρ) :
    passed group now (passed group now row) = passed group now row ∧
      fate group now (passed group now row) ≠ .updated := by
  have hstays := group_passed group now row
  rw [Ne, fate_eq_updated_iff, hstays]
  by_cases hgroup : TextRow.group row = group
  · have hnone := rewritten?_passed hlow hlast hgroup
    rw [hnone]
    refine ⟨?_, fun h => h.2 rfl⟩
    generalize passed group now row = row' at hnone
    unfold passed
    rw [hnone, ite_self]
  · refine ⟨?_, fun h => hgroup h.1⟩
    generalize passed group now row = row' at hstays
    unfold passed
    rw [if_neg (hstays ▸ hgroup)]

/-! ## One user after the other -/

/-- The counts after one more row. -/
def ResetSummary.counting (sum : ResetSummary) : Fate → ResetSummary
  | .outside => sum
  | .failed => { sum with visited := sum.visited + 1, failed := sum.failed + 1 }
  | .kept => { sum with visited := sum.visited + 1 }
  | .updated => { sum with visited := sum.visited + 1, updated := sum.updated + 1 }

/-- Where a pass changes a row in its place, -/
theorem modify_passed {t : String} (hfind : (users s).find? user = some row)
    (hgroup : TextRow.group row = group) (h : rewritten? now (text row) = some t) :
    (users s).modify user (passed group now) = (users s).modify user (setText t) := by
  refine Rows.modify_congr hfind ?_
  unfold passed
  rw [if_pos hgroup, h]

/-- and where it does not. -/
theorem modify_passed_kept (hfind : (users s).find? user = some row)
    (h : rewritten? now (text row) = none) :
    setUsers ((users s).modify user (passed group now)) s = s := by
  have hkept : (users s).modify user (passed group now) = (users s).modify user fun row => row := by
    refine Rows.modify_congr hfind ?_
    unfold passed
    rw [h, ite_self]
  rw [hkept, Rows.modify_id, setUsers_users]

/-- What is answered for one user of a group. -/
theorem resetUser_fate (now : Int) (hfind : (users s).find? user = some row)
    (hgroup : TextRow.group row = group) :
    ∃ answer, resetUser user now s =
        (answer, setUsers ((users s).modify user (passed group now)) s) ∧
      ((fate group now row = .failed ∧ ∃ e, answer = .error e) ∨
        (fate group now row = .kept ∧ answer = .ok false) ∨
        (fate group now row = .updated ∧ answer = .ok true)) := by
  have hreset := update_eq user (resetIn now) s
  rw [hfind] at hreset
  dsimp only at hreset
  rw [resetIn_eq] at hreset
  unfold resetUser
  have hfate : fate group now row = _ := fate_member hgroup
  cases hread : Document.read (text row) with
  | error e =>
    rw [hread] at hreset hfate
    rw [modify_passed_kept hfind (rewritten?_unreadable hread)]
    exact ⟨_, hreset, .inl ⟨hfate, _, rfl⟩⟩
  | ok r =>
    rw [hread] at hreset hfate
    cases h : rewritten? now (text row) with
    | none =>
      rw [h] at hreset hfate
      rw [modify_passed_kept hfind h]
      exact ⟨_, hreset, .inr (.inl ⟨hfate, rfl⟩)⟩
    | some t =>
      rw [h] at hreset hfate
      rw [modify_passed hfind hgroup h]
      exact ⟨_, hreset, .inr (.inr ⟨hfate, rfl⟩)⟩

theorem resetEach_cons (hfind : (users s).find? user = some row)
    (hgroup : TextRow.group row = group) (rest : List Int) (sum : ResetSummary) :
    resetEach now (user :: rest) sum s =
      resetEach now rest (sum.counting (fate group now row))
        (setUsers ((users s).modify user (passed group now)) s) := by
  obtain ⟨answer, hreset, hcases⟩ := resetUser_fate now hfind hgroup
  rw [resetEach, hreset]
  rcases hcases with ⟨hfate, e, rfl⟩ | ⟨hfate, rfl⟩ | ⟨hfate, rfl⟩
  · rw [hfate]
    rfl
  · rw [hfate]
    rfl
  · rw [hfate]
    rfl

/-- The counts after more rows. -/
def ResetSummary.countingAll (group : String) (now : Int) (rows : Rows ρ) (sum : ResetSummary) :
    ResetSummary :=
  rows.foldl (fun sum r => sum.counting (fate group now r.2)) sum

theorem countingAll_eq (group : String) (now : Int) (rows : Rows ρ) (sum : ResetSummary) :
    sum.countingAll group now rows =
      { visited := sum.visited + rows.countP fun r => fate group now r.2 ≠ .outside
        updated := sum.updated + rows.countP fun r => fate group now r.2 = .updated
        failed := sum.failed + rows.countP fun r => fate group now r.2 = .failed } := by
  unfold ResetSummary.countingAll
  induction rows generalizing sum with
  | nil => rfl
  | cons r rows ih =>
    rw [List.foldl_cons, ih, List.countP_cons, List.countP_cons, List.countP_cons]
    cases hfate : fate group now r.2 <;> simp [ResetSummary.counting] <;> omega

/-- A pass over some rows of a group. -/
theorem resetEach_rows (now : Int) {rows : Rows ρ} (hrows : rows.Ascending)
    (husers : (users s).Ascending)
    (hfound : ∀ r ∈ rows, (users s).find? r.1 = some r.2)
    (hgroup : ∀ r ∈ rows, TextRow.group r.2 = group) (sum : ResetSummary) :
    resetEach now (rows.map Prod.fst) sum s =
      (sum.countingAll group now rows,
        setUsers ((users s).map fun r =>
          if r.1 ∈ rows.map Prod.fst then (r.1, passed group now r.2) else r) s) := by
  induction rows generalizing s sum with
  | nil =>
    simp [resetEach, ResetSummary.countingAll, setUsers_users]
  | cons q rows ih =>
    obtain ⟨hfirst, hrest⟩ := List.pairwise_cons.mp hrows
    have hmodify := husers.modify_eq_map q.1 (passed group now)
    have husers' : Rows.Ascending ((users s).modify q.1 (passed group now)) := by
      rw [hmodify]
      refine husers.map fun r => ?_
      split <;> rfl
    -- The numbers ascend, so the users to come are found as before the first one was changed.
    have hfound' : ∀ r ∈ rows,
        Rows.find? r.1 ((users s).modify q.1 (passed group now)) = some r.2 := by
      intro r hr
      rw [Rows.find?_modify, if_neg (Int.ne_of_gt (hfirst r hr))]
      exact hfound r (List.mem_cons_of_mem q hr)
    rw [List.map_cons, resetEach_cons (hfound q List.mem_cons_self) (hgroup q List.mem_cons_self),
      ih hrest (by rwa [users_setUsers]) (by rwa [users_setUsers])
        (fun r hr => hgroup r (List.mem_cons_of_mem q hr)),
      users_setUsers, setUsers_setUsers, hmodify, List.map_map]
    refine congrArg (fun rows' => (_, setUsers rows' s)) (List.map_congr_left fun r _ => ?_)
    have hbehind : q.1 ∉ rows.map Prod.fst := by
      intro hmem
      obtain ⟨r', hr', heq⟩ := List.mem_map.mp hmem
      exact absurd (heq ▸ hfirst r' hr') (Int.lt_irrefl _)
    by_cases hq : r.1 = q.1
    · simp [hq, hbehind]
    · simp only [Function.comp, List.mem_cons, hq, false_or, if_false]

/-! ## A whole group -/

/-- The rows after a pass over a group. -/
def passedRows (group : String) (now : Int) (rows : Rows ρ) : Rows ρ :=
  rows.map fun r => (r.1, passed group now r.2)

theorem ascending_passedRows {rows : Rows ρ} (h : rows.Ascending) :
    (passedRows group now rows).Ascending :=
  h.map fun _ => rfl

/-- Another pass leaves the rows as they are, -/
theorem passedRows_passedRows (hlow : 0 ≤ now) (hlast : now ≤ lastReading) (group : String)
    (rows : Rows ρ) : passedRows group now (passedRows group now rows) =
      passedRows group now rows := by
  unfold passedRows
  rw [List.map_map]
  refine List.map_congr_left fun r _ => ?_
  exact congrArg (Prod.mk r.1) (passed_passed hlow hlast group r.2).1

/-- updates none, -/
theorem countP_updated_passedRows (hlow : 0 ≤ now) (hlast : now ≤ lastReading) (group : String)
    (rows : Rows ρ) :
    (passedRows group now rows).countP (fun r => fate group now r.2 = .updated) = 0 := by
  unfold passedRows
  rw [List.countP_map, List.countP_eq_zero]
  intro r _
  simpa using (passed_passed hlow hlast group r.2).2

/-- and visits as many. -/
theorem countP_group_passedRows (group : String) (now : Int) (rows : Rows ρ) :
    (passedRows group now rows).countP (fun r => TextRow.group r.2 = group) =
      rows.countP fun r => TextRow.group r.2 = group := by
  unfold passedRows
  rw [List.countP_map]
  refine List.countP_congr fun r _ => ?_
  simp [group_passed]

/-- Rows outside the group count for nothing. -/
theorem countingAll_filter (group : String) (now : Int) (rows : Rows ρ) (sum : ResetSummary) :
    sum.countingAll group now (rows.filter fun r => TextRow.group r.2 == group) =
      sum.countingAll group now rows := by
  unfold ResetSummary.countingAll
  rw [List.foldl_filter]
  congr 1
  funext sum r
  by_cases hgroup : TextRow.group r.2 = group
  · simp [hgroup]
  · simp [hgroup, fate, ResetSummary.counting]

/-- A pass over a group takes every row by its own text. -/
theorem resetAll_eq (husers : (users s).Ascending) (group : String) (now : Int) :
    resetAll group now s =
      (.ok { visited := (users s).countP fun r => TextRow.group r.2 = group
             updated := (users s).countP fun r => fate group now r.2 = .updated
             failed := (users s).countP fun r => fate group now r.2 = .failed },
        setUsers (passedRows group now (users s)) s) := by
  have hfilter := husers.filter fun r => TextRow.group r.2 == group
  have hpass := resetEach_rows now hfilter husers
    (fun r hr => husers.find?_of_mem (List.mem_of_mem_filter hr))
    (fun r hr => eq_of_beq (List.mem_filter.mp hr).2) ⟨0, 0, 0⟩
  unfold resetAll
  rw [members_eq]
  dsimp only
  unfold Rows.numbers
  have hvisited : ∀ r : Int × ρ,
      decide (fate group now r.2 ≠ .outside) = decide (TextRow.group r.2 = group) := by
    intro r
    refine decide_eq_decide.mpr ?_
    rw [ne_eq, fate_eq_outside_iff, not_ne_iff]
  rw [hpass, countingAll_filter, countingAll_eq, funext hvisited]
  simp only [Nat.zero_add]
  refine congrArg (fun rows => (_, setUsers rows s)) (List.map_congr_left fun r hr => ?_)
  by_cases hgroup : TextRow.group r.2 = group
  · have hmem : r.1 ∈ ((users s).filter fun r => TextRow.group r.2 == group).map Prod.fst :=
      List.mem_map_of_mem (List.mem_filter.mpr ⟨hr, by simp [hgroup]⟩)
    rw [if_pos hmem]
  · have hself : (r.1, passed group now r.2) = r := by
      unfold passed
      rw [if_neg hgroup]
    rw [hself, ite_self]

/-- A pass over a group, and another one at the same time.  The first one visits the users of the
group and takes every row by its own text (`Passed`), whatever stands in the others: the rows of
other users, and those whose text cannot be read, stay as they are.  It counts the rows by how it
takes them, and touches nothing but rows.  The second one updates none, and leaves the store as it
is. -/
theorem resetAll_group (husers : (users s).Ascending) (hlow : 0 ≤ now) (hlast : now ≤ lastReading)
    (group : String) :
    ∃ s', resetAll group now s =
        (.ok { visited := (users s).countP fun r => TextRow.group r.2 = group
               updated := (users s).countP fun r => fate group now r.2 = .updated
               failed := (users s).countP fun r => fate group now r.2 = .failed }, s') ∧
      s' = setUsers (users s') s ∧
      List.Forall₂ (fun r r' => r'.1 = r.1 ∧ Passed group now (fate group now r.2) r.2 r'.2)
        (users s) (users s') ∧
      ∃ failed, resetAll group now s' =
        (.ok { visited := (users s).countP fun r => TextRow.group r.2 = group
               updated := 0
               failed := failed }, s') := by
  have hagain := resetAll_eq (s := setUsers (passedRows group now (users s)) s)
    (by rw [users_setUsers]; exact ascending_passedRows husers) group now
  rw [users_setUsers, countP_group_passedRows, countP_updated_passedRows hlow hlast,
    passedRows_passedRows hlow hlast, setUsers_setUsers] at hagain
  refine ⟨_, resetAll_eq husers group now, ?_, ?_, _, hagain⟩
  · rw [users_setUsers]
  · rw [users_setUsers, passedRows, List.forall₂_map_right_iff, List.forall₂_same]
    exact fun r _ => ⟨rfl, passed_spec (inRange_reading hlow hlast) group r.2⟩

end Rows

/-- Outside the group and in it a text that cannot be read; then no text, one in the older form, one
with an entitlement that is over, and one with an entitlement whose windows are. -/
def mixedStore : MemoryStore where
  users := [(3, ⟨"default", 5, "]"⟩), (7, ⟨"subscription", 5, "]"⟩), (8, ⟨"subscription", 5, ""⟩),
    (9, ⟨"subscription", 5, "[]"⟩),
    (10, ⟨"subscription", 5, "\x7b\"items\":[\x7b\"status\":\"expired\"\x7d]\x7d"⟩),
    (11, ⟨"subscription", 5, "\x7b\"items\":[\x7b\"5h_limit\":\x7b\"reset_at\":1\x7d," ++
      "\"duration\":\x7b\"end_at\":5000\x7d,\"status\":\"deployed\"\x7d]\x7d"⟩)]

theorem resetAll_group_mixed :
    mixedStore.users.Ascending ∧ (0 : Int) ≤ 1000 ∧ 1000 ≤ lastReading ∧
      ∃ s', resetAll "subscription" 1000 mixedStore = (.ok ⟨5, 3, 1⟩, s') ∧
        ∃ failed, resetAll "subscription" 1000 s' = (.ok ⟨5, 0, failed⟩, s') := by
  have husers : (RowStore.users mixedStore).Ascending := by
    show mixedStore.users.Pairwise _
    decide
  have hlow : (0 : Int) ≤ 1000 := by decide
  have hlast : 1000 ≤ lastReading := by decide
  have hvisited : ((RowStore.users mixedStore).countP
      fun r => TextRow.group r.2 = "subscription") = 5 := by decide +kernel
  have hupdated : ((RowStore.users mixedStore).countP
      fun r => fate "subscription" 1000 r.2 = .updated) = 3 := by decide +kernel
  have hfailed : ((RowStore.users mixedStore).countP
      fun r => fate "subscription" 1000 r.2 = .failed) = 1 := by decide +kernel
  obtain ⟨s', hpass, -, -, failed, hagain⟩ := resetAll_group husers hlow hlast "subscription"
  rw [hvisited, hupdated, hfailed] at hpass
  rw [hvisited] at hagain
  exact ⟨husers, hlow, hlast, s', hpass, failed, hagain⟩

end Subscription

end Turnstile
