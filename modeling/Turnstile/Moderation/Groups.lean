import Std.Data.TreeSet.Lemmas
import Turnstile.Text.Blank

/-!
# Moderated groups

The groups whose traffic is moderated, listed in one text with commas between them. A request is
looked up in a set of them, and they are listed in the order in which they first appear, each once.
Set and list hold the same groups, and none without a name.
-/

namespace Turnstile.Moderation

theorem mem_empty_iff (group : String) : group ∈ (∅ : Std.TreeSet String) ↔ group ∈ [] :=
  iff_of_false Std.TreeSet.not_mem_emptyc List.not_mem_nil

/-- The groups whose traffic is moderated. -/
structure Groups where
  members : Std.TreeSet String := ∅
  listed : List String := []
  inStep : ∀ group, group ∈ members ↔ group ∈ listed := by
    exact Turnstile.Moderation.mem_empty_iff
  named : "" ∉ listed := by exact List.not_mem_nil

namespace Groups

/-- Takes a piece of the text in: not without a name, and not again. -/
def add (gs : Groups) (piece : String) : Groups :=
  if h : piece = "" ∨ piece ∈ gs.members then gs
  else
    { members := gs.members.insert piece
      listed := gs.listed ++ [piece]
      inStep := fun group => by
        rw [Std.TreeSet.mem_insert, Std.LawfulEqCmp.compare_eq_iff_eq, gs.inStep, List.mem_append,
          List.mem_singleton, or_comm, eq_comm]
      named := by
        rw [List.mem_append, List.mem_singleton, not_or]
        exact ⟨gs.named, fun heq => h (.inl heq.symm)⟩ }

/-- The groups listed in a text; blank pieces are left out. -/
def parse (text : String) : Groups := ((Text.split ',' text).map Text.trim).foldl add {}

/-- Another text in the place of the one before. -/
def replace (_ : Groups) (text : String) : Groups := parse text

/-- Traffic of the group is moderated. -/
def contains (gs : Groups) (group : String) : Bool :=
  let group := Text.trim group
  group ≠ "" && gs.members.contains group

/-- What is looked up in the set is what is listed. -/
theorem contains_iff {gs : Groups} {group : String} :
    gs.contains group = true ↔ Text.trim group ∈ gs.listed := by
  have hnamed : Text.trim group ∈ gs.listed → Text.trim group ≠ "" :=
    fun hmem hempty => gs.named (hempty ▸ hmem)
  simp only [contains, Bool.and_eq_true, decide_eq_true_eq, Std.TreeSet.contains_iff_mem,
    gs.inStep]
  exact ⟨And.right, fun hmem => ⟨hnamed hmem, hmem⟩⟩

end Groups

end Turnstile.Moderation
