import Mathlib.Data.List.Induction
import Mathlib.Data.List.Nodup
import Turnstile.Moderation.Groups

/-!
# The groups that a text lists

A text is taken in piece by piece.  What has been listed after some pieces is each of them that is
a name, once, in the order in which they first appeared (`FirstSeen`); one more piece keeps that.
As a text that replaces another one is taken in from the start, nothing of the other one is left.

* `Groups.firstSeen_foldl` — any pieces, one after the other;
* `Groups.listed_replaced` — any text that replaced others.
-/

set_option autoImplicit false

namespace Turnstile.Moderation

/-- What is in `pieces`, each once, in the order in which it first appears there. -/
structure FirstSeen (pieces listed : List String) : Prop where
  mem_iff : ∀ group, group ∈ listed ↔ group ∈ pieces
  once : listed.Nodup
  order : listed.Pairwise fun a b => pieces.idxOf a < pieces.idxOf b

variable {pieces listed : List String} {piece : String}

theorem FirstSeen.again (h : FirstSeen pieces listed) (hpiece : piece ∈ pieces) :
    FirstSeen (pieces ++ [piece]) listed := by
  refine ⟨fun group => ?_, h.once, h.order.imp_of_mem fun {a b} ha hb hlt => ?_⟩
  · rw [h.mem_iff, List.mem_append, List.mem_singleton]
    constructor
    · exact .inl
    · rintro (hmem | rfl)
      · exact hmem
      · exact hpiece
  · rw [List.idxOf_append_of_mem ((h.mem_iff a).mp ha),
      List.idxOf_append_of_mem ((h.mem_iff b).mp hb)]
    exact hlt

theorem FirstSeen.new (h : FirstSeen pieces listed) (hpiece : piece ∉ pieces) :
    FirstSeen (pieces ++ [piece]) (listed ++ [piece]) := by
  have hlisted : piece ∉ listed := fun hmem => hpiece ((h.mem_iff piece).mp hmem)
  refine ⟨fun group => ?_, ?_, List.pairwise_append.mpr ⟨?_, List.pairwise_singleton _ _, ?_⟩⟩
  · simp [h.mem_iff]
  · rw [List.nodup_append]
    refine ⟨h.once, List.nodup_singleton piece, fun a ha b hb => ?_⟩
    rw [List.mem_singleton.mp hb]
    rintro rfl
    exact hlisted ha
  · refine h.order.imp_of_mem fun {a b} ha hb hlt => ?_
    rw [List.idxOf_append_of_mem ((h.mem_iff a).mp ha),
      List.idxOf_append_of_mem ((h.mem_iff b).mp hb)]
    exact hlt
  · intro a ha b hb
    have hmem := (h.mem_iff a).mp ha
    rw [List.mem_singleton.mp hb, List.idxOf_append_of_mem hmem,
      List.idxOf_append_of_notMem hpiece]
    have hlt := List.idxOf_lt_length_of_mem hmem
    omega

namespace Groups

theorem listed_add (gs : Groups) (piece : String) :
    (gs.add piece).listed =
      if piece = "" ∨ piece ∈ gs.listed then gs.listed else gs.listed ++ [piece] := by
  simp only [← gs.inStep]
  unfold add
  split <;> rfl

/-- Each piece keeps what has been listed in step with the pieces. -/
theorem firstSeen_foldl (pieces : List String) :
    FirstSeen (pieces.filter (· ≠ "")) (pieces.foldl add {}).listed := by
  induction pieces using List.reverseRecOn with
  | nil => exact ⟨fun _ => Iff.rfl, List.nodup_nil, List.Pairwise.nil⟩
  | append_singleton pieces piece ih =>
    rw [List.filter_append, List.foldl_append, List.foldl_cons, List.foldl_nil, listed_add]
    by_cases hname : piece = ""
    · simpa [hname] using ih
    · have hpieces : [piece].filter (· ≠ "") = [piece] := by simp [hname]
      rw [hpieces]
      by_cases hmem : piece ∈ pieces.filter (· ≠ "")
      · rw [if_pos (.inr ((ih.mem_iff piece).mpr hmem))]
        exact ih.again hmem
      · rw [if_neg (not_or.mpr ⟨hname, fun h => hmem ((ih.mem_iff piece).mp h)⟩)]
        exact ih.new hmem

/-- The names in a text: what stands between its commas, without the white space around it, where
anything is left. -/
def namesIn (text : String) : List String :=
  ((Text.split ',' text).map Text.trim).filter (· ≠ "")

theorem firstSeen_parse (text : String) : FirstSeen (namesIn text) (parse text).listed :=
  firstSeen_foldl _

/-- Of texts that replace each other only the last one is left. -/
theorem foldl_replace (first : String) (later : List String) :
    later.foldl replace (parse first) = parse (later.getLastD first) := by
  induction later using List.reverseRecOn with
  | nil => rfl
  | append_singleton later text _ => simp [replace]

/-- However often the text was replaced, what is listed are the names in the last one, each once,
in the order in which they first appear; and the traffic of just those groups is moderated. -/
theorem listed_replaced (first : String) (later : List String) :
    FirstSeen (namesIn (later.getLastD first)) (later.foldl replace (parse first)).listed ∧
      ∀ group, (later.foldl replace (parse first)).contains group = true ↔
        Text.trim group ∈ (later.foldl replace (parse first)).listed := by
  rw [foldl_replace]
  exact ⟨firstSeen_parse _, fun group => contains_iff⟩

end Groups

end Turnstile.Moderation
