import Turnstile.Proofs.Json.Values

/-!
# How deep values nest

The depth of a value is the number of arrays and objects around its innermost leaf.  It alone
decides whether a value can be made of its own tree: the budget has to be no less.  Writing a value
and reading it does not change its depth.

* `isSome_toJson?_toTree` — a value is made of its tree exactly if the budget covers its depth;
* `canonical_of_depth` — a canonical value is canonical for every budget that does;
* `depth_echo` — what is read of a written value nests as deep.
-/

set_option autoImplicit false

namespace Turnstile.Json

mutual

/-- The number of arrays and objects around the innermost leaf. -/
def depth : Json → Nat
  | .array xs => depthItems xs + 1
  | .object ms => depthMembers ms + 1
  | _ => 0

/-- The depth of the deepest item. -/
def depthItems : List Json → Nat
  | [] => 0
  | v :: r => max v.depth (depthItems r)

/-- The depth of the deepest member. -/
def depthMembers : Members → Nat
  | [] => 0
  | (_, v) :: r => max v.depth (depthMembers r)

end

theorem depthItems_le {xs : List Json} {n : Nat} :
    depthItems xs ≤ n ↔ ∀ v ∈ xs, v.depth ≤ n := by
  induction xs with
  | nil => simp [depthItems]
  | cons v r ih => simp [depthItems, ih]

theorem depthMembers_le {ms : Members} {n : Nat} :
    depthMembers ms ≤ n ↔ ∀ m ∈ ms, m.2.depth ≤ n := by
  induction ms with
  | nil => simp [depthMembers]
  | cons m r ih => simp [depthMembers, ih]

/-! ## Depth and budget -/

mutual

/-- A value is made of its own tree exactly if the budget covers its depth. -/
theorem isSome_toJson?_toTree : ∀ (v : Json) (budget : Nat),
    (v.toTree.toJson? budget).isSome ↔ v.depth ≤ budget
  | .null, _ => by simp [toTree, Tree.toJson?, depth]
  | .bool _, _ => by simp [toTree, Tree.toJson?, depth]
  | .int _, _ => by simp [toTree, Tree.toJson?, depth]
  | .float _, _ => by simp [toTree, Tree.toJson?, depth]
  | .text _, _ => by simp [toTree, Tree.toJson?, depth]
  | .array xs, budget => by
    have hitems := isSome_itemsToJson?_toTree xs (budget - 1)
    rw [toTree, Tree.toJson?, depth]
    by_cases hzero : budget = 0
    · simp [hzero]
    · rw [if_neg hzero, Option.isSome_map, hitems]
      omega
  | .object ms, budget => by
    have hmembers := isSome_membersToJson?_toTree ms (budget - 1) []
    rw [toTree, Tree.toJson?, depth]
    by_cases hzero : budget = 0
    · simp [hzero]
    · rw [if_neg hzero, Option.isSome_map, hmembers]
      omega

theorem isSome_itemsToJson?_toTree : ∀ (xs : List Json) (budget : Nat),
    (itemsToJson? budget (itemsToTree xs)).isSome ↔ depthItems xs ≤ budget
  | [], _ => by simp [itemsToTree, itemsToJson?, depthItems]
  | v :: r, budget => by
    have hvalue := isSome_toJson?_toTree v budget
    have hrest := isSome_itemsToJson?_toTree r budget
    rw [itemsToTree, itemsToJson?, depthItems, Nat.max_le, ← hvalue, ← hrest]
    cases v.toTree.toJson? budget <;> simp

theorem isSome_membersToJson?_toTree : ∀ (ms : Members) (budget : Nat) (acc : Members),
    (membersToJson? budget acc (membersToTree ms)).isSome ↔ depthMembers ms ≤ budget
  | [], _, _ => by simp [membersToTree, membersToJson?, depthMembers]
  | (k, v) :: r, budget, acc => by
    have hvalue := isSome_toJson?_toTree v budget
    rw [membersToTree, membersToJson?, depthMembers, Nat.max_le, ← hvalue]
    cases v.toTree.toJson? budget with
    | none => simp
    | some w => simp [isSome_membersToJson?_toTree r budget (insert k w acc)]

end

/-- A canonical value nests no deeper than its budget. -/
theorem depth_le_of_canonical {v : Json} {budget : Nat} (h : v.Canonical budget) :
    v.depth ≤ budget := by
  rw [← isSome_toJson?_toTree, toJson?_toTree v budget h]
  rfl

mutual

/-- A value that is canonical for some budget is so for every budget that covers its depth. -/
theorem canonical_of_depth : ∀ (v : Json) (budget levels : Nat), v.Canonical budget →
    v.depth ≤ levels → v.Canonical levels
  | .null, _, _, _, _ => trivial
  | .bool _, _, _, _, _ => trivial
  | .int _, _, _, h, _ => h
  | .float _, _, _, _, _ => trivial
  | .text _, _, _, _, _ => trivial
  | .array xs, budget, levels, h, hdepth => by
    rw [depth] at hdepth
    refine ⟨by omega, canonicalItems_of_depth xs (budget - 1) (levels - 1) h.2 (by omega)⟩
  | .object ms, budget, levels, h, hdepth => by
    rw [depth] at hdepth
    exact ⟨by omega, h.2.1,
      canonicalMembers_of_depth ms (budget - 1) (levels - 1) h.2.2 (by omega)⟩

theorem canonicalItems_of_depth : ∀ (xs : List Json) (budget levels : Nat),
    CanonicalItems budget xs → depthItems xs ≤ levels → CanonicalItems levels xs
  | [], _, _, _, _ => trivial
  | v :: r, budget, levels, h, hdepth => by
    rw [depthItems, Nat.max_le] at hdepth
    exact ⟨canonical_of_depth v budget levels h.1 hdepth.1,
      canonicalItems_of_depth r budget levels h.2 hdepth.2⟩

theorem canonicalMembers_of_depth : ∀ (ms : Members) (budget levels : Nat),
    CanonicalMembers budget ms → depthMembers ms ≤ levels → CanonicalMembers levels ms
  | [], _, _, _, _ => trivial
  | (_, v) :: r, budget, levels, h, hdepth => by
    rw [depthMembers, Nat.max_le] at hdepth
    exact ⟨canonical_of_depth v budget levels h.1 hdepth.1,
      canonicalMembers_of_depth r budget levels h.2 hdepth.2⟩

end

mutual

/-- A plain value nests no deeper than its levels. -/
theorem depth_le_of_plain : ∀ (v : Json) (levels : Nat), v.Plain levels → v.depth ≤ levels
  | .null, _, _ => Nat.zero_le _
  | .bool _, _, _ => Nat.zero_le _
  | .int _, _, _ => Nat.zero_le _
  | .float _, _, h => h.elim
  | .text _, _, _ => Nat.zero_le _
  | .array xs, levels, h => by
    have hitems := depthItems_le_of_plain xs (levels - 1) h.2
    have hpos := h.1
    rw [depth]
    omega
  | .object ms, levels, h => by
    have hmembers := depthMembers_le_of_plain ms (levels - 1) h.2
    have hpos := h.1
    rw [depth]
    omega

theorem depthItems_le_of_plain : ∀ (xs : List Json) (levels : Nat), PlainItems levels xs →
    depthItems xs ≤ levels
  | [], _, _ => Nat.zero_le _
  | v :: r, levels, h => by
    rw [depthItems, Nat.max_le]
    exact ⟨depth_le_of_plain v levels h.1, depthItems_le_of_plain r levels h.2⟩

theorem depthMembers_le_of_plain : ∀ (ms : Members) (levels : Nat), PlainMembers levels ms →
    depthMembers ms ≤ levels
  | [], _, _ => Nat.zero_le _
  | (_, v) :: r, levels, h => by
    rw [depthMembers, Nat.max_le]
    exact ⟨depth_le_of_plain v levels h.1, depthMembers_le_of_plain r levels h.2⟩

end

mutual

/-- Written and read, a value nests as deep as before. -/
theorem depth_echo : ∀ v : Json, v.echo.depth = v.depth
  | .null => rfl
  | .bool _ => rfl
  | .int _ => rfl
  | .float x => by
    rw [echo]
    rcases reread_cases x with h | ⟨y, h⟩ <;> simp [h, depth]
  | .text _ => rfl
  | .array xs => by rw [echo, depth, depth, depthItems_echo xs]
  | .object ms => by rw [echo, depth, depth, depthMembers_echo ms]

theorem depthItems_echo : ∀ xs : List Json, depthItems (echoItems xs) = depthItems xs
  | [] => rfl
  | v :: r => by rw [echoItems, depthItems, depthItems, depth_echo v, depthItems_echo r]

theorem depthMembers_echo : ∀ ms : Members, depthMembers (echoMembers ms) = depthMembers ms
  | [] => rfl
  | (_, v) :: r => by
    rw [echoMembers, depthMembers, depthMembers, depth_echo v, depthMembers_echo r]

end

end Turnstile.Json
