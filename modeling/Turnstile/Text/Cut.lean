import Turnstile.Text.Blank

/-!
# Cutting text to size

A text is cut to a number of characters, or to a number of bytes of its UTF-8 form. A cut is made
at an offset in bytes, and only a boundary between characters can be cut at: from the limit the
offset is moved down to the nearest one. `cutBytes` and `snip` look for it in loops that end
differently. That each of them comes to a boundary is proved beside its definition, so a cut never
fails.
-/

namespace Turnstile.Text

/-- The text before an offset in bytes; `none` within a character and beyond the end. -/
def front? : List Char → Nat → Option (List Char)
  | _, 0 => some []
  | [], _ + 1 => none
  | c :: r, n + 1 =>
    if c.utf8Size ≤ n + 1 then (front? r (n + 1 - c.utf8Size)).map (c :: ·) else none

/-- The offset lies between two characters, or at an end of the text. -/
def isBoundary (cs : List Char) (n : Nat) : Bool := (front? cs n).isSome

@[simp] theorem isBoundary_zero (cs : List Char) : isBoundary cs 0 = true := by
  cases cs <;> rfl

/-! ## Cutting to bytes -/

/-- Down from an offset to the nearest boundary, and no further than the start of the text. -/
def floorBoundary (cs : List Char) : Nat → Nat
  | 0 => 0
  | n + 1 => if isBoundary cs (n + 1) then n + 1 else floorBoundary cs n

/-- Down from an offset to the nearest boundary; `none` if there were none. -/
def seekBoundary? (cs : List Char) : Nat → Option Nat
  | 0 => if isBoundary cs 0 then some 0 else none
  | n + 1 => if isBoundary cs (n + 1) then some (n + 1) else seekBoundary? cs n

theorem isBoundary_floorBoundary (cs : List Char) (n : Nat) :
    isBoundary cs (floorBoundary cs n) = true := by
  induction n with
  | zero => simp [floorBoundary]
  | succ n ih =>
    unfold floorBoundary
    split
    · assumption
    · exact ih

/-- The start of a text is a boundary, so both ways down come to the same one. -/
theorem seekBoundary?_eq (cs : List Char) (n : Nat) :
    seekBoundary? cs n = some (floorBoundary cs n) := by
  induction n with
  | zero => simp [seekBoundary?, floorBoundary]
  | succ n ih =>
    unfold seekBoundary? floorBoundary
    split
    · rfl
    · exact ih

/-- A string cut to `limit` bytes; `none` if the cut failed. -/
def cutBytes? (limit : Nat) (s : String) : Option String :=
  if s.utf8ByteSize ≤ limit then some s
  else (front? s.toList (floorBoundary s.toList limit)).map String.ofList

/-- A string cut to `limit` bytes, the boundary sought beyond the start too; `none` if the cut
failed. -/
def snip? (limit : Nat) (s : String) : Option String :=
  if s.utf8ByteSize ≤ limit then some s
  else match seekBoundary? s.toList limit with
    | some n => (front? s.toList n).map String.ofList
    | none => none

theorem isSome_cutBytes? (limit : Nat) (s : String) : (cutBytes? limit s).isSome = true := by
  have hboundary := isBoundary_floorBoundary s.toList limit
  unfold cutBytes?
  split
  · rfl
  · simpa [isBoundary] using hboundary

theorem snip?_eq (limit : Nat) (s : String) : snip? limit s = cutBytes? limit s := by
  simp [snip?, cutBytes?, seekBoundary?_eq]

theorem isSome_snip? (limit : Nat) (s : String) : (snip? limit s).isSome = true := by
  rw [snip?_eq]
  exact isSome_cutBytes? limit s

/-- A string cut to `limit` bytes. -/
def cutBytes (limit : Nat) (s : String) : String :=
  (cutBytes? limit s).get (isSome_cutBytes? limit s)

/-- A string cut to `limit` bytes, as a piece of a longer one that is quoted. -/
def snip (limit : Nat) (s : String) : String := (snip? limit s).get (isSome_snip? limit s)

/-! ## Cutting to characters -/

/-- The offset at which the character of a number begins, if there are so many. -/
def offset? : List Char → Nat → Option Nat
  | [], _ => none
  | _ :: _, 0 => some 0
  | c :: r, k + 1 => (offset? r k).map (c.utf8Size + ·)

/-- Before the character of a number stand as many as the number says. -/
theorem front?_offset? {cs : List Char} {k n : Nat} (h : offset? cs k = some n) :
    front? cs n = some (cs.take k) := by
  induction cs generalizing k n with
  | nil => cases h
  | cons c r ih =>
    cases k with
    | zero =>
      cases h
      rfl
    | succ k =>
      obtain ⟨m, hm, rfl⟩ := Option.map_eq_some_iff.mp h
      have hpos := c.utf8Size_pos
      have hsize : c.utf8Size + m = (c.utf8Size + m - 1) + 1 := by omega
      have hrest : c.utf8Size + m - 1 + 1 - c.utf8Size = m := by omega
      rw [hsize, front?, if_pos (by omega), hrest, ih hm]
      rfl

/-- A string cut to `limit` characters; `none` if the cut failed. -/
def cutChars? (limit : Nat) (s : String) : Option String :=
  match offset? s.toList limit with
  | some n => (front? s.toList n).map String.ofList
  | none => some s

theorem isSome_cutChars? (limit : Nat) (s : String) : (cutChars? limit s).isSome = true := by
  unfold cutChars?
  split
  · rename_i h
    rw [front?_offset? h]
    rfl
  · rfl

/-- A string cut to `limit` characters. -/
def cutChars (limit : Nat) (s : String) : String :=
  (cutChars? limit s).get (isSome_cutChars? limit s)

/-- A text made ready to be judged: without the white space around it, unless nothing would be
left, and cut to `limit` characters. -/
def prepare (limit : Nat) (s : String) : String :=
  if blank s then cutChars limit s else cutChars limit (trim s)

end Turnstile.Text
