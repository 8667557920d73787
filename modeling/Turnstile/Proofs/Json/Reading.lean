import Turnstile.Proofs.Json.Doubles
import Turnstile.Proofs.Json.Strings

/-!
# A written value is read back

The text of a value, with anything behind it that cannot go on a number, is read as the tree of
the value.  A double is read as the double that its text denotes, which need not be the same one;
`echo` is what becomes of a value in this way.

* `readValue_chars` — the reader on the text of a value;
* `read_chars` — on the whole text.
-/

set_option autoImplicit false

namespace Turnstile.Json

open Numeral (Stops stops_cons stops_nil)

/-- What is read of the text of a double. -/
def reread (x : Float) : Json :=
  match Numeral.scan? (Decimal.Shortest.text x) with
  | some (n, _) => n.value?.getD .null
  | none => .null

mutual

/-- What is read of the text of a value. -/
def echo : Json → Json
  | .null => .null
  | .bool b => .bool b
  | .int n => .int n
  | .float x => reread x
  | .text s => .text s
  | .array xs => .array (echoItems xs)
  | .object ms => .object (echoMembers ms)

/-- What is read of the texts of items. -/
def echoItems : List Json → List Json
  | [] => []
  | v :: r => v.echo :: echoItems r

/-- What is read of the texts of members. -/
def echoMembers : Members → Members
  | [] => []
  | (k, v) :: r => (k, v.echo) :: echoMembers r

end

mutual

/-- All integers of the value are 64-bit words. -/
def Words : Json → Prop
  | .int n => IsWord n
  | .array xs => WordsItems xs
  | .object ms => WordsMembers ms
  | _ => True

/-- All integers of the items are 64-bit words. -/
def WordsItems : List Json → Prop
  | [] => True
  | v :: r => v.Words ∧ WordsItems r

/-- All integers of the members are 64-bit words. -/
def WordsMembers : Members → Prop
  | [] => True
  | (_, v) :: r => v.Words ∧ WordsMembers r

end

/-! ## Leaves -/

/-- A number starts with none of the characters by which other values are told. -/
theorem readLeaf_number {c : Char} {r : List Char} (hc : c = '-' ∨ c.isDigit = true) :
    readLeaf (c :: r) = match Numeral.scan? (c :: r) with
      | none => (.broken, none)
      | some (n, r) => match n.value? with
        | some (.int i) => (.int i, some r)
        | some (.float x) => (.float x, some r)
        | _ => (.unreadable, some r) := by
  have hne : ∀ d : Char, d.isDigit = false → d ≠ '-' → c ≠ d := by
    intro d hd hminus
    rcases hc with rfl | hc
    · exact Ne.symm hminus
    · exact Decimal.ne_of_isDigit hc hd
  have hn : c ≠ 'n' := hne 'n' rfl (by decide)
  have ht : c ≠ 't' := hne 't' rfl (by decide)
  have hf : c ≠ 'f' := hne 'f' rfl (by decide)
  have hq : c ≠ '"' := hne '"' rfl (by decide)
  unfold readLeaf
  split
  · rename_i heq
    cases heq
    exact absurd rfl hn
  · rename_i heq
    cases heq
    exact absurd rfl ht
  · rename_i heq
    cases heq
    exact absurd rfl hf
  · rename_i heq
    cases heq
    exact absurd rfl hq
  · rfl

/-- The first character of a number. -/
theorem written_head {n : Numeral} (h : n.WellFormed) :
    ∃ c r, n.written = c :: r ∧ (c = '-' ∨ c.isDigit = true) := by
  unfold Numeral.written
  cases n.negative with
  | true => exact ⟨'-', _, rfl, .inl rfl⟩
  | false =>
    obtain ⟨c, r, hr⟩ := List.exists_cons_of_ne_nil h.whole.1
    rw [hr]
    exact ⟨c, _, rfl, .inr (h.whole.2 c (by rw [hr]; exact List.mem_cons_self))⟩

theorem readLeaf_int {n : Int} (h : IsWord n) {rest : List Char} (hrest : Stops rest) :
    readLeaf (Decimal.intText n ++ rest) = (.int n, some rest) := by
  have hscan := Numeral.scan?_intText n hrest
  obtain ⟨c, r, hr, hc⟩ := written_head (Numeral.wellFormed_ofInt n)
  rw [Numeral.written_ofInt] at hr
  rw [hr, List.cons_append] at hscan ⊢
  rw [readLeaf_number hc, hscan]
  dsimp only
  rw [Numeral.value?_ofInt h]

theorem readLeaf_float (x : Float) {rest : List Char} (hrest : Stops rest) :
    readLeaf (Decimal.Shortest.text x ++ rest) = ((reread x).toTree, some rest) := by
  unfold reread
  rcases text_cases x with htext | ⟨n, hn, htext, y, hy⟩
  · rw [htext]
    rfl
  · have hscan := Numeral.scan?_written hn hrest
    have hself := Numeral.scan?_written hn stops_nil
    rw [List.append_nil] at hself
    rw [htext, hself]
    obtain ⟨c, r, hr, hc⟩ := written_head hn
    rw [hr, List.cons_append] at hscan ⊢
    rw [readLeaf_number hc, hscan]
    dsimp only
    rw [hy]
    rfl

theorem readLeaf_text (s : String) (rest : List Char) :
    readLeaf (quoted s ++ rest) = (.text s, some rest) := by
  obtain ⟨ps, hscan, hps⟩ := scanString?_quoted s rest
  have hquoted : quoted s ++ rest = '"' :: (s.toList.flatMap escape ++ '"' :: rest) := by
    simp [quoted]
  rw [hquoted]
  simp only [readLeaf, hscan, hps]

/-! ## Values -/

/-- What follows a value in a text that was written: nothing, or a comma or a closing bracket. -/
theorem stops_charsItems (r : List Json) (rest : List Char) : Stops (charsItems r ++ rest) := by
  cases r with
  | nil => exact stops_cons (by decide)
  | cons v r => exact stops_cons (by decide)

theorem stops_charsMembers (r : Members) (rest : List Char) : Stops (charsMembers r ++ rest) := by
  cases r with
  | nil => exact stops_cons (by decide)
  | cons m r => exact stops_cons (by decide)

/-- The text of a value starts neither with a gap nor with a closing bracket. -/
theorem chars_head (v : Json) :
    ∃ c r, v.chars = c :: r ∧ isGap c = false ∧ c ≠ ']' := by
  have hnumber : ∀ c : Char, c = '-' ∨ c.isDigit = true → isGap c = false ∧ c ≠ ']' := by
    intro c hc
    rcases hc with rfl | hc
    · decide
    · refine ⟨?_, Decimal.ne_of_isDigit hc rfl⟩
      unfold isGap
      simp [Decimal.ne_of_isDigit (d := ' ') hc rfl, Decimal.ne_of_isDigit (d := '\n') hc rfl,
        Decimal.ne_of_isDigit (d := '\t') hc rfl, Decimal.ne_of_isDigit (d := '\r') hc rfl]
  unfold chars
  split
  · exact ⟨_, _, rfl, by decide⟩
  · exact ⟨_, _, rfl, by decide⟩
  · exact ⟨_, _, rfl, by decide⟩
  · rename_i n
    obtain ⟨c, r, hr, hc⟩ := written_head (Numeral.wellFormed_ofInt n)
    rw [Numeral.written_ofInt] at hr
    exact ⟨c, r, hr, hnumber c hc⟩
  · rename_i x
    rcases text_cases x with htext | ⟨n, hn, htext, -⟩
    · exact ⟨_, _, htext, by decide⟩
    · obtain ⟨c, r, hr, hc⟩ := written_head hn
      exact ⟨c, r, htext.trans hr, hnumber c hc⟩
  · exact ⟨_, _, rfl, by decide⟩
  · exact ⟨_, _, rfl, by decide⟩
  · exact ⟨_, _, rfl, by decide⟩
  · exact ⟨_, _, rfl, by decide⟩
  · exact ⟨_, _, rfl, by decide⟩

theorem skipGap_cons {c : Char} (hc : isGap c = false) (r : List Char) :
    skipGap (c :: r) = c :: r := by
  unfold skipGap
  rw [List.dropWhile_cons, hc]
  rfl

/-- No gap stands before a value. -/
theorem skipGap_chars (v : Json) (r : List Char) : skipGap (v.chars ++ r) = v.chars ++ r := by
  obtain ⟨c, cs, hv, hc, -⟩ := chars_head v
  rw [hv, List.cons_append, skipGap_cons hc]

/-- The text of a leaf starts with no opening bracket. -/
def IsLeaf (v : Json) : Prop := ∀ r, v.chars ≠ '[' :: r ∧ v.chars ≠ '\x7b' :: r

theorem isLeaf_written {v : Json} {n : Numeral} (h : n.WellFormed) (hv : v.chars = n.written) :
    v.IsLeaf := by
  obtain ⟨c, cs, hn, hc⟩ := written_head h
  intro r
  rw [hv, hn]
  rcases hc with rfl | hc
  · exact ⟨nofun, nofun⟩
  · refine ⟨fun heq => ?_, fun heq => ?_⟩
    · cases heq
      cases hc
    · cases heq
      cases hc

theorem isLeaf_null : Json.null.IsLeaf := fun _ => ⟨nofun, nofun⟩

theorem isLeaf_bool (b : Bool) : (Json.bool b).IsLeaf := by
  cases b <;> exact fun _ => ⟨nofun, nofun⟩

theorem isLeaf_text (s : String) : (Json.text s).IsLeaf := fun _ => ⟨nofun, nofun⟩

theorem isLeaf_int (n : Int) : (Json.int n).IsLeaf :=
  isLeaf_written (Numeral.wellFormed_ofInt n) (Numeral.written_ofInt n).symm

theorem isLeaf_float (x : Float) : (Json.float x).IsLeaf := by
  rcases text_cases x with htext | ⟨n, hn, htext, -⟩
  · intro r
    show Decimal.Shortest.text x ≠ _ ∧ Decimal.Shortest.text x ≠ _
    rw [htext]
    exact ⟨nofun, nofun⟩
  · exact isLeaf_written hn htext

/-- A leaf is told from an array and from an object by its first character. -/
theorem readValue_leaf {v : Json} (hleaf : v.IsLeaf)
    (fuel : Nat) (rest : List Char) :
    readValue (fuel + 1) (v.chars ++ rest) = readLeaf (v.chars ++ rest) := by
  rw [readValue, skipGap_chars]
  obtain ⟨c, cs, hv, -, -⟩ := chars_head v
  rw [hv, List.cons_append]
  split
  · rename_i heq
    cases heq
    exact absurd hv (hleaf cs).1
  · rename_i heq
    cases heq
    exact absurd hv (hleaf cs).2
  · rfl

/-- The items of an array as they stand in its text, with the closing bracket. -/
def listed : List Json → List Char
  | [] => [']']
  | v :: r => v.chars ++ charsItems r

/-- The members of an object as they stand in its text, with the closing brace. -/
def recorded : Members → List Char
  | [] => ['\x7d']
  | (k, v) :: r => quoted k ++ ':' :: (v.chars ++ charsMembers r)

theorem chars_array (xs : List Json) : (Json.array xs).chars = '[' :: listed xs := by
  cases xs <;> rfl

theorem chars_object (ms : Members) : (Json.object ms).chars = '\x7b' :: recorded ms := by
  cases ms <;> rfl

theorem skipGap_listed {v : Json} {xs : List Json} (r : List Char) :
    ∃ c cs, skipGap (listed (v :: xs) ++ r) = c :: cs ∧ listed (v :: xs) ++ r = c :: cs ∧
      c ≠ ']' := by
  obtain ⟨c, cs, hv, hc, hne⟩ := chars_head v
  refine ⟨c, cs ++ charsItems xs ++ r, ?_, ?_, hne⟩
  · rw [listed, List.append_assoc, skipGap_chars, hv]
    simp
  · rw [listed, hv]
    simp

theorem length_chars_pos (v : Json) : 0 < v.chars.length := by
  obtain ⟨c, cs, hv, -⟩ := chars_head v
  rw [hv]
  exact Nat.succ_pos _

/-- An array that is not empty is read by its items. -/
theorem readValue_array {v : Json} {xs : List Json} (fuel : Nat) (rest : List Char) :
    readValue (fuel + 1) ('[' :: (listed (v :: xs) ++ rest)) =
      match readItems fuel (listed (v :: xs) ++ rest) with
      | (ts, rest) => (.list ts, rest) := by
  obtain ⟨c, cs, hskip, hcons, hc⟩ := @skipGap_listed v xs rest
  simp only [readValue, skipGap_cons (show isGap '[' = false by decide), hskip]
  split
  · rename_i heq
    cases heq
    exact absurd rfl hc
  · rw [← hcons]

/-- An object that is not empty is read by its members. -/
theorem readValue_object {k : String} {v : Json} {ms : Members} (fuel : Nat) (rest : List Char) :
    readValue (fuel + 1) ('\x7b' :: (recorded ((k, v) :: ms) ++ rest)) =
      match readMembers fuel (recorded ((k, v) :: ms) ++ rest) with
      | (ts, rest) => (.record ts, rest) := by
  rw [readValue, skipGap_cons (by decide)]
  rfl

/-- The text of members up to the first value. -/
theorem recorded_append (k : String) (v : Json) (ms : Members) (rest : List Char) :
    recorded ((k, v) :: ms) ++ rest = '"' :: (k.toList.flatMap escape ++
      '"' :: ':' :: (v.chars ++ (charsMembers ms ++ rest))) := by
  simp [recorded, quoted]

mutual

/-- The text of a value is read as the tree of its echo, up to what follows it. -/
theorem readValue_chars : ∀ (v : Json) (fuel : Nat) (rest : List Char), v.Words → Stops rest →
    2 * v.chars.length ≤ fuel → readValue fuel (v.chars ++ rest) = (v.echo.toTree, some rest)
  | v, 0, rest, _, _, hfuel => by
    have := length_chars_pos v
    omega
  | .null, fuel + 1, rest, _, _, _ => by
    rw [readValue_leaf isLeaf_null]
    rfl
  | .bool b, fuel + 1, rest, _, _, _ => by
    rw [readValue_leaf (isLeaf_bool b)]
    cases b <;> rfl
  | .int n, fuel + 1, rest, hwords, hrest, _ => by
    rw [readValue_leaf (isLeaf_int n)]
    exact readLeaf_int hwords hrest
  | .float x, fuel + 1, rest, _, hrest, _ => by
    rw [readValue_leaf (isLeaf_float x)]
    exact readLeaf_float x hrest
  | .text s, fuel + 1, rest, _, _, _ => by
    rw [readValue_leaf (isLeaf_text s)]
    exact readLeaf_text s rest
  | .array [], fuel + 1, rest, _, _, _ => rfl
  | .array (v :: xs), fuel + 1, rest, hwords, _, hfuel => by
    rw [chars_array, List.length_cons] at hfuel
    have hitems := readItems_listed v xs fuel rest hwords.1 hwords.2 (by omega)
    rw [chars_array, List.cons_append, readValue_array, hitems]
    rfl
  | .object [], fuel + 1, rest, _, _, _ => rfl
  | .object ((k, v) :: ms), fuel + 1, rest, hwords, _, hfuel => by
    rw [chars_object, List.length_cons] at hfuel
    have hmembers := readMembers_recorded k v ms fuel rest hwords.1 hwords.2 (by omega)
    rw [chars_object, List.cons_append, readValue_object, hmembers]
    rfl

/-- The items of an array are read one after the other. -/
theorem readItems_listed : ∀ (v : Json) (xs : List Json) (fuel : Nat) (rest : List Char),
    v.Words → WordsItems xs → 2 * (listed (v :: xs)).length ≤ fuel →
    readItems fuel (listed (v :: xs) ++ rest) =
      (itemsToTree (echoItems (v :: xs)), some rest)
  | v, xs, 0, rest, _, _, hfuel => by
    have := length_chars_pos v
    rw [listed, List.length_append] at hfuel
    omega
  | v, [], fuel + 1, rest, hv, _, hfuel => by
    rw [listed, List.length_append] at hfuel
    have hvalue := readValue_chars v fuel (']' :: rest) hv (stops_cons (by decide))
      (by simp only [charsItems, List.length_cons] at hfuel; omega)
    have hchars : listed [v] ++ rest = v.chars ++ ']' :: rest := by
      rw [listed, List.append_assoc]
      rfl
    rw [hchars, readItems, hvalue]
    rfl
  | v, w :: xs, fuel + 1, rest, hv, hxs, hfuel => by
    have hlength : (charsItems (w :: xs)).length = (listed (w :: xs)).length + 1 := rfl
    rw [listed, List.length_append, hlength] at hfuel
    have hvalue := readValue_chars v fuel (charsItems (w :: xs) ++ rest) hv
      (stops_charsItems _ _) (by omega)
    have hitems := readItems_listed w xs fuel rest hxs.1 hxs.2 (by omega)
    have hskip : skipGap (charsItems (w :: xs) ++ rest) = ',' :: (listed (w :: xs) ++ rest) :=
      skipGap_cons (by decide) _
    simp only [listed, List.append_assoc, readItems, hvalue, hskip] at hitems ⊢
    rw [hitems]
    rfl

/-- The members of an object are read one after the other. -/
theorem readMembers_recorded : ∀ (k : String) (v : Json) (ms : Members) (fuel : Nat)
    (rest : List Char), v.Words → WordsMembers ms →
    2 * (recorded ((k, v) :: ms)).length ≤ fuel →
    readMembers fuel (recorded ((k, v) :: ms) ++ rest) =
      (membersToTree (echoMembers ((k, v) :: ms)), some rest)
  | k, v, ms, 0, rest, _, _, hfuel => by
    have := length_chars_pos v
    simp only [recorded, quoted, List.length_append, List.length_cons] at hfuel
    omega
  | k, v, [], fuel + 1, rest, hv, _, hfuel => by
    simp only [recorded, List.length_append, List.length_cons] at hfuel
    have hvalue := readValue_chars v fuel (charsMembers [] ++ rest) hv (stops_charsMembers _ _)
      (by omega)
    obtain ⟨ps, hscan, hps⟩ :=
      scanString?_quoted k (':' :: (v.chars ++ (charsMembers [] ++ rest)))
    have hopen : ∀ r, skipGap ('"' :: r) = '"' :: r := skipGap_cons (by decide)
    have hcolon : ∀ r, skipGap (':' :: r) = ':' :: r := skipGap_cons (by decide)
    have hskip : skipGap (charsMembers [] ++ rest) = '\x7d' :: rest := skipGap_cons (by decide) _
    rw [recorded_append]
    simp only [readMembers, hopen, hscan, hcolon, hvalue, hskip, hps]
    rfl
  | k, v, (k', w) :: ms, fuel + 1, rest, hv, hms, hfuel => by
    have hlength : (charsMembers ((k', w) :: ms)).length =
        (recorded ((k', w) :: ms)).length + 1 := rfl
    simp only [recorded, List.length_append, List.length_cons, hlength] at hfuel
    have hvalue := readValue_chars v fuel (charsMembers ((k', w) :: ms) ++ rest) hv
      (stops_charsMembers _ _) (by omega)
    have hmembers := readMembers_recorded k' w ms fuel rest hms.1 hms.2
      (by simp only [recorded, List.length_append, List.length_cons]; omega)
    obtain ⟨ps, hscan, hps⟩ :=
      scanString?_quoted k (':' :: (v.chars ++ (charsMembers ((k', w) :: ms) ++ rest)))
    have hopen : ∀ r, skipGap ('"' :: r) = '"' :: r := skipGap_cons (by decide)
    have hcolon : ∀ r, skipGap (':' :: r) = ':' :: r := skipGap_cons (by decide)
    have hskip : skipGap (charsMembers ((k', w) :: ms) ++ rest) =
        ',' :: (recorded ((k', w) :: ms) ++ rest) := skipGap_cons (by decide) _
    rw [recorded_append]
    simp only [readMembers, hopen, hscan, hcolon, hvalue, hskip, hps, hmembers]
    rfl

end

/-- A written text is read as a whole. -/
theorem read_chars {v : Json} (h : v.Words) : Tree.read v.chars = (v.echo.toTree, true) := by
  have hvalue := readValue_chars v (2 * v.chars.length + 2) [] h stops_nil (by omega)
  rw [List.append_nil] at hvalue
  unfold Tree.read
  rw [hvalue]
  rfl

end Turnstile.Json
