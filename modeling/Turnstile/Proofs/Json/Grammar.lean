import Turnstile.Proofs.Json.Reading
import Turnstile.Proofs.Json.Tokens

/-!
# The reader and the grammar

A tree may be written in many ways: with gaps between the tokens, and with each token in any of its
forms.  `Spells t cs` says by the grammar of JSON that the text is one of them.  The reader takes
exactly the texts that spell a tree, and gives back that tree; so a text can be changed in places
and read again by what is known of those places alone.

* `readValue_spells`, `spells_of_readValue` — a value at the front of a text;
* `read_spells`, `read_iff` — a whole text;
* `Tree.same_iff` — trees can be compared, and so it can be found out what a text spells.
-/

set_option autoImplicit false

namespace Turnstile.Json

open Numeral (Stops stops_cons stops_nil)

/-! ## The grammar -/

/-- Nothing but gap characters. -/
def Gap (cs : List Char) : Prop := ∀ c ∈ cs, isGap c = true

/-- A text by `P`, with gaps around it. -/
def Padded (P : List Char → Prop) (cs : List Char) : Prop :=
  ∃ g p g', Gap g ∧ P p ∧ Gap g' ∧ cs = g ++ (p ++ g')

/-- The tree of a number. -/
def Numeral.tree (n : Numeral) : Tree :=
  match n.value? with
  | some (.int i) => .int i
  | some (.float x) => .float x
  | _ => .unreadable

/-- The tree of a string. -/
def stringTree (ps : List Piece) : Tree :=
  match assembled? ps with
  | some s => .text s
  | none => .unreadable

/-- A leaf as it may be written. -/
inductive SpellsLeaf : Tree → List Char → Prop where
  | null : SpellsLeaf .null ['n', 'u', 'l', 'l']
  | yes : SpellsLeaf (.bool true) ['t', 'r', 'u', 'e']
  | no : SpellsLeaf (.bool false) ['f', 'a', 'l', 's', 'e']
  | number {n : Numeral} {cs : List Char} : n.Spells cs → SpellsLeaf n.tree cs
  | text {ps : List Piece} {cs : List Char} : SpellsString ps cs → SpellsLeaf (stringTree ps) cs

/-- A key as it may be written. -/
def SpellsKey (k : Option String) (cs : List Char) : Prop :=
  ∃ ps, SpellsString ps cs ∧ assembled? ps = k

mutual

/-- A tree as it may be written. -/
def Spells : Tree → List Char → Prop
  | .list [] => fun cs => ∃ g, Gap g ∧ cs = '[' :: (g ++ [']'])
  | .list (t :: ts) => fun cs => ∃ p r, Padded (Spells t) p ∧ SpellsItems ts r ∧
      cs = '[' :: (p ++ r)
  | .record [] => fun cs => ∃ g, Gap g ∧ cs = '\x7b' :: (g ++ ['\x7d'])
  | .record ((k, t) :: ms) => fun cs => ∃ key p r, Padded (SpellsKey k) key ∧
      Padded (Spells t) p ∧ SpellsMembers ms r ∧ cs = '\x7b' :: (key ++ ':' :: (p ++ r))
  | .null => SpellsLeaf .null
  | .bool b => SpellsLeaf (.bool b)
  | .int n => SpellsLeaf (.int n)
  | .float x => SpellsLeaf (.float x)
  | .text s => SpellsLeaf (.text s)
  | .unreadable => SpellsLeaf .unreadable
  | .broken => fun _ => False

/-- What follows an item: the closing bracket, or a comma and further items. -/
def SpellsItems : List Tree → List Char → Prop
  | [] => fun cs => cs = [']']
  | t :: ts => fun cs => ∃ p r, Padded (Spells t) p ∧ SpellsItems ts r ∧ cs = ',' :: (p ++ r)

/-- What follows a member: the closing brace, or a comma and further members. -/
def SpellsMembers : List (Option String × Tree) → List Char → Prop
  | [] => fun cs => cs = ['\x7d']
  | (k, t) :: ms => fun cs => ∃ key p r, Padded (SpellsKey k) key ∧ Padded (Spells t) p ∧
      SpellsMembers ms r ∧ cs = ',' :: (key ++ ':' :: (p ++ r))

end

/-! ## Gaps -/

theorem skipGap_append {g : List Char} (hg : Gap g) (cs : List Char) :
    skipGap (g ++ cs) = skipGap cs :=
  List.dropWhile_append_of_pos hg

/-- A gap is skipped up to what is none. -/
theorem skipGap_padded {g : List Char} (hg : Gap g) {c : Char} (hc : isGap c = false)
    (r : List Char) : skipGap (g ++ c :: r) = c :: r := by
  rw [skipGap_append hg, skipGap_cons hc]

theorem skipGap_split (cs : List Char) : ∃ g, Gap g ∧ cs = g ++ skipGap cs :=
  ⟨cs.takeWhile isGap, fun _ hc => List.mem_takeWhile_imp hc,
    List.takeWhile_append_dropWhile.symm⟩

theorem gap_nil : Gap [] := List.forall_mem_nil _

/-- A number ends before a gap, a comma and a closing bracket. -/
theorem stops_padded {g : List Char} (hg : Gap g) {c : Char}
    (hc : c.isDigit = false ∧ c ≠ '.' ∧ c ≠ 'e' ∧ c ≠ 'E') (r : List Char) :
    Stops (g ++ c :: r) := by
  cases g with
  | nil => exact stops_cons hc
  | cons d g =>
    have hd := hg d List.mem_cons_self
    refine stops_cons ?_
    unfold isGap at hd
    simp only [Bool.or_eq_true, decide_eq_true_eq] at hd
    rcases hd with ((rfl | rfl) | rfl) | rfl <;> decide

theorem stops_gap {g : List Char} (hg : Gap g) : Stops g := by
  cases g with
  | nil => exact stops_nil
  | cons d g =>
    have hd := hg d List.mem_cons_self
    refine stops_cons ?_
    unfold isGap at hd
    simp only [Bool.or_eq_true, decide_eq_true_eq] at hd
    rcases hd with ((rfl | rfl) | rfl) | rfl <;> decide

/-! ## First characters -/

/-- How the text of a tree begins. -/
def Opens : Tree → Char → Prop
  | .list _, c => c = '['
  | .record _, c => c = '\x7b'
  | _, c => isGap c = false ∧ c ≠ '[' ∧ c ≠ '\x7b' ∧ c ≠ ']'

theorem opens_number {n : Numeral} {c : Char} (hc : c = '-' ∨ c.isDigit = true) :
    Opens n.tree c := by
  have hplain : isGap c = false ∧ c ≠ '[' ∧ c ≠ '\x7b' ∧ c ≠ ']' := by
    rcases hc with rfl | hc
    · decide
    · refine ⟨?_, Decimal.ne_of_isDigit hc rfl, Decimal.ne_of_isDigit hc rfl,
        Decimal.ne_of_isDigit hc rfl⟩
      unfold isGap
      simp [Decimal.ne_of_isDigit (d := ' ') hc rfl, Decimal.ne_of_isDigit (d := '\n') hc rfl,
        Decimal.ne_of_isDigit (d := '\t') hc rfl, Decimal.ne_of_isDigit (d := '\r') hc rfl]
  unfold Numeral.tree
  split <;> exact hplain

theorem SpellsLeaf.head {t : Tree} {cs : List Char} (h : SpellsLeaf t cs) :
    ∃ c r, cs = c :: r ∧ Opens t c := by
  cases h with
  | null => exact ⟨_, _, rfl, by simp [Opens, isGap]⟩
  | yes => exact ⟨_, _, rfl, by simp [Opens, isGap]⟩
  | no => exact ⟨_, _, rfl, by simp [Opens, isGap]⟩
  | number hn =>
    obtain ⟨c, r, rfl, hc⟩ := hn.head
    exact ⟨c, r, rfl, opens_number hc⟩
  | text hps =>
    obtain ⟨r, rfl, -⟩ := hps
    refine ⟨_, _, rfl, ?_⟩
    unfold stringTree
    split <;> simp [Opens, isGap]

/-- The text of a tree begins with a character that tells arrays and objects from leaves. -/
theorem Spells.head {t : Tree} {cs : List Char} (h : Spells t cs) :
    ∃ c r, cs = c :: r ∧ Opens t c := by
  unfold Spells at h
  split at h
  · obtain ⟨g, -, rfl⟩ := h
    exact ⟨_, _, rfl, rfl⟩
  · obtain ⟨p, r, -, -, rfl⟩ := h
    exact ⟨_, _, rfl, rfl⟩
  · obtain ⟨g, -, rfl⟩ := h
    exact ⟨_, _, rfl, rfl⟩
  · obtain ⟨key, p, r, -, -, -, rfl⟩ := h
    exact ⟨_, _, rfl, rfl⟩
  iterate 6 exact SpellsLeaf.head h
  exact h.elim

theorem Opens.not_gap {t : Tree} {c : Char} (h : Opens t c) : isGap c = false ∧ c ≠ ']' := by
  unfold Opens at h
  split at h
  · subst h
    decide
  · subst h
    decide
  · exact ⟨h.1, h.2.2.2⟩

/-! ## What is spelled is read -/

theorem readLeaf_spells {t : Tree} {cs rest : List Char} (h : SpellsLeaf t cs)
    (hrest : Stops rest) : readLeaf (cs ++ rest) = (t, some rest) := by
  cases h with
  | null => rfl
  | yes => rfl
  | no => rfl
  | @number n cs hn =>
    obtain ⟨c, r, rfl, hc⟩ := hn.head
    have hscan := Numeral.scan?_spells hn hrest
    rw [List.cons_append] at hscan ⊢
    rw [readLeaf_number hc, hscan]
    unfold Numeral.tree
    dsimp only
    cases n.value? with
    | none => rfl
    | some v => cases v <;> rfl
  | @text ps cs hps =>
    obtain ⟨r, rfl, hpieces⟩ := hps
    rw [List.cons_append]
    simp only [readLeaf, scanString?_spells rest hpieces]
    unfold stringTree
    cases assembled? ps with
    | none => rfl
    | some s => rfl

/-- A leaf is told from an array and from an object by its first character. -/
theorem readValue_spells_leaf {t : Tree} {cs g rest : List Char} (h : SpellsLeaf t cs)
    (hleaf : ∀ c, Opens t c → c ≠ '[' ∧ c ≠ '\x7b') (hg : Gap g) (hrest : Stops rest)
    (fuel : Nat) : readValue (fuel + 1) (g ++ (cs ++ rest)) = (t, some rest) := by
  obtain ⟨c, r, rfl, hc⟩ := h.head
  have hread := readLeaf_spells h hrest
  obtain ⟨hbracket, hbrace⟩ := hleaf c hc
  rw [List.cons_append] at hread ⊢
  rw [readValue, skipGap_padded hg hc.not_gap.1]
  split
  · rename_i heq
    cases heq
    exact absurd rfl hbracket
  · rename_i heq
    cases heq
    exact absurd rfl hbrace
  · exact hread

theorem opens_leaf {c : Char} (h : isGap c = false ∧ c ≠ '[' ∧ c ≠ '\x7b' ∧ c ≠ ']') :
    c ≠ '[' ∧ c ≠ '\x7b' := ⟨h.2.1, h.2.2.1⟩

theorem SpellsString.quote {ps : List Piece} {cs : List Char} (h : SpellsString ps cs) :
    ∃ r, cs = '"' :: r ∧ ∀ rest, scanString? (r ++ rest) = some (ps, rest) := by
  obtain ⟨r, rfl, hr⟩ := h
  exact ⟨r, rfl, fun rest => scanString?_spells rest hr⟩

/-- What follows a value in an array ends a number. -/
theorem stops_items {g r : List Char} {ts : List Tree} (hg : Gap g) (h : SpellsItems ts r)
    (rest : List Char) : Stops (g ++ (r ++ rest)) := by
  cases ts with
  | nil =>
    obtain rfl : r = [']'] := h
    exact stops_padded hg (by decide) _
  | cons t ts =>
    obtain ⟨p, r, -, -, rfl⟩ := h
    exact stops_padded hg (by decide) _

theorem stops_members {g r : List Char} {ms : List (Option String × Tree)} (hg : Gap g)
    (h : SpellsMembers ms r) (rest : List Char) : Stops (g ++ (r ++ rest)) := by
  cases ms with
  | nil =>
    obtain rfl : r = ['\x7d'] := h
    exact stops_padded hg (by decide) _
  | cons m ms =>
    obtain ⟨key, p, r, -, -, -, rfl⟩ := h
    exact stops_padded hg (by decide) _

theorem length_items_pos {ts : List Tree} {r : List Char} (h : SpellsItems ts r) :
    0 < r.length := by
  cases ts with
  | nil =>
    obtain rfl : r = [']'] := h
    exact Nat.one_pos
  | cons t ts =>
    obtain ⟨p, r, -, -, rfl⟩ := h
    exact Nat.succ_pos _

theorem length_members_pos {ms : List (Option String × Tree)} {r : List Char}
    (h : SpellsMembers ms r) : 0 < r.length := by
  cases ms with
  | nil =>
    obtain rfl : r = ['\x7d'] := h
    exact Nat.one_pos
  | cons m ms =>
    obtain ⟨key, p, r, -, -, -, rfl⟩ := h
    exact Nat.succ_pos _

mutual

/-- A text that spells a tree is read as it, whatever follows that cannot go on a number. -/
theorem readValue_spells : ∀ (t : Tree) (fuel : Nat) (g p rest : List Char), Spells t p → Gap g →
    Stops rest → 2 * p.length ≤ fuel → readValue fuel (g ++ (p ++ rest)) = (t, some rest)
  | t, 0, g, p, rest, h, _, _, hfuel => by
    obtain ⟨c, r, rfl, -⟩ := h.head
    simp at hfuel
  | .null, fuel + 1, g, p, rest, h, hg, hrest, _ =>
    readValue_spells_leaf h (fun _ => opens_leaf) hg hrest fuel
  | .bool _, fuel + 1, g, p, rest, h, hg, hrest, _ =>
    readValue_spells_leaf h (fun _ => opens_leaf) hg hrest fuel
  | .int _, fuel + 1, g, p, rest, h, hg, hrest, _ =>
    readValue_spells_leaf h (fun _ => opens_leaf) hg hrest fuel
  | .float _, fuel + 1, g, p, rest, h, hg, hrest, _ =>
    readValue_spells_leaf h (fun _ => opens_leaf) hg hrest fuel
  | .text _, fuel + 1, g, p, rest, h, hg, hrest, _ =>
    readValue_spells_leaf h (fun _ => opens_leaf) hg hrest fuel
  | .unreadable, fuel + 1, g, p, rest, h, hg, hrest, _ =>
    readValue_spells_leaf h (fun _ => opens_leaf) hg hrest fuel
  | .broken, _, _, _, _, h, _, _, _ => h.elim
  | .list [], fuel + 1, g, p, rest, h, hg, _, _ => by
    obtain ⟨g', hg', rfl⟩ := h
    have hclose : skipGap (g' ++ ']' :: rest) = ']' :: rest := skipGap_padded hg' (by decide) _
    simp [readValue, skipGap_padded hg, hclose, isGap]
  | .list (t :: ts), fuel + 1, g, p, rest, h, hg, _, hfuel => by
    obtain ⟨q, r, ⟨g₁, q, g₂, hg₁, hq, hg₂, rfl⟩, hr, rfl⟩ := h
    obtain ⟨c, q', rfl, hc⟩ := hq.head
    obtain ⟨hgap, hbracket⟩ := hc.not_gap
    simp only [List.length_cons, List.length_append] at hfuel
    have hitems := readItems_spells t ts fuel [] (c :: q') g₂ r rest gap_nil hq hg₂ hr
      (by simp only [List.length_cons]; omega)
    have hskip : skipGap (g₁ ++ (c :: q' ++ (g₂ ++ (r ++ rest)))) =
        c :: (q' ++ (g₂ ++ (r ++ rest))) := skipGap_padded hg₁ hgap _
    simp only [List.cons_append, List.append_assoc, List.nil_append] at hitems hskip ⊢
    rw [readValue, skipGap_padded hg (by decide)]
    simp only [hskip]
    split
    · rename_i heq
      cases heq
      exact absurd rfl hbracket
    · rw [hitems]
  | .record [], fuel + 1, g, p, rest, h, hg, _, _ => by
    obtain ⟨g', hg', rfl⟩ := h
    have hclose : skipGap (g' ++ '\x7d' :: rest) = '\x7d' :: rest :=
      skipGap_padded hg' (by decide) _
    simp [readValue, skipGap_padded hg, hclose, isGap]
  | .record ((k, t) :: ms), fuel + 1, g, p, rest, h, hg, _, hfuel => by
    obtain ⟨key, q, r, ⟨g₁, key, g₂, hg₁, hkey, hg₂, rfl⟩, ⟨g₃, q, g₄, hg₃, hq, hg₄, rfl⟩, hr,
      rfl⟩ := h
    simp only [List.length_cons, List.length_append] at hfuel
    have hmembers := readMembers_spells k t ms fuel [] key g₂ g₃ q g₄ r rest gap_nil hkey hg₂ hg₃
      hq hg₄ hr (by omega)
    obtain ⟨ps, hps, -⟩ := hkey
    obtain ⟨key', rfl, -⟩ := hps.quote
    simp only [List.cons_append, List.append_assoc, List.nil_append] at hmembers ⊢
    have hskip := skipGap_padded hg₁ (show isGap '"' = false by decide)
      (key' ++ (g₂ ++ ':' :: (g₃ ++ (q ++ (g₄ ++ (r ++ rest))))))
    rw [readValue, skipGap_padded hg (by decide)]
    simp only [hskip]
    split
    · rename_i heq
      cases heq
    · rw [hmembers]

/-- The items of an array, of which there is at least one. -/
theorem readItems_spells : ∀ (t : Tree) (ts : List Tree) (fuel : Nat) (g p g' r rest : List Char),
    Gap g → Spells t p → Gap g' → SpellsItems ts r → 2 * (p.length + r.length) ≤ fuel →
    readItems fuel (g ++ (p ++ (g' ++ (r ++ rest)))) = (t :: ts, some rest)
  | t, ts, 0, g, p, g', r, rest, _, _, _, hr, hfuel => by
    have := length_items_pos hr
    omega
  | t, ts, fuel + 1, g, p, g', r, rest, hg, hp, hg', hr, hfuel => by
    have hpos := length_items_pos hr
    have hvalue := readValue_spells t fuel g p (g' ++ (r ++ rest)) hp hg (stops_items hg' hr rest)
      (by omega)
    cases ts with
    | nil =>
      obtain rfl : r = [']'] := hr
      have hskip : skipGap (g' ++ ']' :: rest) = ']' :: rest := skipGap_padded hg' (by decide) _
      simp only [List.cons_append, List.nil_append] at hvalue ⊢
      simp only [readItems, hvalue, hskip]
    | cons u us =>
      obtain ⟨q, r', ⟨g₁, q, g₂, hg₁, hq, hg₂, rfl⟩, hr', rfl⟩ := hr
      simp only [List.length_cons, List.length_append] at hfuel
      have hitems := readItems_spells u us fuel g₁ q g₂ r' rest hg₁ hq hg₂ hr' (by omega)
      simp only [List.cons_append, List.append_assoc] at hvalue hitems ⊢
      have hskip : skipGap (g' ++ ',' :: (g₁ ++ (q ++ (g₂ ++ (r' ++ rest))))) =
          ',' :: (g₁ ++ (q ++ (g₂ ++ (r' ++ rest)))) := skipGap_padded hg' (by decide) _
      simp only [readItems, hvalue, hskip, hitems]

/-- The members of an object, of which there is at least one. -/
theorem readMembers_spells : ∀ (k : Option String) (t : Tree) (ms : List (Option String × Tree))
    (fuel : Nat) (g₁ key g₂ g₃ p g₄ r rest : List Char), Gap g₁ → SpellsKey k key → Gap g₂ →
    Gap g₃ → Spells t p → Gap g₄ → SpellsMembers ms r → 2 * (p.length + r.length) ≤ fuel →
    readMembers fuel (g₁ ++ (key ++ (g₂ ++ ':' :: (g₃ ++ (p ++ (g₄ ++ (r ++ rest))))))) =
      ((k, t) :: ms, some rest)
  | k, t, ms, 0, _, _, _, _, p, _, r, _, _, _, _, _, _, _, hr, hfuel => by
    have := length_members_pos hr
    omega
  | k, t, ms, fuel + 1, g₁, key, g₂, g₃, p, g₄, r, rest, hg₁, hkey, hg₂, hg₃, hp, hg₄, hr,
      hfuel => by
    have hpos := length_members_pos hr
    have hvalue := readValue_spells t fuel g₃ p (g₄ ++ (r ++ rest)) hp hg₃
      (stops_members hg₄ hr rest) (by omega)
    obtain ⟨ps, hps, hassembled⟩ := hkey
    obtain ⟨key, rfl, hscan⟩ := hps.quote
    have hcolon := skipGap_padded hg₂ (show isGap ':' = false by decide)
      (g₃ ++ (p ++ (g₄ ++ (r ++ rest))))
    cases ms with
    | nil =>
      obtain rfl : r = ['\x7d'] := hr
      have hclose := skipGap_padded hg₄ (show isGap '\x7d' = false by decide) rest
      simp only [List.cons_append, List.nil_append] at hvalue hcolon ⊢
      simp only [readMembers, skipGap_padded hg₁ (show isGap '"' = false by decide), hscan, hcolon,
        hvalue, hclose, hassembled]
    | cons m ms =>
      obtain ⟨k', u⟩ := m
      obtain ⟨key', q, r', ⟨g₅, key', g₆, hg₅, hkey', hg₆, rfl⟩,
        ⟨g₇, q, g₈, hg₇, hq, hg₈, rfl⟩, hr', rfl⟩ := hr
      simp only [List.length_cons, List.length_append] at hfuel
      have hmembers := readMembers_spells k' u ms fuel g₅ key' g₆ g₇ q g₈ r' rest hg₅ hkey' hg₆
        hg₇ hq hg₈ hr' (by omega)
      simp only [List.cons_append, List.append_assoc] at hvalue hcolon hmembers ⊢
      have hcomma := skipGap_padded hg₄ (show isGap ',' = false by decide)
        (g₅ ++ (key' ++ (g₆ ++ ':' :: (g₇ ++ (q ++ (g₈ ++ (r' ++ rest)))))))
      simp only [readMembers, skipGap_padded hg₁ (show isGap '"' = false by decide), hscan, hcolon,
        hvalue, hcomma, hassembled, hmembers]

end

/-! ## What is read is spelled -/

theorem spells_of_readLeaf {cs rest : List Char} {t : Tree} (h : readLeaf cs = (t, some rest)) :
    ∃ p, SpellsLeaf t p ∧ cs = p ++ rest := by
  unfold readLeaf at h
  split at h
  · cases h
    exact ⟨_, .null, rfl⟩
  · cases h
    exact ⟨_, .yes, rfl⟩
  · cases h
    exact ⟨_, .no, rfl⟩
  · split at h
    · cases h
    · rename_i ps r hscan
      obtain ⟨p, hp, rfl⟩ := spells_of_scanString? hscan
      have hspells : SpellsLeaf (stringTree ps) ('"' :: p) := .text ⟨p, rfl, hp⟩
      unfold stringTree at hspells
      split at h
      all_goals
        rename_i hassembled
        rw [hassembled] at hspells
        cases h
        exact ⟨_, hspells, rfl⟩
  · split at h
    · cases h
    · rename_i n r hscan
      obtain ⟨p, hp, rfl⟩ := Numeral.spells_of_scan? hscan
      have hspells : SpellsLeaf n.tree p := .number hp
      unfold Numeral.tree at hspells
      cases hvalue : n.value? with
      | none =>
        rw [hvalue] at h hspells
        cases h
        exact ⟨p, hspells, rfl⟩
      | some v =>
        rw [hvalue] at h hspells
        cases v
        all_goals
          cases h
          exact ⟨p, hspells, rfl⟩

/-- A leaf spells by its own clause. -/
theorem SpellsLeaf.spells {t : Tree} {cs : List Char} (h : SpellsLeaf t cs) : Spells t cs := by
  have hnumber : ∀ {n : Numeral}, SpellsLeaf n.tree cs → Spells n.tree cs := by
    intro n h
    unfold Numeral.tree at h ⊢
    split <;> rename_i hvalue <;> simp only [hvalue] at h <;> exact h
  cases h with
  | null => exact .null
  | yes => exact .yes
  | no => exact .no
  | number hn => exact hnumber (.number hn)
  | text hps =>
    have hleaf := SpellsLeaf.text hps
    unfold stringTree at hleaf ⊢
    split <;> rename_i hassembled <;> simp only [hassembled] at hleaf <;> exact hleaf

/-- A gap before a padded text belongs to the padding. -/
theorem Padded.front {P : List Char → Prop} {g cs : List Char} (hg : Gap g) (h : Padded P cs) :
    Padded P (g ++ cs) := by
  obtain ⟨g₁, p, g₂, hg₁, hp, hg₂, rfl⟩ := h
  exact ⟨g ++ g₁, p, g₂, List.forall_mem_append.mpr ⟨hg, hg₁⟩, hp, hg₂, by simp⟩

/-- A text and what stands behind the gap after it. -/
theorem Padded.of_skipGap {P : List Char → Prop} {g p r r' : List Char} (hg : Gap g) (hp : P p)
    (hskip : skipGap r = r') : ∃ q, Padded P q ∧ g ++ (p ++ r) = q ++ r' := by
  obtain ⟨g', hg', hr⟩ := skipGap_split r
  rw [hskip] at hr
  exact ⟨g ++ (p ++ g'), ⟨g, p, g', hg, hp, hg', rfl⟩, by rw [hr]; simp⟩

mutual

/-- What is read as a tree spells it, cut off from what follows. -/
theorem spells_of_readValue : ∀ (fuel : Nat) {cs rest : List Char} {t : Tree},
    readValue fuel cs = (t, some rest) → ∃ g p, Gap g ∧ Spells t p ∧ cs = g ++ (p ++ rest)
  | 0, _, _, _, h => nomatch h
  | fuel + 1, cs, rest, t, h => by
    obtain ⟨g, hg, hcs⟩ := skipGap_split cs
    rw [readValue] at h
    split at h
    · rename_i r hopen
      rw [hopen] at hcs
      obtain ⟨g', hg', hr⟩ := skipGap_split r
      split at h
      · rename_i r' hclose
        cases h
        rw [hclose] at hr
        exact ⟨g, '[' :: (g' ++ [']']), hg, ⟨g', hg', rfl⟩, by rw [hcs, hr]; simp⟩
      · split at h
        rename_i ts rest' hitems
        cases h
        obtain ⟨t, ts', p, r', rfl, hp, hr', hsplit⟩ := spells_of_readItems fuel hitems
        rw [hsplit] at hr
        exact ⟨g, '[' :: (g' ++ p ++ r'), hg, ⟨g' ++ p, r', hp.front hg', hr', rfl⟩,
          by rw [hcs, hr]; simp⟩
    · rename_i r hopen
      rw [hopen] at hcs
      obtain ⟨g', hg', hr⟩ := skipGap_split r
      split at h
      · rename_i r' hclose
        cases h
        rw [hclose] at hr
        exact ⟨g, '\x7b' :: (g' ++ ['\x7d']), hg, ⟨g', hg', rfl⟩, by rw [hcs, hr]; simp⟩
      · split at h
        rename_i ms rest' hmembers
        cases h
        obtain ⟨k, t, ms', key, p, r', rfl, hkey, hp, hr', hsplit⟩ :=
          spells_of_readMembers fuel hmembers
        rw [hsplit] at hr
        exact ⟨g, '\x7b' :: (g' ++ key ++ ':' :: (p ++ r')), hg,
          ⟨g' ++ key, p, r', hkey.front hg', hp, hr', rfl⟩, by rw [hcs, hr]; simp⟩
    · obtain ⟨p, hp, hsplit⟩ := spells_of_readLeaf h
      exact ⟨g, p, hg, hp.spells, by rw [← hsplit]; exact hcs⟩

theorem spells_of_readItems : ∀ (fuel : Nat) {cs rest : List Char} {ts : List Tree},
    readItems fuel cs = (ts, some rest) → ∃ t ts' p r, ts = t :: ts' ∧ Padded (Spells t) p ∧
      SpellsItems ts' r ∧ cs = p ++ (r ++ rest)
  | 0, _, _, _, h => nomatch h
  | fuel + 1, cs, rest, ts, h => by
    rw [readItems] at h
    split at h
    · cases h
    · rename_i t r hvalue
      obtain ⟨g, p, hg, hp, rfl⟩ := spells_of_readValue fuel hvalue
      split at h
      · rename_i r' hskip
        cases h
        obtain ⟨q, hq, hsplit⟩ := Padded.of_skipGap hg hp hskip
        exact ⟨t, [], q, [']'], rfl, hq, rfl, hsplit⟩
      · rename_i r' hskip
        split at h
        rename_i ts' rest' hitems
        cases h
        obtain ⟨q, hq, hsplit⟩ := Padded.of_skipGap hg hp hskip
        obtain ⟨u, us, p', r'', rfl, hp', hr'', rfl⟩ := spells_of_readItems fuel hitems
        exact ⟨t, u :: us, q, ',' :: (p' ++ r''), rfl, hq, ⟨p', r'', hp', hr'', rfl⟩,
          by rw [hsplit]; simp⟩
      · cases h

theorem spells_of_readMembers : ∀ (fuel : Nat) {cs rest : List Char}
    {ms : List (Option String × Tree)}, readMembers fuel cs = (ms, some rest) →
    ∃ k t ms' key p r, ms = (k, t) :: ms' ∧ Padded (SpellsKey k) key ∧ Padded (Spells t) p ∧
      SpellsMembers ms' r ∧ cs = key ++ ':' :: (p ++ (r ++ rest))
  | 0, _, _, _, h => nomatch h
  | fuel + 1, cs, rest, ms, h => by
    obtain ⟨g, hg, hcs⟩ := skipGap_split cs
    rw [readMembers] at h
    split at h
    · rename_i r hopen
      rw [hopen] at hcs
      split at h
      · cases h
      · rename_i ps r₁ hscan
        obtain ⟨key, hkey, rfl⟩ := spells_of_scanString? hscan
        have hspells : SpellsKey (assembled? ps) ('"' :: key) := ⟨ps, ⟨key, rfl, hkey⟩, rfl⟩
        split at h
        · rename_i r₂ hcolon
          obtain ⟨key', hkey', hsplit⟩ := Padded.of_skipGap hg hspells hcolon
          rw [List.cons_append, ← hcs] at hsplit
          split at h
          · cases h
          · rename_i t r₃ hvalue
            obtain ⟨g', p, hg', hp, rfl⟩ := spells_of_readValue fuel hvalue
            split at h
            · rename_i r₄ hclose
              cases h
              obtain ⟨q, hq, hrest⟩ := Padded.of_skipGap hg' hp hclose
              exact ⟨_, t, [], key', q, ['\x7d'], rfl, hkey', hq, rfl, by rw [hsplit, hrest]; rfl⟩
            · rename_i r₄ hcomma
              split at h
              rename_i ms' rest' hmembers
              cases h
              obtain ⟨q, hq, hrest⟩ := Padded.of_skipGap hg' hp hcomma
              obtain ⟨k, u, us, key'', p', r', rfl, hkey'', hp', hr', rfl⟩ :=
                spells_of_readMembers fuel hmembers
              exact ⟨_, t, (k, u) :: us, key', q, ',' :: (key'' ++ ':' :: (p' ++ r')), rfl, hkey',
                hq, ⟨key'', p', r', hkey'', hp', hr', rfl⟩, by rw [hsplit, hrest]; simp⟩
            · cases h
        · cases h
    · cases h

end

theorem not_intact_of_readLeaf {cs : List Char} {t : Tree} (h : readLeaf cs = (t, none)) :
    t.intact = false := by
  unfold readLeaf at h
  split at h
  · cases h
  · cases h
  · cases h
  · split at h
    · cases h
      rfl
    · split at h
      · cases h
      · cases h
  · split at h
    · cases h
      rfl
    · split at h
      · cases h
      · cases h
      · cases h

mutual

/-- A reader that stops early leaves something broken. -/
theorem not_intact_of_readValue : ∀ (fuel : Nat) {cs : List Char} {t : Tree},
    readValue fuel cs = (t, none) → t.intact = false
  | 0, _, _, h => by
    cases h
    rfl
  | fuel + 1, cs, t, h => by
    rw [readValue] at h
    split at h
    · split at h
      · cases h
      · split at h
        rename_i ts rest' hitems
        cases h
        exact not_intact_of_readItems fuel hitems
    · split at h
      · cases h
      · split at h
        rename_i ms rest' hmembers
        cases h
        exact not_intact_of_readMembers fuel hmembers
    · exact not_intact_of_readLeaf h

theorem not_intact_of_readItems : ∀ (fuel : Nat) {cs : List Char} {ts : List Tree},
    readItems fuel cs = (ts, none) → intactItems ts = false
  | 0, _, _, h => by
    cases h
    rfl
  | fuel + 1, cs, ts, h => by
    rw [readItems] at h
    split at h
    · rename_i t hvalue
      cases h
      simp [intactItems, not_intact_of_readValue fuel hvalue]
    · split at h
      · cases h
      · split at h
        rename_i ts' rest' hitems
        cases h
        simp [intactItems, not_intact_of_readItems fuel hitems]
      · cases h
        simp [intactItems, Tree.intact]

theorem not_intact_of_readMembers : ∀ (fuel : Nat) {cs : List Char}
    {ms : List (Option String × Tree)}, readMembers fuel cs = (ms, none) →
    intactMembers ms = false
  | 0, _, _, h => by
    cases h
    rfl
  | fuel + 1, cs, ms, h => by
    rw [readMembers] at h
    split at h
    · split at h
      · cases h
        rfl
      · split at h
        · split at h
          · rename_i hvalue
            cases h
            simp [intactMembers, not_intact_of_readValue fuel hvalue]
          · split at h
            · cases h
            · split at h
              rename_i ms' rest' hmembers
              cases h
              simp [intactMembers, not_intact_of_readMembers fuel hmembers]
            · cases h
              simp [intactMembers, Tree.intact]
        · cases h
          rfl
    · cases h
      rfl

end

mutual

/-- Nothing broken can be spelled. -/
theorem Spells.intact : ∀ {t : Tree} {cs : List Char}, Spells t cs → t.intact = true
  | .null, _, _ => rfl
  | .bool _, _, _ => rfl
  | .int _, _, _ => rfl
  | .float _, _, _ => rfl
  | .text _, _, _ => rfl
  | .unreadable, _, _ => rfl
  | .broken, _, h => h.elim
  | .list [], _, _ => rfl
  | .list (_ :: _), _, h => by
    obtain ⟨_, _, ⟨_, _, _, _, hp, _, _⟩, hr, _⟩ := h
    simp [Tree.intact, intactItems, hp.intact, hr.intact]
  | .record [], _, _ => rfl
  | .record ((_, _) :: _), _, h => by
    obtain ⟨_, _, _, _, ⟨_, _, _, _, hp, _, _⟩, hr, _⟩ := h
    simp [Tree.intact, intactMembers, hp.intact, hr.intact]

theorem SpellsItems.intact : ∀ {ts : List Tree} {cs : List Char}, SpellsItems ts cs →
    intactItems ts = true
  | [], _, _ => rfl
  | _ :: _, _, h => by
    obtain ⟨_, _, ⟨_, _, _, _, hp, _, _⟩, hr, _⟩ := h
    simp [intactItems, hp.intact, hr.intact]

theorem SpellsMembers.intact : ∀ {ms : List (Option String × Tree)} {cs : List Char},
    SpellsMembers ms cs → intactMembers ms = true
  | [], _, _ => rfl
  | (_, _) :: _, _, h => by
    obtain ⟨_, _, _, _, ⟨_, _, _, _, hp, _, _⟩, hr, _⟩ := h
    simp [intactMembers, hp.intact, hr.intact]

end

/-! ## Whole texts -/

/-- A text that spells a tree, in whatever way, is read as that tree. -/
theorem read_spells {t : Tree} {cs : List Char} (h : Padded (Spells t) cs) :
    Tree.read cs = (t, true) := by
  obtain ⟨g, p, g', hg, hp, hg', rfl⟩ := h
  have hvalue := readValue_spells t (2 * (g ++ (p ++ g')).length + 2) g p g' hp hg (stops_gap hg')
    (by simp only [List.length_append]; omega)
  have hskip : skipGap g' = [] := List.dropWhile_eq_nil_iff.mpr hg'
  simp only [Tree.read, hvalue, hskip, List.isEmpty_nil]

/-- The reader takes a text to its end and finds nothing broken exactly if the text spells what is
read of it. -/
theorem read_iff {t : Tree} {cs : List Char} :
    (Tree.read cs = (t, true) ∧ t.intact = true) ↔ Padded (Spells t) cs := by
  constructor
  · rintro ⟨hread, hintact⟩
    unfold Tree.read at hread
    split at hread
    · rename_i hvalue
      cases hread
      rw [not_intact_of_readValue _ hvalue] at hintact
      cases hintact
    · rename_i u r hvalue
      obtain ⟨g, p, hg, hp, rfl⟩ := spells_of_readValue _ hvalue
      injection hread with htree hend
      subst htree
      exact ⟨g, p, r, hg, hp, List.dropWhile_eq_nil_iff.mp (List.isEmpty_iff.mp hend), rfl⟩
  · intro h
    refine ⟨read_spells h, ?_⟩
    obtain ⟨_, _, _, _, hp, _, _⟩ := h
    exact hp.intact

/-! ## Comparing trees -/

mutual

/-- The trees are the same. -/
def Tree.same : Tree → Tree → Bool
  | .null, .null => true
  | .bool a, .bool b => a == b
  | .int m, .int n => m == n
  | .float x, .float y => decide (x = y)
  | .text s, .text s' => s == s'
  | .list ts, .list us => sameItems ts us
  | .record ms, .record ns => sameMembers ms ns
  | .unreadable, .unreadable => true
  | .broken, .broken => true
  | _, _ => false

/-- `Tree.same` of items. -/
def sameItems : List Tree → List Tree → Bool
  | [], [] => true
  | t :: ts, u :: us => t.same u && sameItems ts us
  | _, _ => false

/-- `Tree.same` of members. -/
def sameMembers : List (Option String × Tree) → List (Option String × Tree) → Bool
  | [], [] => true
  | (k, t) :: ms, (l, u) :: ns => k == l && t.same u && sameMembers ms ns
  | _, _ => false

end

mutual

theorem Tree.same_iff : ∀ (t u : Tree), t.same u = true ↔ t = u
  | .list ts, .list us => by rw [Tree.same, sameItems_iff, Tree.list.injEq]
  | .record ms, .record ns => by rw [Tree.same, sameMembers_iff, Tree.record.injEq]
  | .null, u => by cases u <;> simp [Tree.same]
  | .bool _, u => by cases u <;> simp [Tree.same]
  | .int _, u => by cases u <;> simp [Tree.same]
  | .float _, u => by cases u <;> simp [Tree.same]
  | .text _, u => by cases u <;> simp [Tree.same]
  | .unreadable, u => by cases u <;> simp [Tree.same]
  | .broken, u => by cases u <;> simp [Tree.same]
  | .list _, .null | .list _, .bool _ | .list _, .int _ | .list _, .float _ | .list _, .text _
  | .list _, .record _ | .list _, .unreadable | .list _, .broken => by simp [Tree.same]
  | .record _, .null | .record _, .bool _ | .record _, .int _ | .record _, .float _
  | .record _, .text _ | .record _, .list _ | .record _, .unreadable | .record _, .broken => by
    simp [Tree.same]

theorem sameItems_iff : ∀ ts us : List Tree, sameItems ts us = true ↔ ts = us
  | [], us => by cases us <;> simp [sameItems]
  | _ :: _, [] => by simp [sameItems]
  | t :: ts, u :: us => by
    rw [sameItems, Bool.and_eq_true, Tree.same_iff, sameItems_iff, List.cons.injEq]

theorem sameMembers_iff :
    ∀ ms ns : List (Option String × Tree), sameMembers ms ns = true ↔ ms = ns
  | [], ns => by cases ns <;> simp [sameMembers]
  | _ :: _, [] => by simp [sameMembers]
  | (k, t) :: ms, (l, u) :: ns => by
    rw [sameMembers, Bool.and_eq_true, Bool.and_eq_true, Tree.same_iff, sameMembers_iff,
      beq_iff_eq, List.cons.injEq, Prod.mk.injEq]

end

instance : DecidableEq Tree := fun t u => decidable_of_iff _ (Tree.same_iff t u)

/-- Whether a text spells a tree can be found out by reading it. -/
instance (t : Tree) (cs : List Char) : Decidable (Padded (Spells t) cs) :=
  decidable_of_iff _ read_iff

end Turnstile.Json
