import Mathlib.Data.List.Induction
import Turnstile.Config.Environment
import Turnstile.Proofs.Text.Blank
import Turnstile.Proofs.Text.Pieces

/-!
# Lines of a file of settings

A line states a key and, behind an equals sign, a value: in quotes up to the next quote of the same
kind, else up to the first blank with a number sign behind it.  It is read so unless nothing but
white space stands before that blank: it is stripped before the comment is looked for, and the
comment itself is the value.  Of the lines with an entry for a key the last decides.

* `Means` — the value that is written behind an equals sign;
* `Line` — the forms of a line with a key;
* `Gives` — the value that a file gives a key;
* `value_of_means`, `entry?_text` — a line is read as the value that it means;
* `lookup?_of_gives` — the last line decides;
* `entry?_documented` — the reading of lines and of files.
-/

set_option autoImplicit false

namespace Turnstile.Environment

/-- The text begins, without the white space before it, with a quote. -/
def Quoted (w : List Char) : Prop :=
  ∃ quote r, (quote = '"' ∨ quote = '\x27') ∧ Text.strip w = quote :: r

/-- The value that a text behind an equals sign means. -/
inductive Means : List Char → List Char → Prop
  | closed {w value rest : List Char} {quote : Char} (hquote : quote = '"' ∨ quote = '\x27')
      (hw : Text.strip w = quote :: (value ++ quote :: rest)) (hvalue : quote ∉ value) :
      Means w value
  | unclosed {w value : List Char} {quote : Char} (hquote : quote = '"' ∨ quote = '\x27')
      (hw : Text.strip w = quote :: value) (hvalue : quote ∉ value) : Means w value
  | commented {w a b : List Char} (hbare : ¬ Quoted w) (hw : w = a ++ ' ' :: '#' :: b)
      (ha : ¬ [' ', '#'] <:+: a) : Means w (Text.strip a)
  | bare {w : List Char} (hbare : ¬ Quoted w) (hw : ¬ [' ', '#'] <:+: w) : Means w (Text.strip w)

/-- Nothing but white space stands before the first comment. -/
def CommentFirst (w : List Char) : Prop :=
  ∃ a b, w = a ++ ' ' :: '#' :: b ∧ ∀ c ∈ a, Text.isBlank c = true

/-- A line with a key: `exported` is the white space behind the word `export`, if that stands before
the key. -/
structure Line where
  indent : List Char := []
  exported : Option (List Char) := none
  key : List Char
  gap : List Char := []
  written : List Char

/-- What stands before the key. -/
def Line.front (l : Line) : List Char :=
  match l.exported with
  | some blanks => exportWord ++ blanks
  | none => []

/-- A line as text. -/
def Line.text (l : Line) : List Char :=
  l.indent ++ (l.front ++ (l.key ++ l.gap ++ '=' :: l.written))

/-- What stands around the key is white space, and the key can be told from it, from a comment and
from the word `export`. -/
structure Line.Formed (l : Line) : Prop where
  indent : ∀ c ∈ l.indent, Text.isBlank c = true
  exported : ∀ blanks ∈ l.exported, ∀ c ∈ blanks, Text.isBlank c = true
  key_ne_nil : l.key ≠ []
  key : ∀ c ∈ l.key, c ≠ '=' ∧ Text.isBlank c = false
  start : l.key.head? ≠ some '#'
  gap : ∀ c ∈ l.gap, Text.isBlank c = true
  bare : l.exported = none → l.key ++ [' '] = exportWord → l.gap.head? ≠ some ' '

/-- The last of the lines with an entry for a key gives the key its value. -/
def Gives (lines : List (List Char)) (key value : String) : Prop :=
  ∃ before line after, lines = before ++ line :: after ∧ entry? line = some (key, value) ∧
    ∀ l ∈ after, ∀ v, entry? l ≠ some (key, v)

/-! ## Values -/

/-- Where no comment begins nothing is cut off. -/
theorem beforeComment_append {a r : List Char} (ha : ¬ [' ', '#'] <:+: a)
    (hr : r.head? ≠ some '#') : beforeComment (a ++ r) = a ++ beforeComment r := by
  induction a with
  | nil => rfl
  | cons c a ih =>
    have htail : ¬ [' ', '#'] <:+: a := fun h => ha (h.trans (List.suffix_cons c a).isInfix)
    have hcomment : ¬ (c = ' ' ∧ (a ++ r).head? = some '#') := by
      rintro ⟨rfl, hhead⟩
      cases a with
      | nil => exact hr hhead
      | cons d a =>
        cases hhead
        exact ha ⟨[], a, rfl⟩
    rw [List.cons_append, beforeComment, if_neg (by simpa using hcomment), ih htail,
      List.cons_append]

theorem beforeComment_of_comment {a : List Char} (ha : ¬ [' ', '#'] <:+: a) (b : List Char) :
    beforeComment (a ++ ' ' :: '#' :: b) = a := by
  rw [beforeComment_append ha (by simp)]
  simp [beforeComment]

theorem beforeComment_of_none {cs : List Char} (h : ¬ [' ', '#'] <:+: cs) :
    beforeComment cs = cs := by
  have hcs := beforeComment_append h (r := []) nofun
  rwa [List.append_nil, beforeComment, List.append_nil] at hcs

theorem takeWhile_append_quote {quote : Char} {value : List Char} (h : quote ∉ value)
    (rest : List Char) : (value ++ quote :: rest).takeWhile (· ≠ quote) = value := by
  rw [List.takeWhile_append_of_pos]
  · simp
  · exact fun c hc => decide_eq_true fun heq => h (heq ▸ hc)

/-- A value in quotes is read up to the next quote. -/
theorem value_quoted {w r : List Char} {quote : Char} (hquote : quote = '"' ∨ quote = '\x27')
    (hw : Text.strip w = quote :: r) : value w = r.takeWhile (· ≠ quote) := by
  unfold value
  rw [hw]
  rcases hquote with rfl | rfl
  · rfl
  · rfl

/-- A value without quotes is read up to the comment. -/
theorem value_bare {w : List Char} (hbare : ¬ Quoted w) :
    value w = Text.stripRight (beforeComment (Text.strip w)) := by
  unfold value
  split
  · rename_i r hw
    exact absurd ⟨'"', r, .inl rfl, hw⟩ hbare
  · rename_i r hw
    exact absurd ⟨'\x27', r, .inr rfl, hw⟩ hbare
  · rfl

/-- Stripping does not reach over a comment that stands behind something. -/
theorem strip_commented {a : List Char} (ha : Text.stripLeft a ≠ []) (b : List Char) :
    Text.strip (a ++ ' ' :: '#' :: b) = Text.stripLeft a ++ ' ' :: '#' :: Text.stripRight b := by
  have hleft : Text.stripLeft (a ++ ' ' :: '#' :: b) = Text.stripLeft a ++ ' ' :: '#' :: b := by
    unfold Text.stripLeft at ha ⊢
    rw [List.dropWhile_append, if_neg (by simpa using ha)]
  rw [Text.strip, hleft, List.append_cons, Text.stripRight_append_cons (by decide)]
  simp

/-- A value is read as it is meant, if not all that stands before a comment is white space. -/
theorem value_of_means {w v : List Char} (h : Means w v) (hfirst : ¬ CommentFirst w) :
    value w = v := by
  cases h with
  | closed hquote hw hvalue => rw [value_quoted hquote hw, takeWhile_append_quote hvalue]
  | unclosed hquote hw hvalue =>
    rw [value_quoted hquote hw, List.takeWhile_eq_self_iff.mpr]
    exact fun c hc => decide_eq_true fun heq => hvalue (heq ▸ hc)
  | @commented a b hbare hw ha =>
    have hne : Text.stripLeft a ≠ [] := fun hnil =>
      hfirst ⟨a, b, hw, fun c hc => List.dropWhile_eq_nil_iff.mp hnil c hc⟩
    have hleft : ¬ [' ', '#'] <:+: Text.stripLeft a :=
      fun h => ha (h.trans (List.dropWhile_suffix _).isInfix)
    rw [value_bare hbare, hw, strip_commented hne, beforeComment_of_comment hleft, Text.strip]
  | bare hbare hw =>
    have hstrip : ¬ [' ', '#'] <:+: Text.strip w := fun h => hw (h.trans (Text.piece_strip w))
    rw [value_bare hbare, beforeComment_of_none hstrip, Text.strip, Text.stripRight_stripRight]

/-- A text with a comment has a first one. -/
theorem exists_first_comment {w : List Char} (h : [' ', '#'] <:+: w) :
    ∃ a b, w = a ++ ' ' :: '#' :: b ∧ ¬ [' ', '#'] <:+: a := by
  induction w with
  | nil => cases List.infix_nil.mp h
  | cons c w ih =>
    by_cases hhere : [' ', '#'] <+: c :: w
    · obtain ⟨b, hb⟩ := hhere
      exact ⟨[], b, hb.symm, by simp⟩
    · obtain ⟨a, b, rfl, ha⟩ := ih ((List.infix_cons_iff.mp h).resolve_left hhere)
      refine ⟨c :: a, b, rfl, fun hin => ?_⟩
      rcases List.infix_cons_iff.mp hin with hbegins | hlater
      · exact hhere (hbegins.trans (List.prefix_append (c :: a) _))
      · exact ha hlater

/-- Every text behind an equals sign means a value. -/
theorem exists_means (w : List Char) : ∃ v, Means w v := by
  by_cases hquoted : Quoted w
  · obtain ⟨quote, r, hquote, hw⟩ := hquoted
    by_cases hr : quote ∈ r
    · cases hcut : Text.cutAt quote r with
      | none => exact absurd hr (Text.cutAt_eq_none_iff.mp hcut)
      | some cut =>
        obtain ⟨rfl, hvalue⟩ := Text.cutAt_eq_some_iff.mp hcut
        exact ⟨cut.1, .closed hquote hw hvalue⟩
    · exact ⟨r, .unclosed hquote hw hr⟩
  · by_cases hcomment : [' ', '#'] <:+: w
    · obtain ⟨a, b, hw, ha⟩ := exists_first_comment hcomment
      exact ⟨Text.strip a, .commented hquoted hw ha⟩
    · exact ⟨Text.strip w, .bare hquoted hcomment⟩

/-- White space around what is written makes no difference to its value. -/
theorem value_congr {w w' : List Char} (h : Text.strip w = Text.strip w') : value w = value w' := by
  unfold value
  rw [h]

theorem strip_number_sign (b : List Char) : Text.strip ('#' :: b) = '#' :: Text.stripRight b := by
  rw [Text.strip, Text.stripLeft_cons (by decide)]
  exact Text.stripRight_append_cons (by decide) [] b

/-- White space before a comment is stripped up to the number sign. -/
theorem strip_commentFirst {a : List Char} (ha : ∀ c ∈ a, Text.isBlank c = true) (b : List Char) :
    Text.strip (a ++ ' ' :: '#' :: b) = '#' :: Text.stripRight b := by
  have hblank : ∀ c ∈ a ++ [' '], Text.isBlank c = true :=
    List.forall_mem_append.mpr ⟨ha, by simp [Text.isBlank]⟩
  rw [← strip_number_sign, Text.strip, List.append_cons, Text.stripLeft_append hblank, Text.strip]

theorem not_commentFirst_of_quoted {w : List Char} (h : Quoted w) : ¬ CommentFirst w := by
  rintro ⟨a, b, rfl, ha⟩
  obtain ⟨quote, r, rfl | rfl, hr⟩ := h
  all_goals
    rw [strip_commentFirst ha] at hr
    cases hr

/-- Where nothing but white space stands before a comment, no value is meant. -/
theorem Means.eq_nil {w v : List Char} (h : Means w v) (hfirst : CommentFirst w) : v = [] := by
  have hbare : ¬ Quoted w := fun hquoted => not_commentFirst_of_quoted hquoted hfirst
  obtain ⟨a, b, hw, ha⟩ := hfirst
  cases h with
  | closed hquote hstrip => exact absurd ⟨_, _, hquote, hstrip⟩ hbare
  | unclosed hquote hstrip => exact absurd ⟨_, _, hquote, hstrip⟩ hbare
  | @commented a' b' _ hw' ha' =>
    have hnone : ¬ [' ', '#'] <:+: a := fun hin =>
      absurd (ha '#' (hin.subset (by simp))) (by decide)
    have hhash : ' ' ∉ ['#'] := by decide
    obtain ⟨rfl, -⟩ := Text.append_label_inj hhash ha' hnone (hw'.symm.trans hw)
    exact Text.strip_eq_nil_iff.mpr ha
  | bare _ hnone => exact absurd ⟨a, b, by rw [hw]; simp⟩ hnone

/-- Where nothing but white space stands before a comment, the comment itself is read as what is
written. -/
theorem value_of_commentFirst {a : List Char} (ha : ∀ c ∈ a, Text.isBlank c = true)
    (b : List Char) :
    ∃ r, Means ('#' :: b) ('#' :: r) ∧ value (a ++ ' ' :: '#' :: b) = '#' :: r := by
  have hbare : ¬ Quoted ('#' :: b) := by
    rintro ⟨quote, r, rfl | rfl, hr⟩
    all_goals
      rw [strip_number_sign] at hr
      cases hr
  have hfirst : ¬ CommentFirst ('#' :: b) := by
    rintro ⟨x, y, heq, hx⟩
    cases x with
    | nil => cases heq
    | cons d x =>
      obtain ⟨rfl, -⟩ := List.cons_eq_cons.mp heq
      exact absurd (hx '#' List.mem_cons_self) (by decide)
  have hpadded : Text.strip (a ++ ' ' :: '#' :: b) = Text.strip ('#' :: b) := by
    rw [strip_commentFirst ha, strip_number_sign]
  have hvalue : ∃ r, value ('#' :: b) = '#' :: r := by
    rw [value_bare hbare, strip_number_sign]
    exact ⟨_, Text.stripRight_append_cons (by decide) [] _⟩
  obtain ⟨v, hv⟩ := exists_means ('#' :: b)
  obtain ⟨r, hr⟩ := hvalue
  have hread := value_of_means hv hfirst
  rw [hr] at hread
  exact ⟨r, hread ▸ hv, (value_congr hpadded).trans hr⟩

/-! ## Lines -/

section Lines

variable {l : Line}

/-- What stands behind the indentation begins with something else than white space, and with no
number sign. -/
theorem Line.Formed.head (hl : l.Formed) (written : List Char) :
    ∃ c r, l.front ++ (l.key ++ l.gap ++ '=' :: written) = c :: r ∧ Text.isBlank c = false ∧
      c ≠ '#' := by
  unfold Line.front
  split
  · exact ⟨'e', _, rfl, by decide, by decide⟩
  · obtain ⟨c, r, hkey⟩ := List.exists_cons_of_ne_nil hl.key_ne_nil
    refine ⟨c, r ++ l.gap ++ '=' :: written, by rw [hkey]; rfl, ?_, ?_⟩
    · exact (hl.key c (hkey ▸ List.mem_cons_self)).2
    · rintro rfl
      exact hl.start (by rw [hkey]; rfl)

theorem Line.Formed.strip_text (hl : l.Formed) :
    Text.strip l.text = l.front ++ (l.key ++ l.gap ++ '=' :: Text.stripRight l.written) := by
  obtain ⟨c, r, hhead, hblank, -⟩ := hl.head l.written
  rw [Text.strip, Line.text, Text.stripLeft_append hl.indent, hhead, Text.stripLeft_cons hblank,
    ← hhead, ← List.append_assoc, Text.stripRight_append_cons (by decide), List.append_assoc]

/-- A line without the word before its key does not begin with that word. -/
theorem Line.Formed.not_exported (hl : l.Formed) (hnone : l.exported = none)
    (written : List Char) : ¬ exportWord <+: l.key ++ l.gap ++ '=' :: written := by
  rintro ⟨t, ht⟩
  rw [List.append_assoc] at ht
  -- Both the word and the key are runs of characters that a blank or an equals sign ends.
  have hsame : ['e', 'x', 'p', 'o', 'r', 't'] = l.key ∧ ' ' :: t = l.gap ++ '=' :: written := by
    refine Text.append_run_inj (P := fun c => c ≠ '=' ∧ Text.isBlank c = false) (by simp; decide)
      hl.key ?_ ?_ ht
    · rintro c ⟨⟩
      decide
    · rintro c hc ⟨hequals, hblank⟩
      cases hgap : l.gap with
      | nil =>
        rw [hgap] at hc
        cases hc
        exact hequals rfl
      | cons d gap =>
        rw [hgap] at hc
        cases hc
        have hd := hl.gap c (hgap ▸ List.mem_cons_self)
        rw [hblank] at hd
        cases hd
  obtain ⟨hkey, hgap⟩ := hsame
  refine hl.bare hnone (by rw [← hkey]; rfl) ?_
  cases hcases : l.gap with
  | nil =>
    rw [hcases] at hgap
    cases hgap
  | cons d gap =>
    rw [hcases] at hgap
    cases hgap
    rfl

/-- A key is told from the word before it. -/
theorem Line.Formed.withoutExport_front (hl : l.Formed) (written : List Char) :
    withoutExport (l.front ++ (l.key ++ l.gap ++ '=' :: written)) =
      l.key ++ l.gap ++ '=' :: written := by
  obtain ⟨c, r, hkey⟩ := List.exists_cons_of_ne_nil hl.key_ne_nil
  unfold withoutExport Line.front
  cases hexported : l.exported with
  | some blanks =>
    dsimp only
    rw [List.append_assoc, if_pos (List.isPrefixOf_iff_prefix.mpr (List.prefix_append _ _)),
      List.drop_left, Text.stripLeft_append (hl.exported blanks hexported), hkey]
    exact Text.stripLeft_cons (hl.key c (hkey ▸ List.mem_cons_self)).2 _
  | none =>
    exact if_neg (mt List.isPrefixOf_iff_prefix.mp (hl.not_exported hexported written))

/-- A line is read as its key and the value that is read behind its equals sign. -/
theorem Line.Formed.entry?_text (hl : l.Formed) :
    entry? l.text = if value l.written = [] then none
      else some (String.ofList l.key, String.ofList (value l.written)) := by
  have hcomment : (l.front ++ (l.key ++ l.gap ++ '=' :: Text.stripRight l.written)).head? ≠
      some '#' := by
    obtain ⟨c, r, hhead, -, hc⟩ := hl.head (Text.stripRight l.written)
    rw [hhead]
    simpa using hc
  have hequals : '=' ∉ l.key ++ l.gap := by
    rw [List.mem_append, not_or]
    exact ⟨fun hmem => (hl.key _ hmem).1 rfl, fun hmem => absurd (hl.gap _ hmem) (by decide)⟩
  have hkey : Text.strip (l.key ++ l.gap) = l.key := by
    have hpadded := Text.strip_padded (List.forall_mem_nil _) hl.gap l.key
    rw [List.nil_append, Text.strip_of_not_blank fun c hc => (hl.key c hc).2] at hpadded
    exact hpadded
  have hvalue : value (Text.stripRight l.written) = value l.written :=
    value_congr (Text.strip_stripRight _)
  unfold entry?
  dsimp only
  rw [hl.strip_text, if_neg hcomment, hl.withoutExport_front,
    Text.cutAt_eq_some_iff.mpr ⟨rfl, hequals⟩]
  dsimp only
  rw [hkey, hvalue]
  simp [hl.key_ne_nil]

end Lines

/-! ## Files -/

theorem find?_entry (key value key' : String) (entries : List (String × String)) :
    ((key, value) :: entries).find? (fun e => e.1 == key') =
      if key = key' then some (key, value) else entries.find? fun e => e.1 == key' := by
  rw [List.find?_cons]
  by_cases h : key = key'
  · simp [h]
  · simp [h, beq_eq_false_iff_ne.mpr h]

theorem find?_put (key value key' : String) (entries : List (String × String)) :
    (put key value entries).find? (fun e => e.1 == key') =
      if key = key' then some (key, value) else entries.find? fun e => e.1 == key' := by
  induction entries with
  | nil => exact find?_entry key value key' []
  | cons e entries ih =>
    obtain ⟨k, v⟩ := e
    unfold put
    split
    · rename_i hsame
      subst hsame
      rw [find?_entry, find?_entry]
      split_ifs
      · rfl
      · rfl
    · rename_i hother
      split
      · exact find?_entry key value key' _
      · rw [find?_entry, find?_entry, ih]
        split_ifs with hk hkey
        · exact absurd (hkey.trans hk.symm) hother
        · rfl
        · rfl
        · rfl

/-- The entries of lines, in the order of their keys. -/
def entries (lines : List (List Char)) : List (String × String) :=
  (lines.filterMap entry?).foldl (fun entries e => put e.1 e.2 entries) []

/-- A line more: its entry for a key, if it has one, is the one that counts. -/
theorem find?_entries_snoc (lines : List (List Char)) (line : List Char) (key : String) :
    (entries (lines ++ [line])).find? (fun e => e.1 == key) =
      match entry? line with
      | some (k, v) => if k = key then some (k, v)
        else (entries lines).find? fun e => e.1 == key
      | none => (entries lines).find? fun e => e.1 == key := by
  unfold entries
  rw [List.filterMap_append, List.foldl_append]
  cases hentry : entry? line with
  | none => simp [hentry]
  | some e =>
    have hsingle : [line].filterMap entry? = [e] := by simp [hentry]
    rw [hsingle, List.foldl_cons, List.foldl_nil, find?_put]

theorem gives_snoc {lines : List (List Char)} {line : List Char} {key v : String} :
    Gives (lines ++ [line]) key v ↔
      entry? line = some (key, v) ∨ (∀ v, entry? line ≠ some (key, v)) ∧ Gives lines key v := by
  constructor
  · rintro ⟨before, line', after, hsplit, hline, hafter⟩
    rcases List.eq_nil_or_concat after with rfl | ⟨after, last, rfl⟩
    · obtain ⟨-, hlast⟩ := List.append_inj' hsplit rfl
      cases hlast
      exact .inl hline
    · rw [List.concat_eq_append, ← List.cons_append, ← List.append_assoc] at hsplit
      obtain ⟨rfl, hlast⟩ := List.append_inj' hsplit rfl
      cases hlast
      refine .inr ⟨hafter line (by simp), before, line', after, rfl, hline, fun l hl => ?_⟩
      exact hafter l (by simp [hl])
  · rintro (hline | ⟨hnone, before, line', after, rfl, hline, hafter⟩)
    · exact ⟨lines, line, [], rfl, hline, nofun⟩
    · refine ⟨before, line', after ++ [line], by simp, hline, fun l hl => ?_⟩
      rcases List.mem_append.mp hl with hl | hl
      · exact hafter l hl
      · exact List.mem_singleton.mp hl ▸ hnone

/-- The value under a key is the one that the lines give it. -/
theorem find?_entries {lines : List (List Char)} {key v : String} :
    (entries lines).find? (fun e => e.1 == key) = some (key, v) ↔ Gives lines key v := by
  induction lines using List.reverseRecOn with
  | nil =>
    constructor
    · intro h
      cases h
    · rintro ⟨before, line, after, hsplit, -⟩
      simp at hsplit
  | append_singleton lines line ih =>
    rw [find?_entries_snoc, gives_snoc, ← ih]
    cases hentry : entry? line with
    | none => simp
    | some e =>
      obtain ⟨k, w⟩ := e
      dsimp only
      by_cases hk : k = key
      · subst hk
        simp
      · simp [hk]

/-- A key that the lines of a file give a value has that value, whatever it hides. -/
theorem lookup?_of_gives {contents key v : String}
    (h : Gives (Text.pieces '\n' contents.toList) key v) (process : List (String × String)) :
    (ofFile contents process).lookup? key = some v := by
  have hfound : (readFile contents).find? (fun e => e.1 == key) = some (key, v) :=
    find?_entries.mpr h
  unfold lookup? ofFile
  rw [hfound]

/-- Of a key that no line has an entry for there is the variable. -/
theorem lookup?_of_not_gives {contents key : String}
    (h : ∀ v, ¬ Gives (Text.pieces '\n' contents.toList) key v)
    (process : List (String × String)) :
    (ofFile contents process).lookup? key =
      (process.find? fun e => e.1 == key).map Prod.snd := by
  have hmissing : (readFile contents).find? (fun e => e.1 == key) = none := by
    rw [← Option.not_isSome_iff_eq_none, Option.isSome_iff_exists]
    rintro ⟨⟨k, v⟩, hfound⟩
    obtain rfl : k = key := by simpa using List.find?_some hfound
    exact h v (find?_entries.mp hfound)
  unfold lookup? ofFile
  rw [hmissing]

/-! ## What is documented -/

/-- The word `export` with nothing but white space behind it is no key. -/
theorem entry?_export {indent gap : List Char} (hindent : ∀ c ∈ indent, Text.isBlank c = true)
    (hgap : ∀ c ∈ gap, Text.isBlank c = true) (written : List Char) :
    entry? (indent ++ (exportWord ++ (gap ++ '=' :: written))) = none := by
  have hstrip : Text.strip (indent ++ (exportWord ++ (gap ++ '=' :: written))) =
      exportWord ++ (gap ++ '=' :: Text.stripRight written) := by
    have hleft : Text.stripLeft (exportWord ++ (gap ++ '=' :: written)) =
        exportWord ++ (gap ++ '=' :: written) := Text.stripLeft_cons (by decide) _
    rw [Text.strip, Text.stripLeft_append hindent, hleft, ← List.append_assoc,
      Text.stripRight_append_cons (by decide), List.append_assoc]
  have hfront : withoutExport (exportWord ++ (gap ++ '=' :: Text.stripRight written)) =
      '=' :: Text.stripRight written := by
    unfold withoutExport
    rw [if_pos (List.isPrefixOf_iff_prefix.mpr (List.prefix_append _ _)), List.drop_left,
      Text.stripLeft_append hgap, Text.stripLeft_cons (by decide)]
  have hcut : Text.cutAt '=' ('=' :: Text.stripRight written) =
      some ([], Text.stripRight written) := Text.cutAt_eq_some_iff.mpr ⟨rfl, List.not_mem_nil⟩
  unfold entry?
  dsimp only
  rw [hstrip, hfront, if_neg (by simp [exportWord]), hcut]
  rfl

/-- A line is read as what it means, which is the key with the value in quotes or up to the comment,
and nothing without a value, exactly if not only white space stands before a comment: else the
comment itself, with its number sign, is read as the value. The word `export` with a blank behind it
is no key. Of the lines of a file with an entry for a key the last decides. -/
theorem entry?_documented {l : Line} (hl : l.Formed) {v : List Char} (hv : Means l.written v) :
    (¬ CommentFirst l.written ↔
      entry? l.text = if v = [] then none else some (String.ofList l.key, String.ofList v)) ∧
    (∀ a b, l.written = a ++ ' ' :: '#' :: b → (∀ c ∈ a, Text.isBlank c = true) →
      ∃ r, Means ('#' :: b) ('#' :: r) ∧
        entry? l.text = some (String.ofList l.key, String.ofList ('#' :: r))) ∧
    (∀ indent gap written, (∀ c ∈ indent, Text.isBlank c = true) →
      (∀ c ∈ gap, Text.isBlank c = true) →
      entry? (indent ++ (exportWord ++ (gap ++ '=' :: written))) = none) ∧
    (∀ w, ∃ v, Means w v) ∧
    ∀ (contents key : String) (process : List (String × String)),
      (∀ v, Gives (Text.pieces '\n' contents.toList) key v →
        (ofFile contents process).lookup? key = some v) ∧
      ((∀ v, ¬ Gives (Text.pieces '\n' contents.toList) key v) →
        (ofFile contents process).lookup? key =
          (process.find? fun e => e.1 == key).map Prod.snd) := by
  have hcommented : ∀ a b, l.written = a ++ ' ' :: '#' :: b →
      (∀ c ∈ a, Text.isBlank c = true) → ∃ r, Means ('#' :: b) ('#' :: r) ∧
        entry? l.text = some (String.ofList l.key, String.ofList ('#' :: r)) := by
    intro a b hwritten ha
    obtain ⟨r, hmeans, hvalue⟩ := value_of_commentFirst ha b
    refine ⟨r, hmeans, ?_⟩
    rw [hl.entry?_text, hwritten, hvalue, if_neg (List.cons_ne_nil _ _)]
  refine ⟨⟨fun hfirst => ?_, fun hread hfirst => ?_⟩, hcommented,
    fun indent gap written hindent hgap => entry?_export hindent hgap written, exists_means,
    fun contents key process => ⟨fun v h => lookup?_of_gives h process,
      fun h => lookup?_of_not_gives h process⟩⟩
  · rw [hl.entry?_text, value_of_means hv hfirst]
  · rw [if_pos (hv.eq_nil hfirst)] at hread
    obtain ⟨a, b, hwritten, ha⟩ := hfirst
    obtain ⟨r, -, hentry⟩ := hcommented a b hwritten ha
    rw [hread] at hentry
    cases hentry

/-- A line with all that may stand in one. -/
def fullLine : Line where
  indent := [' ']
  exported := some ['\t']
  key := "URL".toList
  gap := [' ']
  written := " 'a #b' # note".toList

theorem entry?_documented_full :
    entry? fullLine.text = some ("URL", "a #b") ∧
      (ofFile "A=1\nA=\n" [("A", "2")]).lookup? "A" = some "1" := by
  have hformed : fullLine.Formed := {
    indent := by simp [fullLine, Text.isBlank]
    exported := by simp [fullLine, Text.isBlank]
    key_ne_nil := by simp [fullLine]
    key := by simp [fullLine, Text.isBlank]
    start := by simp [fullLine]
    gap := by simp [fullLine, Text.isBlank]
    bare := nofun }
  have hstrip : Text.strip fullLine.written =
      '\x27' :: ("a #b".toList ++ '\x27' :: " # note".toList) := by decide +kernel
  have hmeans : Means fullLine.written "a #b".toList := .closed (.inr rfl) hstrip (by simp)
  obtain ⟨hread, -, -, -, hfile⟩ := entry?_documented hformed hmeans
  have hentry := hread.mp (not_commentFirst_of_quoted ⟨'\x27', _, .inr rfl, hstrip⟩)
  have hgives : Gives (Text.pieces '\n' "A=1\nA=\n".toList) "A" "1" := by
    refine ⟨[], "A=1".toList, ["A=".toList, []], by decide +kernel, by decide +kernel, ?_⟩
    intro l hl v
    have hnone : entry? l = none := by
      rcases List.mem_pair.mp hl with rfl | rfl
      · decide +kernel
      · decide +kernel
    rw [hnone]
    exact Option.some_ne_none _ |>.symm
  rw [if_neg (by simp)] at hentry
  exact ⟨hentry, (hfile _ _ _).1 _ hgives⟩

/-- A line with a comment in place of a value. -/
def commentLine : Line where
  key := "K".toList
  written := " # comment".toList

theorem entry?_comment_kept :
    commentLine.text = "K= # comment".toList ∧ commentLine.Formed ∧ Means commentLine.written [] ∧
      entry? commentLine.text = some ("K", "# comment") := by
  have hbare : ¬ Quoted commentLine.written := fun h =>
    not_commentFirst_of_quoted h ⟨[], " comment".toList, rfl, List.forall_mem_nil _⟩
  refine ⟨by decide +kernel, ?_, ?_, by decide +kernel⟩
  · exact {
      indent := by simp [commentLine]
      exported := by simp [commentLine]
      key_ne_nil := by simp [commentLine]
      key := by simp [commentLine, Text.isBlank]
      start := by simp [commentLine]
      gap := by simp [commentLine]
      bare := by simp [commentLine, exportWord] }
  · exact .commented (a := []) (b := " comment".toList) hbare rfl (by simp)

end Turnstile.Environment
