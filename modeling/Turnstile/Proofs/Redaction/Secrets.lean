import Mathlib.Data.Char
import Turnstile.Proofs.Redaction.Clean
import Turnstile.Proofs.Text.Case
import Turnstile.Proofs.Text.CaseFold

/-!
# The secrets of the default rules

The default rules have two patterns: bearer tokens, which are the word in any case, white space and
a run of letters, digits and three marks; and keys, which are `sk-` and a run of at least eight
letters and digits.  Neither has an angle bracket in it, nor a character at which queries are cut,
so that the default replacement keeps matches apart: a redacted document holds neither.

* `mem_bearerToken`, `mem_secretKey` — what the two patterns describe;
* `separates` — the default replacement keeps their matches apart;
* `redact_default` — no secret is left in a document.
-/

set_option autoImplicit false

namespace Turnstile

namespace CharSet

@[simp] theorem holds_single {c d : Char} : (single d).holds c = true ↔ c = d := by
  simp only [single, holds, Bool.and_eq_true, decide_eq_true_eq]
  exact ⟨fun h => le_antisymm h.2 h.1, fun h => h ▸ ⟨le_refl c, le_refl c⟩⟩

/-- White space has no case. -/
theorem holds_ignoringCase_blank (c : Char) :
    (ignoringCase .blank).holds c = Text.isBlank c := by
  have hnone : (Text.caseCounterparts c).any blank.holds = false := by
    rw [List.any_eq_false]
    intro d hd hblank
    exact Bool.false_ne_true ((Text.not_blank_of_counterpart hd).symm.trans hblank)
  show (Text.isBlank c || (Text.caseCounterparts c).any blank.holds) = Text.isBlank c
  rw [hnone, Bool.or_false]

end CharSet

open CharSet (single ignoringCase)
open Pattern (spell)

/-! ## The two patterns -/

/-- ASCII letters and digits, as they are read from a class. -/
def alphanumeric : CharSet :=
  .union (.union (.union .none (.range 'A' 'Z')) (.range 'a' 'z')) (.range '0' '9')

/-- The characters of a token, in one case. -/
def tokenSet : CharSet :=
  .union (.union (.union alphanumeric (single '.')) (single '_')) (single '-')

/-- The pattern of bearer tokens. -/
def bearerToken : Pattern :=
  spell ("bearer".toList.map fun letter => ignoringCase (single letter))
    (.seq (.rep (.set (ignoringCase .blank)) 1 none true)
      (.seq (.rep (.set (ignoringCase tokenSet)) 1 none true) .empty))

/-- The pattern of keys. -/
def secretKey : Pattern :=
  spell ("sk-".toList.map single) (.seq (.rep (.set alphanumeric) 8 none true) .empty)

/-- The characters of a token: the long s and the sign for the kelvin are an `s` and a `k` in
another case. -/
def isTokenCharacter (c : Char) : Bool :=
  c.isAlphanum || ['.', '_', '-', '\u017F', '\u212A'].contains c

/-- The three parts of a bearer token. -/
structure IsBearerToken (word blanks token : List Char) : Prop where
  word : Text.InAnyCase "bearer" (String.ofList word)
  blanks_ne_nil : blanks ≠ []
  blanks : ∀ c ∈ blanks, Text.isBlank c = true
  token_ne_nil : token ≠ []
  token : ∀ c ∈ token, isTokenCharacter c = true

/-- What follows `sk-` in a key. -/
structure IsSecretKey (letters : List Char) : Prop where
  length : 8 ≤ letters.length
  alphanumeric : ∀ c ∈ letters, c.isAlphanum = true

theorem read?_bearerToken :
    Pattern.read? "(?i)bearer\\s+[A-Za-z0-9._\\-]+" = some bearerToken := by decide +kernel

theorem read?_secretKey : Pattern.read? "sk-[A-Za-z0-9]\x7b8,\x7d" = some secretKey := by
  decide +kernel

theorem lt_of_isAlphanum {c : Char} (h : c.isAlphanum = true) : c.toNat < 128 := by
  change ((decide (c.val ≥ 'A'.val ∧ c.val ≤ 'Z'.val) || (c.val ≥ 'a'.val && c.val ≤ 'z'.val)) ||
    (c.val ≥ '0'.val && c.val ≤ '9'.val)) = true at h
  simp only [Bool.or_eq_true, Bool.and_eq_true, decide_eq_true_eq, UInt32.le_iff_toNat_le,
    ge_iff_le] at h
  have hval : c.toNat = c.val.toNat := rfl
  have hZ : 'Z'.val.toNat = 90 := rfl
  have hz : 'z'.val.toNat = 122 := rfl
  have h9 : '9'.val.toNat = 57 := rfl
  omega

theorem holds_alphanumeric (c : Char) : alphanumeric.holds c = c.isAlphanum := by
  have hnone : CharSet.none.holds c = false := by
    rw [Bool.eq_false_iff]
    intro h
    simp only [CharSet.none, CharSet.holds, Bool.and_eq_true, decide_eq_true_eq] at h
    exact absurd (h.1.trans h.2) (by decide)
  have hupper : (CharSet.range 'A' 'Z').holds c = c.isUpper := (Bool.decide_and _ _).symm
  have hlower : (CharSet.range 'a' 'z').holds c = c.isLower := rfl
  have hdigit : (CharSet.range '0' '9').holds c = c.isDigit := rfl
  show (((CharSet.none.holds c || (CharSet.range 'A' 'Z').holds c) ||
    (CharSet.range 'a' 'z').holds c) || (CharSet.range '0' '9').holds c) = _
  rw [hnone, hupper, hlower, hdigit, Bool.false_or]
  rfl

theorem holds_letter_of_checked {letter : Char} (hascii : letter.toNat < 128)
    (hsmall : letter.toLower = letter) (hlong : letter ≠ 's') (hkelvin : letter ≠ 'k')
    (hcapital : (ignoringCase (single letter)).holds letter.toUpper = true) (c : Char) :
    (ignoringCase (single letter)).holds c = true ↔ c = letter ∨ c = letter.toUpper := by
  constructor
  · intro h
    rcases Bool.or_eq_true_iff.mp h with hself | hother
    · exact .inl (CharSet.holds_single.mp hself)
    · obtain ⟨d, hd, hheld⟩ := List.any_eq_true.mp hother
      obtain rfl := CharSet.holds_single.mp hheld
      have hcases := Text.cases_of_counterpart hd hascii
      rw [hsmall] at hcases
      rcases hcases with h | h | ⟨-, h⟩ | ⟨-, h⟩
      · exact .inl h
      · exact .inr h
      · exact absurd h hlong
      · exact absurd h hkelvin
  · rintro (rfl | rfl)
    · exact Bool.or_eq_true_iff.mpr (.inl (CharSet.holds_single.mpr rfl))
    · exact hcapital

theorem toList_bearer : "bearer".toList = ['b', 'e', 'a', 'r', 'e', 'r'] := by simp

/-- A letter of the word stands for itself and its capital. -/
theorem holds_letter {letter : Char} (h : letter ∈ "bearer".toList) (c : Char) :
    (ignoringCase (single letter)).holds c = true ↔ c = letter ∨ c = letter.toUpper := by
  rw [toList_bearer] at h
  simp only [List.mem_cons, List.not_mem_nil, or_false] at h
  rcases h with rfl | rfl | rfl | rfl | rfl | rfl
  all_goals
    exact holds_letter_of_checked (by decide) (by decide) (by decide) (by decide)
      (by decide +kernel) c

theorem lt_of_tokenSet {c : Char} (h : tokenSet.holds c = true) : c.toNat < 128 := by
  simp only [tokenSet, CharSet.holds, Bool.or_eq_true, CharSet.holds_single,
    holds_alphanumeric] at h
  rcases h with ((h | rfl) | rfl) | rfl
  · exact lt_of_isAlphanum h
  all_goals decide

/-- The characters of a token in either case. -/
theorem holds_tokenSet (c : Char) :
    (ignoringCase tokenSet).holds c = true ↔ isTokenCharacter c = true := by
  have hself : ∀ {c : Char}, tokenSet.holds c = true → isTokenCharacter c = true ∧
      isTokenCharacter c.toLower = true ∧ isTokenCharacter c.toUpper = true := fun h =>
    Text.ascii_forall (P := fun c => tokenSet.holds c = true → isTokenCharacter c = true ∧
      isTokenCharacter c.toLower = true ∧ isTokenCharacter c.toUpper = true)
      (by decide +kernel) (lt_of_tokenSet h) h
  constructor
  · intro h
    rcases Bool.or_eq_true_iff.mp h with h | hother
    · exact (hself h).1
    · obtain ⟨d, hd, hheld⟩ := List.any_eq_true.mp hother
      rcases Text.cases_of_counterpart hd (lt_of_tokenSet hheld) with
        rfl | rfl | ⟨rfl, -⟩ | ⟨rfl, -⟩
      · exact (hself hheld).2.1
      · exact (hself hheld).2.2
      · decide
      · decide
  · intro h
    simp only [isTokenCharacter, Bool.or_eq_true, List.contains_iff_mem, List.mem_cons,
      List.not_mem_nil, or_false] at h
    have htoken : tokenSet.holds c = true → (ignoringCase tokenSet).holds c = true :=
      fun h => Bool.or_eq_true_iff.mpr (.inl h)
    rcases h with h | rfl | rfl | rfl | rfl | rfl
    · refine htoken ?_
      simp only [tokenSet, CharSet.holds, Bool.or_eq_true, holds_alphanumeric]
      exact .inl (.inl (.inl h))
    · exact htoken (by decide)
    · exact htoken (by decide)
    · exact htoken (by decide)
    · decide +kernel
    · decide +kernel

/-! ## What they describe -/

theorem spells_bearer {w : List Char} :
    List.Forall₂ (fun s c => s.holds c = true)
        ("bearer".toList.map fun letter => ignoringCase (single letter)) w ↔
      Text.InAnyCase "bearer" (String.ofList w) := by
  have hletters : ∀ letter ∈ "bearer".toList, letter ∈ "bearer".toList := fun _ h => h
  have hw : (String.ofList w).toList = w := String.toList_ofList
  unfold Text.InAnyCase
  rw [List.forall₂_map_left_iff, hw]
  constructor
  · exact fun h => ((List.forall₂_and_left _ _).mpr ⟨hletters, h⟩).imp
      fun letter c h => (holds_letter h.1 c).mp h.2
  · exact fun h => ((List.forall₂_and_left _ _).mpr ⟨hletters, h⟩).imp
      fun letter c h => (holds_letter h.1 c).mpr h.2

theorem spells_single {word w : List Char} :
    List.Forall₂ (fun s c => s.holds c = true) (word.map single) w ↔ word = w := by
  have hsame : (fun a c => (single a).holds c = true) = Eq := by
    funext a c
    exact propext (CharSet.holds_single.trans eq_comm)
  rw [List.forall₂_map_left_iff, hsame, List.forall₂_eq_eq_eq]

/-- The pattern of bearer tokens describes the word in any case, white space and a token. -/
theorem mem_bearerToken {m : List Char} :
    m ∈ bearerToken.language ↔
      ∃ word blanks token, IsBearerToken word blanks token ∧ word ++ (blanks ++ token) = m := by
  unfold bearerToken
  rw [Pattern.mem_language_spell]
  constructor
  · rintro ⟨word, r, hword, hr, rfl⟩
    obtain ⟨blanks, r, hblanks, hblank, hrest, rfl⟩ := Pattern.mem_language_run.mp hr
    obtain ⟨token, r, htoken, hcharacter, rfl, rfl⟩ := Pattern.mem_language_run.mp hrest
    refine ⟨word, blanks, token, ⟨spells_bearer.mp hword, List.ne_nil_of_length_pos hblanks, ?_,
      List.ne_nil_of_length_pos htoken, ?_⟩, by rw [List.append_nil]⟩
    · exact fun c hc => CharSet.holds_ignoringCase_blank c ▸ hblank c hc
    · exact fun c hc => (holds_tokenSet c).mp (hcharacter c hc)
  · rintro ⟨word, blanks, token, h, rfl⟩
    refine ⟨word, blanks ++ token, spells_bearer.mpr h.word, ?_, rfl⟩
    refine Pattern.mem_language_run.mpr ⟨blanks, token,
      List.length_pos_of_ne_nil h.blanks_ne_nil, ?_, Pattern.mem_language_run.mpr ⟨token, [],
        List.length_pos_of_ne_nil h.token_ne_nil, ?_, rfl, List.append_nil token⟩, rfl⟩
    · exact fun c hc => (CharSet.holds_ignoringCase_blank c).trans (h.blanks c hc)
    · exact fun c hc => (holds_tokenSet c).mpr (h.token c hc)

/-- The pattern of keys describes `sk-` and at least eight letters and digits. -/
theorem mem_secretKey {m : List Char} :
    m ∈ secretKey.language ↔ ∃ letters, IsSecretKey letters ∧ "sk-".toList ++ letters = m := by
  unfold secretKey
  rw [Pattern.mem_language_spell]
  constructor
  · rintro ⟨word, r, hword, hr, rfl⟩
    obtain ⟨letters, r, hlength, hletter, rfl, rfl⟩ := Pattern.mem_language_run.mp hr
    refine ⟨letters, ⟨hlength, fun c hc => ?_⟩, by rw [spells_single.mp hword, List.append_nil]⟩
    rw [← holds_alphanumeric]
    exact hletter c hc
  · rintro ⟨letters, h, rfl⟩
    refine ⟨"sk-".toList, letters, spells_single.mpr rfl, ?_, rfl⟩
    exact Pattern.mem_language_run.mpr ⟨letters, [], h.length,
      fun c hc => (holds_alphanumeric c).trans (h.alphanumeric c hc), rfl, List.append_nil letters⟩

/-! ## What the replacement keeps apart -/

theorem isTokenCharacter_of_isAlphanum {c : Char} (h : c.isAlphanum = true) :
    isTokenCharacter c = true := by
  rw [isTokenCharacter, h, Bool.true_or]

theorem isTokenCharacter_of_word {word : List Char} {c : Char}
    (h : Text.InAnyCase "bearer" (String.ofList word)) (hc : c ∈ word) :
    isTokenCharacter c = true := by
  have hletters : ∀ letter ∈ "bearer".toList,
      isTokenCharacter letter = true ∧ isTokenCharacter letter.toUpper = true := by
    intro letter h
    rw [toList_bearer] at h
    simp only [List.mem_cons, List.not_mem_nil, or_false] at h
    rcases h with rfl | rfl | rfl | rfl | rfl | rfl
    all_goals decide
  have hw : (String.ofList word).toList = word := String.toList_ofList
  unfold Text.InAnyCase at h
  rw [hw] at h
  obtain ⟨hlength, hall⟩ := List.forall₂_iff_get.mp h
  obtain ⟨i, hi, rfl⟩ := List.getElem_of_mem hc
  have hi' : i < "bearer".toList.length := hlength ▸ hi
  obtain ⟨hsmall, hcapital⟩ := hletters _ (List.get_mem _ ⟨i, hi'⟩)
  rcases hall i hi' hi with heq | heq
  · exact (congrArg isTokenCharacter heq).trans hsmall
  · exact (congrArg isTokenCharacter heq).trans hcapital

/-- What stands in the texts of the two patterns. -/
theorem chars_of_mem {p : Pattern} (hp : p ∈ [bearerToken, secretKey]) {m : List Char}
    (hm : m ∈ p.language) : ∀ c ∈ m, isTokenCharacter c = true ∨ Text.isBlank c = true := by
  intro c hc
  rcases List.mem_pair.mp hp with rfl | rfl
  · obtain ⟨word, blanks, token, h, rfl⟩ := mem_bearerToken.mp hm
    rcases List.mem_append.mp hc with hc | hc
    · exact .inl (isTokenCharacter_of_word h.word hc)
    · rcases List.mem_append.mp hc with hc | hc
      · exact .inr (h.blanks c hc)
      · exact .inl (h.token c hc)
  · obtain ⟨letters, h, rfl⟩ := mem_secretKey.mp hm
    rcases List.mem_append.mp hc with hc | hc
    · have hstarts : "sk-".toList = ['s', 'k', '-'] := by simp
      simp only [hstarts, List.mem_cons, List.not_mem_nil, or_false] at hc
      rcases hc with rfl | rfl | rfl
      all_goals exact .inl (by decide)
    · exact .inl (isTokenCharacter_of_isAlphanum (h.alphanumeric c hc))

/-- The characters at the ends of the replacement, and those at which queries are cut, stand in no
text of the patterns. -/
theorem not_mem_of_mem {p : Pattern} (hp : p ∈ [bearerToken, secretKey]) {c : Char}
    (hc : c ∈ ['<', '>', '?', '#', '&', '=']) : ∀ m ∈ p.language, c ∉ m := by
  intro m hm hmem
  have hother : isTokenCharacter c = false ∧ Text.isBlank c = false := by
    simp only [List.mem_cons, List.not_mem_nil, or_false] at hc
    rcases hc with rfl | rfl | rfl | rfl | rfl | rfl
    all_goals decide
  rcases chars_of_mem hp hm c hmem with h | h
  · rw [hother.1] at h
    cases h
  · rw [hother.2] at h
    cases h

/-- In each text of the patterns there is a blank or a hyphen. -/
theorem exists_mark {p : Pattern} (hp : p ∈ [bearerToken, secretKey]) {m : List Char}
    (hm : m ∈ p.language) : ∃ c ∈ m, Text.isBlank c = true ∨ c = '-' := by
  rcases List.mem_pair.mp hp with rfl | rfl
  · obtain ⟨word, blanks, token, h, rfl⟩ := mem_bearerToken.mp hm
    obtain ⟨c, hc⟩ := List.exists_mem_of_ne_nil blanks h.blanks_ne_nil
    exact ⟨c, by simp [hc], .inl (h.blanks c hc)⟩
  · obtain ⟨letters, h, rfl⟩ := mem_secretKey.mp hm
    exact ⟨'-', by simp, .inr rfl⟩

/-- The default replacement keeps the matches of both patterns apart. -/
theorem separates {p : Pattern} (hp : p ∈ [bearerToken, secretKey]) :
    p.Separates "<redacted>".toList where
  ne_nil := by simp
  head := by
    have hhead : "<redacted>".toList.head (by simp) = '<' := by simp
    rw [hhead]
    exact not_mem_of_mem hp (by decide)
  last := by
    have hlast : "<redacted>".toList.getLast (by simp) = '>' := by simp
    rw [hlast]
    exact not_mem_of_mem hp (by decide)
  free := by
    intro m hm hlang
    obtain ⟨c, hc, hmark⟩ := exists_mark hp hlang
    have hplain : "<redacted>".toList.all (fun c => !(Text.isBlank c || c == '-')) = true := by
      decide +kernel
    have hother := List.all_eq_true.mp hplain c (hm.subset hc)
    rcases hmark with hblank | rfl
    · rw [hblank] at hother
      cases hother
    · cases hother

theorem plain_of_mem {p : Pattern} (hp : p ∈ [bearerToken, secretKey]) : p.plain = true := by
  rcases List.mem_pair.mp hp with rfl | rfl
  · rfl
  · rfl

namespace Redactor

/-- The default rules made ready. -/
def scrubber : Redactor where
  replacement := "<redacted>"
  keyNames := RedactionRules.default.keyNames
  queryParams := RedactionRules.default.queryParams
  queryKeys := RedactionRules.default.queryKeys
  patterns := [bearerToken.finder, secretKey.finder]

theorem readPatterns_default :
    readPatterns Pattern.engine RedactionRules.default.patterns =
      .ok [bearerToken.finder, secretKey.finder] := by
  have hbearer : Text.trim "(?i)bearer\\s+[A-Za-z0-9._\\-]+" =
      "(?i)bearer\\s+[A-Za-z0-9._\\-]+" := by decide +kernel
  have hkey : Text.trim "sk-[A-Za-z0-9]\x7b8,\x7d" = "sk-[A-Za-z0-9]\x7b8,\x7d" := by
    decide +kernel
  simp only [RedactionRules.default, readPatterns, Pattern.engine, hbearer, hkey,
    read?_bearerToken, read?_secretKey, Option.map_some]
  rfl

theorem ofRules?_default : ofRules? RedactionRules.default = .ok scrubber := by
  have htrim : Text.trim RedactionRules.default.replacement = "<redacted>" := by decide +kernel
  have hkeyNames : normalNames RedactionRules.default.keyNames = scrubber.keyNames := by
    decide +kernel
  have hparams : normalNames RedactionRules.default.queryParams = scrubber.queryParams := by
    decide +kernel
  have hqueryKeys : normalNames RedactionRules.default.queryKeys = scrubber.queryKeys := by
    decide +kernel
  simp [ofRules?, scrubber, htrim, hkeyNames, hparams, hqueryKeys, readPatterns_default]

theorem keepsApart_scrubber : scrubber.KeepsApart [bearerToken, secretKey] :=
  ⟨rfl, fun _ hp => ⟨plain_of_mem hp, separates hp⟩⟩

/-- Redaction by the default rules leaves no match of either pattern in any text of a document, and
so neither a bearer token nor a key. Every match that stands in a text whose query was redacted, or
in which any pattern was replaced, such as the other one, stood in it before. -/
theorem redact_default :
    (∀ text ∈ RedactionRules.default.patterns, ∃ p : Pattern, Pattern.read? text = some p ∧
      (∀ v s, ((ofRules RedactionRules.default).redact v).HasText s →
        p.FreeOf s.toList ∧ ∀ before t, t <:+ s.toList → p.matchLength? before t = none) ∧
      ∀ m ∈ p.language, ∀ cs,
        (m <:+: redactQuery (ofRules RedactionRules.default).queryParams
          (ofRules RedactionRules.default).replacement cs → m <:+: cs) ∧
        ∀ q : Pattern,
          m <:+: q.replaceAll (ofRules RedactionRules.default).replacement.toList cs →
            m <:+: cs) ∧
    ∀ v s, ((ofRules RedactionRules.default).redact v).HasText s →
      (∀ word blanks token, IsBearerToken word blanks token →
        ¬ word ++ (blanks ++ token) <:+: s.toList) ∧
      ∀ letters, IsSecretKey letters → ¬ "sk-".toList ++ letters <:+: s.toList := by
  rw [ofRules_eq ofRules?_default]
  have hfree : ∀ p ∈ [bearerToken, secretKey], ∀ v s, (scrubber.redact v).HasText s →
      p.FreeOf s.toList := fun p hp v s hs => freeOf_of_hasText keepsApart_scrubber hp hs
  have hpattern : ∀ p ∈ [bearerToken, secretKey],
      (∀ v s, (scrubber.redact v).HasText s →
        p.FreeOf s.toList ∧ ∀ before t, t <:+ s.toList → p.matchLength? before t = none) ∧
      ∀ m ∈ p.language, ∀ cs,
        (m <:+: redactQuery scrubber.queryParams scrubber.replacement cs → m <:+: cs) ∧
        ∀ q : Pattern, m <:+: q.replaceAll scrubber.replacement.toList cs → m <:+: cs := by
    intro p hp
    constructor
    · exact fun v s hs => ⟨hfree p hp v s hs,
        (Pattern.freeOf_iff_matchLength? (plain_of_mem hp)).mp (hfree p hp v s hs)⟩
    · intro m hm cs
      have hmarks : ∀ c ∈ ['?', '#', '&', '='], c ∉ m := fun c hc =>
        not_mem_of_mem hp (List.mem_cons_of_mem _ (List.mem_cons_of_mem _ hc)) m hm
      exact ⟨infix_of_redactQuery (fun hin => (separates hp).free m hin hm) hmarks,
        fun q hin => (separates hp).infix_of_replaceAll q hm hin⟩
  refine ⟨?_, fun v s hs => ⟨fun word blanks token h hpiece => ?_, fun letters h hpiece => ?_⟩⟩
  · have htexts : RedactionRules.default.patterns =
        ["(?i)bearer\\s+[A-Za-z0-9._\\-]+", "sk-[A-Za-z0-9]\x7b8,\x7d"] := rfl
    rw [htexts]
    intro text htext
    rcases List.mem_pair.mp htext with rfl | rfl
    · exact ⟨bearerToken, read?_bearerToken, hpattern _ (by simp)⟩
    · exact ⟨secretKey, read?_secretKey, hpattern _ (by simp)⟩
  · exact hfree bearerToken (by simp) v s hs _ hpiece
      (mem_bearerToken.mpr ⟨word, blanks, token, h, rfl⟩)
  · exact hfree secretKey (by simp) v s hs _ hpiece (mem_secretKey.mpr ⟨letters, h, rfl⟩)

/-- A report with a bearer token whose token is a key, and a key in the query of an address. -/
def leakyReport : Json :=
  .object [("message", .text "BEARER \tsk-abcdefgh and bearer"),
    ("url", .text "/v1?key=bearer&q=sk-0123456789")]

theorem redact_default_leaky :
    ((ofRules RedactionRules.default).redact leakyReport).HasText "<redacted> and bearer" ∧
      ((ofRules RedactionRules.default).redact leakyReport).HasText
        "/v1?key=<redacted>&q=<redacted>" ∧
      ∀ letters, IsSecretKey letters →
        ¬ "sk-".toList ++ letters <:+: "/v1?key=<redacted>&q=<redacted>".toList := by
  have hredacted : ∀ key s, ((scrubber.redact leakyReport).get? key).bind Json.text? = some s →
      ((ofRules RedactionRules.default).redact leakyReport).HasText s := by
    rw [ofRules_eq ofRules?_default]
    exact fun key s h => Json.hasText_of_get? h
  have hurl := hredacted "url" "/v1?key=<redacted>&q=<redacted>" (by decide +kernel)
  exact ⟨hredacted "message" _ (by decide +kernel), hurl, (redact_default.2 leakyReport _ hurl).2⟩

end Redactor

end Turnstile
