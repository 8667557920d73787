import Turnstile.Proofs.Json.Places
import Turnstile.Proofs.Pattern.Language
import Turnstile.Proofs.Redaction.Places
import Turnstile.Proofs.Text.Pieces

/-!
# What replacing leaves no match of

Each pattern is gone over once.  That none of its matches is left, and that none is made by what is
replaced later, rests on the replacement: its first and its last character occur in no match.  So
what is left and is a match reaches into no replacement, but begins at a character that was kept,
and stood there before.  There it was no match of the pattern that was replaced.

* `Pattern.Separates` — a replacement that keeps matches apart;
* `Pattern.Separates.beginsAtKept` — a match that is left began at a character that was kept;
* `Pattern.freeOf_foldl_replaceAll` — patterns replaced one after the other have no match left;
* `Redactor.infix_of_redactQuery` — nothing is made a match when queries are redacted;
* `Redactor.freeOf_of_hasText` — no text of a redacted document has a match of a pattern in it.
-/

set_option autoImplicit false

namespace Turnstile

namespace Pattern

/-- No text of the pattern stands in `cs`. -/
def FreeOf (p : Pattern) (cs : List Char) : Prop := ∀ m, m <:+: cs → m ∉ p.language

/-- A replacement that keeps apart what stands on its two sides: the characters at its ends occur
in no text of the pattern, and no such text stands in it. -/
structure Separates (p : Pattern) (replacement : List Char) : Prop where
  ne_nil : replacement ≠ []
  head : ∀ m ∈ p.language, replacement.head ne_nil ∉ m
  last : ∀ m ∈ p.language, replacement.getLast ne_nil ∉ m
  free : p.FreeOf replacement

/-- A text begins, somewhere, at a character that is kept when `q` is replaced. -/
def BeginsAtKept (q : Pattern) (cs m : List Char) : Prop :=
  ∃ before t, t <:+ cs ∧ m <+: t ∧
    (q.matchLength? before t = none ∨ q.matchLength? before t = some 0)

variable {p q : Pattern} {replacement cs out : List Char} {before : Option Char} {free : Bool}

theorem BeginsAtKept.of_suffix {t m : List Char} (h : BeginsAtKept q t m) (ht : t <:+ cs) :
    BeginsAtKept q cs m := by
  obtain ⟨before, u, hu, hm, hmatch⟩ := h
  exact ⟨before, u, hu.trans ht, hm, hmatch⟩

/-- Without the first character of the replacement nothing begins where a replacement stands. -/
theorem eq_nil_of_prefix_replacement {m rest : List Char} (hne : replacement ≠ [])
    (hm : m <+: replacement ++ rest) (hhead : replacement.head hne ∉ m) : m = [] := by
  obtain ⟨c, r, rfl⟩ := List.exists_cons_of_ne_nil hne
  cases m with
  | nil => rfl
  | cons d m =>
    obtain ⟨rfl, -⟩ := List.cons_prefix_cons.mp hm
    exact absurd List.mem_cons_self hhead

/-- What begins at a place and does not reach into a replacement stood there before. -/
theorem prefix_of_replaced (h : Replaced q replacement before free cs out)
    (hne : replacement ≠ []) {m : List Char} (hm : m <+: out) (hhead : replacement.head hne ∉ m) :
    m <+: cs := by
  induction h generalizing m with
  | done h => exact hm
  | emptyLast h =>
    rw [← List.append_nil replacement] at hm
    exact eq_nil_of_prefix_replacement hne hm hhead ▸ List.nil_prefix
  | keep h hrest ih =>
    cases m with
    | nil => exact List.nil_prefix
    | cons d m =>
      obtain ⟨rfl, htail⟩ := List.cons_prefix_cons.mp hm
      exact List.cons_prefix_cons.mpr
        ⟨rfl, ih htail fun hmem => hhead (List.mem_cons_of_mem _ hmem)⟩
  | empty h hrest ih => exact eq_nil_of_prefix_replacement hne hm hhead ▸ List.nil_prefix
  | found h hrest ih => exact eq_nil_of_prefix_replacement hne hm hhead ▸ List.nil_prefix

namespace Separates

theorem nil_not_mem (hsep : p.Separates replacement) : [] ∉ p.language :=
  hsep.free [] List.nil_infix

/-- A text of the pattern does not reach into a replacement from behind. -/
theorem infix_of_append (hsep : p.Separates replacement) {m : List Char} (hm : m ∈ p.language)
    (hin : m <:+: replacement ++ cs) : m <:+: cs := by
  have hcut : replacement ++ cs =
      replacement.dropLast ++ replacement.getLast hsep.ne_nil :: cs := by
    rw [List.append_cons, List.dropLast_append_getLast]
  rw [hcut] at hin
  rcases Text.infix_of_not_mem hin (hsep.last m hm) with hinside | hbehind
  · exact absurd hm (hsep.free m (hinside.trans (List.dropLast_prefix _).isInfix))
  · exact hbehind

/-- What begins at a kept character began there before; what does not is left of the rest. -/
theorem beginsAtKept_cons (hsep : p.Separates replacement) {m : List Char} (hm : m ∈ p.language)
    {before' : Option Char} {c : Char} (hrest : Replaced q replacement before free cs out)
    (hkept : q.matchLength? before' (c :: cs) = none ∨ q.matchLength? before' (c :: cs) = some 0)
    (hlater : m <:+: out → BeginsAtKept q cs m) (hin : m <:+: c :: out) :
    BeginsAtKept q (c :: cs) m := by
  rcases List.infix_cons_iff.mp hin with hbegins | hin
  · cases m with
    | nil => exact absurd hm hsep.nil_not_mem
    | cons d m =>
      obtain ⟨rfl, htail⟩ := List.cons_prefix_cons.mp hbegins
      have hstood : m <+: cs := prefix_of_replaced hrest hsep.ne_nil htail
        fun hmem => hsep.head _ hm (List.mem_cons_of_mem _ hmem)
      exact ⟨before', d :: cs, List.suffix_rfl, List.cons_prefix_cons.mpr ⟨rfl, hstood⟩, hkept⟩
  · exact (hlater hin).of_suffix (List.suffix_cons c cs)

/-- A text of the pattern that is left began, before, at a character that was kept. -/
theorem beginsAtKept (hsep : p.Separates replacement)
    (h : Replaced q replacement before free cs out) {m : List Char} (hm : m ∈ p.language)
    (hin : m <:+: out) : BeginsAtKept q cs m := by
  induction h with
  | done h => exact absurd (List.infix_nil.mp hin ▸ hm) hsep.nil_not_mem
  | emptyLast h => exact absurd hm (hsep.free m hin)
  | keep h hrest ih => exact hsep.beginsAtKept_cons hm hrest (h.imp_right And.right) ih hin
  | empty h hrest ih =>
    exact hsep.beginsAtKept_cons hm hrest (.inr h) ih (hsep.infix_of_append hm hin)
  | found h hrest ih => exact (ih (hsep.infix_of_append hm hin)).of_suffix (List.suffix_append _ _)

/-- Replacing, of whatever pattern, makes no new text of this one. -/
theorem infix_of_replaceAll (hsep : p.Separates replacement) (q : Pattern) {m : List Char}
    (hm : m ∈ p.language) (hin : m <:+: q.replaceAll replacement cs) : m <:+: cs := by
  obtain ⟨before, t, ht, hbegins, -⟩ :=
    hsep.beginsAtKept (replaceAll_replaced q replacement cs) hm hin
  exact hbegins.isInfix.trans ht.isInfix

end Separates

/-- A pattern that was replaced has no match left. -/
theorem freeOf_replaceAll_self (hp : p.plain = true) (hsep : p.Separates replacement)
    (cs : List Char) : p.FreeOf (p.replaceAll replacement cs) := by
  intro m hin hm
  obtain ⟨before, t, -, hbegins, hnone | hzero⟩ :=
    hsep.beginsAtKept (replaceAll_replaced p replacement cs) hm hin
  · exact not_mem_language_of_matchLength? hnone hbegins hm
  · exact hsep.nil_not_mem (take_mem_of_matchLength? hp hzero)

/-- A text that is free of a pattern stays so when another one is replaced in it. -/
theorem FreeOf.replaceAll (h : p.FreeOf cs) (hsep : p.Separates replacement) (q : Pattern) :
    p.FreeOf (q.replaceAll replacement cs) :=
  fun m hin hm => h m (hsep.infix_of_replaceAll q hm hin) hm

theorem FreeOf.foldl_replaceAll (h : p.FreeOf cs) (hsep : p.Separates replacement)
    (ps : List Pattern) :
    p.FreeOf (ps.foldl (fun cs q => q.replaceAll replacement cs) cs) := by
  induction ps generalizing cs with
  | nil => exact h
  | cons q ps ih => exact ih (h.replaceAll hsep q)

/-- Patterns that were replaced one after the other have no match left, whichever came last. -/
theorem freeOf_foldl_replaceAll {ps : List Pattern}
    (hps : ∀ q ∈ ps, q.plain = true ∧ q.Separates replacement) (hp : p ∈ ps) (cs : List Char) :
    p.FreeOf (ps.foldl (fun cs q => q.replaceAll replacement cs) cs) := by
  obtain ⟨hplain, hsep⟩ := hps p hp
  obtain ⟨front, rest, rfl⟩ := List.append_of_mem hp
  rw [List.foldl_append, List.foldl_cons]
  exact (freeOf_replaceAll_self hplain hsep _).foldl_replaceAll hsep rest

/-- A text is free of a plain pattern exactly if the pattern matches nowhere in it. -/
theorem freeOf_iff_matchLength? (hp : p.plain = true) :
    p.FreeOf cs ↔ ∀ before t, t <:+ cs → p.matchLength? before t = none := by
  constructor
  · exact fun h before t ht => (matchLength?_eq_none_iff hp).mpr
      fun m hm => h m (hm.isInfix.trans ht.isInfix)
  · intro h m hm
    obtain ⟨t, hstarts, hsuffix⟩ := List.infix_iff_prefix_suffix.mp hm
    exact not_mem_language_of_matchLength? (h none t hsuffix) hstarts

end Pattern

namespace Redactor

/-- The patterns are these, and the replacement keeps the matches of each apart. -/
structure KeepsApart (r : Redactor) (ps : List Pattern) : Prop where
  patterns : r.patterns = ps.map Pattern.finder
  separates : ∀ p ∈ ps, p.plain = true ∧ p.Separates r.replacement.toList

variable {r : Redactor} {ps : List Pattern} {p : Pattern}

section Queries

variable {names : List String} {replacement : String} {m cs : List Char}
  (hreplacement : ¬ m <:+: replacement.toList)
  (hmarks : ∀ c ∈ ['?', '#', '&', '='], c ∉ m)

include hreplacement hmarks

theorem infix_of_redactPair (h : m <:+: redactPair names replacement cs) : m <:+: cs := by
  have hmasked : ∀ {name : List Char}, name <:+: cs →
      m <:+: (if names.contains (normalName (String.ofList name)) = true then
        name ++ '=' :: replacement.toList else cs) → m <:+: cs := by
    intro name hname hin
    split at hin
    · rcases Text.infix_of_not_mem hin (hmarks '=' (by decide)) with hin | hin
      · exact hin.trans hname
      · exact absurd hin hreplacement
    · exact hin
  unfold redactPair at h
  cases hcut : Text.cutAt '=' cs with
  | none =>
    rw [hcut] at h
    exact hmasked List.infix_rfl h
  | some cut =>
    rw [hcut] at h
    have hcs := (Text.cutAt_eq_some_iff.mp hcut).1
    exact hmasked (hcs ▸ (List.prefix_append _ _).isInfix) h

theorem infix_of_redactPairs (h : m <:+: redactPairs names replacement cs) : m <:+: cs := by
  have hne : m ≠ [] := fun hnil => hreplacement (hnil ▸ List.nil_infix)
  have hredacted : ∀ {query : List Char},
      m <:+: Text.joinWith ['&'] ((Text.pieces '&' query).map (redactPair names replacement)) →
        m <:+: query := by
    intro query hin
    obtain ⟨_, hmapped, hin⟩ := Text.exists_infix_of_joinWith hne hin (hmarks '&' (by decide))
    obtain ⟨piece, hpiece, rfl⟩ := List.mem_map.mp hmapped
    rw [← Text.joinWith_pieces '&' query]
    exact (infix_of_redactPair hreplacement hmarks hin).trans (Text.piece_joinWith hpiece)
  unfold redactPairs at h
  dsimp only at h
  split at h
  · rename_i hcut
    obtain ⟨rfl, -⟩ := Text.cutAt_eq_some_iff.mp hcut
    rcases Text.infix_of_not_mem h (hmarks '#' (by decide)) with hin | hin
    · exact (hredacted hin).trans (List.prefix_append _ _).isInfix
    · exact hin.trans ((List.suffix_cons _ _).trans (List.suffix_append _ _)).isInfix
  · exact hredacted h

/-- A piece that has in it no character at which queries are cut stood there before the query was
redacted. -/
theorem infix_of_redactQuery (h : m <:+: redactQuery names replacement cs) : m <:+: cs := by
  unfold redactQuery at h
  split at h
  · rename_i hcut
    obtain ⟨rfl, -⟩ := Text.cutAt_eq_some_iff.mp hcut
    rcases Text.infix_of_not_mem h (hmarks '?' (by decide)) with hin | hin
    · exact hin.trans (List.prefix_append _ _).isInfix
    · exact (infix_of_redactPairs hreplacement hmarks hin).trans
        ((List.suffix_cons _ _).trans (List.suffix_append _ _)).isInfix
  · split at h
    · exact infix_of_redactPairs hreplacement hmarks h
    · exact h

end Queries

theorem freeOf_redactText (hr : r.KeepsApart ps) (hp : p ∈ ps) (inQuery : Bool) (cs : List Char) :
    p.FreeOf (r.redactText inQuery cs) := by
  unfold redactText
  rw [hr.patterns, List.foldl_map]
  exact Pattern.freeOf_foldl_replaceAll hr.separates hp _

/-- No text of a redacted value has a match in it. -/
theorem freeOf_of_valueAt? (hr : r.KeepsApart ps) (hp : p ∈ ps) {way : List Json.PathStep}
    {inQuery : Bool} {v : Json} {s : String}
    (h : (r.redactValue inQuery v).valueAt? way = some (.text s)) : p.FreeOf s.toList := by
  induction way generalizing inQuery v with
  | nil =>
    cases v with
    | text t =>
      cases h
      rw [String.toList_ofList]
      exact freeOf_redactText hr hp inQuery t.toList
    | _ => cases h
  | cons step way ih =>
    cases step with
    | member key =>
      cases v with
      | object ms =>
        rw [redactValue, Json.valueAt?, find?_redactMembers] at h
        cases hfind : Json.find? key ms with
        | none =>
          rw [hfind] at h
          cases h
        | some w =>
          rw [hfind, Option.map_some] at h
          dsimp only at h
          unfold redactMember at h
          split at h
          · -- Behind a replacement there is nothing.
            cases way with
            | nil =>
              cases h
              exact (hr.separates p hp).2.free
            | cons step way => cases step <;> cases h
          · exact ih h
      | _ => cases h
    | item i =>
      cases v with
      | array xs =>
        rw [redactValue, Json.valueAt?, redactItems_eq, List.getElem?_map] at h
        cases hitem : xs[i]? with
        | none =>
          rw [hitem] at h
          cases h
        | some w =>
          rw [hitem, Option.map_some] at h
          exact ih h
      | _ => cases h

/-- No text of a redacted document has a match in it. -/
theorem freeOf_of_hasText (hr : r.KeepsApart ps) (hp : p ∈ ps) {v : Json} {s : String}
    (h : (r.redact v).HasText s) : p.FreeOf s.toList := by
  obtain ⟨way, hway⟩ := h
  exact freeOf_of_valueAt? hr hp hway

end Redactor

end Turnstile
