import Mathlib.Data.List.Infix
import Turnstile.Redaction
import Turnstile.Proofs.Text.Pieces

/-!
# Queries that are redacted

Rules that can be applied are applied as they were configured: names are compared trimmed and in
lower case, and the patterns are those that were read, in their order.

A bare query is the text of its parameters.  Redacting it replaces the values of those whose names
are listed and leaves all others as they are, unless there is a blank in it: such a text is taken
for prose and left alone.  Of a text with a question mark in it what stands up to the first one is
left alone, even where it is a query and the question mark stands in a value.

* `ofRules?_ok` — what becomes of rules that can be applied;
* `queryText_params`, `params_queryText` — a query and its parameters;
* `params_redactedBy_mark` — a query with a question mark in a value;
* `redactQuery_params` — what becomes of a bare query.
-/

set_option autoImplicit false

namespace Turnstile

/-- A list of names has the key. Names are compared without the white space around them and without
regard to the case of ASCII letters, and blank ones do not count. -/
def Listed (names : List String) (key : String) : Prop :=
  ∃ name ∈ names, Redactor.normalName name ≠ "" ∧
    Redactor.normalName key = Redactor.normalName name

namespace Redactor

/-! ## Rules -/

theorem contains_normalNames {names : List String} {key : String} :
    (normalNames names).contains (normalName key) = true ↔ Listed names key := by
  unfold normalNames Listed
  rw [List.contains_iff_mem, List.mem_filter, List.mem_map, decide_eq_true_iff]
  constructor
  · rintro ⟨⟨name, hmem, heq⟩, hne⟩
    rw [← heq] at hne
    exact ⟨name, hmem, hne, heq.symm⟩
  · rintro ⟨name, hmem, hne, heq⟩
    rw [← heq] at hne
    exact ⟨⟨name, hmem, heq.symm⟩, hne⟩

instance (names : List String) (key : String) : Decidable (Listed names key) :=
  decidable_of_iff _ contains_normalNames

/-- The patterns of rules, without blank ones and without the white space around them. -/
def patternTexts (patterns : List String) : List String :=
  (patterns.map Text.trim).filter fun text => text ≠ ""

theorem readPatterns_ok {engine : PatternEngine} :
    ∀ {texts : List String} {ps : List Finder}, readPatterns engine texts = .ok ps →
      List.Forall₂ (fun text p => engine text = some p) (patternTexts texts) ps
  | [], ps, h => by
    cases h
    exact .nil
  | text :: texts, ps, h => by
    rw [readPatterns] at h
    unfold patternTexts
    rw [List.map_cons, List.filter_cons]
    split at h
    · rename_i hblank
      rw [if_neg (by simp [hblank])]
      exact readPatterns_ok h
    · rename_i hne
      rw [if_pos (by simp [hne])]
      split at h
      · cases h
      · rename_i p hp
        split at h
        · cases h
        · rename_i ps' hps
          cases h
          exact .cons hp (readPatterns_ok hps)

/-- Each pattern made ready was read from one of the texts. -/
theorem exists_of_mem {engine : PatternEngine} {p : Finder} :
    ∀ {texts : List String} {ps : List Finder},
      List.Forall₂ (fun text p => engine text = some p) texts ps → p ∈ ps →
        ∃ text ∈ texts, engine text = some p
  | _, _, .nil, hp => nomatch hp
  | _, _, .cons hread hrest, hp => by
    rcases List.mem_cons.mp hp with rfl | hp
    · exact ⟨_, List.mem_cons_self, hread⟩
    · obtain ⟨text, htext, hread⟩ := exists_of_mem hrest hp
      exact ⟨text, List.mem_cons_of_mem _ htext, hread⟩

/-- What becomes of rules that can be applied. -/
theorem ofRules?_ok {rules : RedactionRules} {engine : PatternEngine} {r : Redactor}
    (h : ofRules? rules engine = .ok r) :
    r.replacement = Text.trim rules.replacement ∧ r.keyNames = normalNames rules.keyNames ∧
      r.queryParams = normalNames rules.queryParams ∧ r.queryKeys = normalNames rules.queryKeys ∧
      List.Forall₂ (fun text p => engine text = some p) (patternTexts rules.patterns)
        r.patterns := by
  unfold ofRules? at h
  dsimp only at h
  split at h
  · cases h
  · split at h
    · cases h
    · rename_i ps hps
      cases h
      exact ⟨rfl, rfl, rfl, rfl, readPatterns_ok hps⟩

/-! ## Parameters -/

/-- A parameter of a query. -/
structure Param where
  name : List Char
  value : Option (List Char)
  deriving DecidableEq, Repr

namespace Param

/-- A parameter as text. -/
def text (p : Param) : List Char :=
  match p.value with
  | some value => p.name ++ '=' :: value
  | none => p.name

/-- The parameter that a text is, its name up to the first equals sign. -/
def read (piece : List Char) : Param :=
  match Text.cutAt '=' piece with
  | some (name, value) => ⟨name, some value⟩
  | none => ⟨piece, none⟩

/-- A parameter redacted: the replacement for its value, if its name is listed. -/
def masked (rules : RedactionRules) (p : Param) : Param :=
  if Listed rules.queryParams (String.ofList p.name) then
    { p with value := some (Text.trim rules.replacement).toList }
  else p

theorem text_read (piece : List Char) : (read piece).text = piece := by
  unfold read
  split
  · rename_i hcut
    exact (Text.cutAt_eq_some_iff.mp hcut).1.symm
  · rfl

/-- The name of a parameter that was read ends before the first equals sign. -/
theorem name_read (piece : List Char) : '=' ∉ (read piece).name := by
  unfold read
  split
  · rename_i hcut
    exact (Text.cutAt_eq_some_iff.mp hcut).2
  · rename_i hcut
    exact Text.cutAt_eq_none_iff.mp hcut

theorem read_text {p : Param} (h : '=' ∉ p.name) : read p.text = p := by
  obtain ⟨name, value⟩ := p
  unfold read text
  cases value with
  | some value => rw [Text.cutAt_eq_some_iff.mpr ⟨rfl, h⟩]
  | none => rw [Text.cutAt_eq_none_iff.mpr h]

theorem name_masked (rules : RedactionRules) (p : Param) : (p.masked rules).name = p.name := by
  unfold masked
  split <;> rfl

theorem not_mem_text_masked {rules : RedactionRules} {p : Param}
    (hamp : '&' ∉ (Text.trim rules.replacement).toList) (h : '&' ∉ p.text) :
    '&' ∉ (p.masked rules).text := by
  unfold masked
  split
  · have hname : '&' ∉ p.name := by
      intro hmem
      unfold text at h
      split at h
      · exact h (List.mem_append_left _ hmem)
      · exact h hmem
    simp [text, hname, hamp]
  · exact h

end Param

/-- The parameters of a bare query. -/
def params (query : List Char) : List Param := (Text.pieces '&' query).map Param.read

/-- The bare query of parameters. -/
def queryText (ps : List Param) : List Char := Text.joinWith ['&'] (ps.map Param.text)

/-- A query is the text of its parameters. -/
theorem queryText_params (query : List Char) : queryText (params query) = query := by
  have hpieces : (params query).map Param.text = Text.pieces '&' query := by
    unfold params
    rw [List.map_map]
    exact (List.map_congr_left fun piece _ => Param.text_read piece).trans (List.map_id' _)
  unfold queryText
  rw [hpieces, Text.joinWith_pieces]

/-- Pieces are read back from their text, as the parameters that they are. -/
theorem params_cons {piece : List Char} {ps : List Param} (hpiece : '&' ∉ piece)
    (hname : ∀ p ∈ ps, '=' ∉ p.name) (hamp : ∀ p ∈ ps, '&' ∉ p.text) :
    params (Text.joinWith ['&'] (piece :: ps.map Param.text)) = Param.read piece :: ps := by
  have hpieces := @Text.pieces_joinWith '&' (piece :: ps.map Param.text) (List.cons_ne_nil _ _)
    (List.forall_mem_cons.mpr ⟨fun c hc heq => hpiece (heq ▸ hc),
      List.forall_mem_map.mpr fun p hp c hc heq => hamp p hp (heq ▸ hc)⟩)
  unfold params
  rw [hpieces, List.map_cons, List.map_map]
  exact congrArg _
    ((List.map_congr_left fun p hp => Param.read_text (hname p hp)).trans (List.map_id' ps))

/-- Parameters are read back from their text. -/
theorem params_queryText {ps : List Param} (hne : ps ≠ []) (hname : ∀ p ∈ ps, '=' ∉ p.name)
    (hamp : ∀ p ∈ ps, '&' ∉ p.text) : params (queryText ps) = ps := by
  obtain ⟨p, ps, rfl⟩ := List.exists_cons_of_ne_nil hne
  rw [List.forall_mem_cons] at hname hamp
  unfold queryText
  rw [List.map_cons, params_cons hamp.1 hname.2 hamp.2, Param.read_text hname.1]

/-- The name of a parameter of a query ends before the first equals sign, and its text before the
first `&`. -/
theorem of_mem_params {p : Param} {query : List Char} (h : p ∈ params query) :
    '=' ∉ p.name ∧ '&' ∉ p.text := by
  obtain ⟨piece, hpiece, rfl⟩ := List.mem_map.mp h
  refine ⟨Param.name_read piece, fun hmem => ?_⟩
  rw [Param.text_read] at hmem
  exact Text.ne_of_mem_pieces piece hpiece _ hmem rfl

/-! ## Queries -/

variable {rules : RedactionRules} {query : List Char}

/-- A query redacted by rules. -/
abbrev redactedBy (rules : RedactionRules) (query : List Char) : List Char :=
  redactQuery (normalNames rules.queryParams) (Text.trim rules.replacement) query

/-- A piece of a query is redacted as the parameter that it is. -/
theorem redactPair_eq (rules : RedactionRules) (piece : List Char) :
    redactPair (normalNames rules.queryParams) (Text.trim rules.replacement) piece =
      ((Param.read piece).masked rules).text := by
  have hpair : redactPair (normalNames rules.queryParams) (Text.trim rules.replacement) piece =
      if (normalNames rules.queryParams).contains
          (normalName (String.ofList (Param.read piece).name)) then
        (Param.read piece).name ++ '=' :: (Text.trim rules.replacement).toList
      else piece := by
    unfold redactPair Param.read
    cases Text.cutAt '=' piece <;> rfl
  rw [hpair, Param.masked]
  by_cases hlisted : Listed rules.queryParams (String.ofList (Param.read piece).name)
  · rw [if_pos (contains_normalNames.mpr hlisted), if_pos hlisted]
    rfl
  · rw [if_neg (mt contains_normalNames.mp hlisted), if_neg hlisted, Param.text_read]

/-- The parameters of a query without a fragment are redacted one by one. -/
theorem redactPairs_eq (hhash : '#' ∉ query) :
    redactPairs (normalNames rules.queryParams) (Text.trim rules.replacement) query =
      queryText ((params query).map (Param.masked rules)) := by
  unfold redactPairs queryText params
  rw [Text.cutAt_eq_none_iff.mpr hhash, List.map_map, List.map_map]
  exact congrArg (Text.joinWith ['&'])
    (List.map_congr_left fun piece _ => redactPair_eq rules piece)

/-- The parameters of a redacted query are those of the query, redacted. -/
theorem params_masked (hamp : '&' ∉ (Text.trim rules.replacement).toList) (query : List Char) :
    params (queryText ((params query).map (Param.masked rules))) =
      (params query).map (Param.masked rules) := by
  refine params_queryText (by simp [params, Text.pieces_ne_nil]) ?_ ?_
  · rw [List.forall_mem_map]
    exact fun p hp => Param.name_masked rules p ▸ (of_mem_params hp).1
  · rw [List.forall_mem_map]
    exact fun p hp => Param.not_mem_text_masked hamp (of_mem_params hp).2

/-- Only what stands behind the first question mark is redacted, as a query of its own. -/
theorem redactedBy_append {front rest : List Char} (hfront : '?' ∉ front) (hhash : '#' ∉ rest) :
    redactedBy rules (front ++ '?' :: rest) =
      front ++ '?' :: queryText ((params rest).map (Param.masked rules)) := by
  unfold redactedBy redactQuery
  rw [Text.cutAt_eq_some_iff.mpr ⟨rfl, hfront⟩]
  dsimp only
  rw [redactPairs_eq hhash]

/-- A query is cut at a question mark in one of its values. -/
theorem queryText_mark (before after : List Param) (name value rest : List Char) :
    queryText (before ++ ⟨name, some (value ++ '?' :: rest)⟩ :: after) =
      queryText (before ++ [⟨name, some value⟩]) ++
        '?' :: Text.joinWith ['&'] (rest :: after.map Param.text) := by
  have htext : Param.text ⟨name, some (value ++ '?' :: rest)⟩ =
      Param.text ⟨name, some value⟩ ++ '?' :: rest := by simp [Param.text]
  have hmark : Text.joinWith ['&'] (('?' :: rest) :: after.map Param.text) =
      '?' :: Text.joinWith ['&'] (rest :: after.map Param.text) :=
    Text.joinWith_append_cons ['&'] ['?'] rest [] _
  unfold queryText
  rw [List.map_append, List.map_append, List.map_cons, List.map_cons, List.map_nil, htext,
    Text.joinWith_append_cons, hmark]

theorem not_mem_queryText {c : Char} {ps : List Param} (hc : c ≠ '&') (h : ∀ p ∈ ps, c ∉ p.text) :
    c ∉ queryText ps := by
  intro hmem
  obtain ⟨piece, hpiece, hin⟩ := Text.exists_infix_of_joinWith (List.cons_ne_nil c [])
    ((List.singleton_infix_iff c _).mpr hmem) (by simpa using hc.symm)
  obtain ⟨p, hp, rfl⟩ := List.mem_map.mp hpiece
  exact h p hp ((List.singleton_infix_iff c _).mp hin)

/-- Of a query with a question mark in a value the parameters before that one stay as they are, and
behind the question mark a parameter of its own begins. -/
theorem params_redactedBy_mark (hamp : '&' ∉ (Text.trim rules.replacement).toList)
    (hhash : '#' ∉ query) {before after : List Param} {name value rest : List Char}
    (hquery : params query = before ++ ⟨name, some (value ++ '?' :: rest)⟩ :: after)
    (hbefore : ∀ p ∈ before, '?' ∉ p.text) (hname : '?' ∉ name) (hvalue : '?' ∉ value) :
    params (redactedBy rules query) =
      before ++ ⟨name, some (value ++ '?' :: ((Param.read rest).masked rules).text)⟩ ::
        after.map (Param.masked rules) := by
  have hparam := fun p (hp : p ∈ before ++ ⟨name, some (value ++ '?' :: rest)⟩ :: after) =>
    of_mem_params (hquery ▸ hp)
  obtain ⟨hparamBefore, hparam⟩ := List.forall_mem_append.mp hparam
  obtain ⟨⟨hequals, hand⟩, hparamAfter⟩ := List.forall_mem_cons.mp hparam
  obtain ⟨hnameand, hvalueand, hrestand⟩ : '&' ∉ name ∧ '&' ∉ value ∧ '&' ∉ rest := by
    simpa [Param.text] using hand
  have hafter := params_cons hrestand (fun p hp => (hparamAfter p hp).1)
    fun p hp => (hparamAfter p hp).2
  have hfront : '?' ∉ queryText (before ++ [⟨name, some value⟩]) := by
    refine not_mem_queryText (by decide) (List.forall_mem_append.mpr ⟨hbefore, ?_⟩)
    rw [List.forall_mem_singleton]
    simp [Param.text, hname, hvalue]
  have htext := queryText_params query
  rw [hquery, queryText_mark] at htext
  have hhash' : '#' ∉ Text.joinWith ['&'] (rest :: after.map Param.text) := fun hmem =>
    hhash (htext ▸ List.mem_append_right _ (List.mem_cons_of_mem _ hmem))
  have hredacted : redactedBy rules query = queryText
      (before ++ ⟨name, some (value ++ '?' :: ((Param.read rest).masked rules).text)⟩ ::
        after.map (Param.masked rules)) := by
    rw [← htext, redactedBy_append hfront hhash', hafter, queryText_mark]
    rfl
  rw [hredacted]
  have hmaskedand : '&' ∉ ((Param.read rest).masked rules).text :=
    Param.not_mem_text_masked hamp (by rwa [Param.text_read])
  refine params_queryText (by simp) ?_ ?_
  · refine List.forall_mem_append.mpr ⟨fun p hp => (hparamBefore p hp).1,
      List.forall_mem_cons.mpr ⟨hequals, List.forall_mem_map.mpr fun p hp => ?_⟩⟩
    exact Param.name_masked rules p ▸ (hparamAfter p hp).1
  · refine List.forall_mem_append.mpr ⟨fun p hp => (hparamBefore p hp).2,
      List.forall_mem_cons.mpr ⟨?_, List.forall_mem_map.mpr fun p hp => ?_⟩⟩
    · generalize ((Param.read rest).masked rules).text = tail at hmaskedand
      simp [Param.text, hnameand, hvalueand, hmaskedand]
    · exact Param.not_mem_text_masked hamp (hparamAfter p hp).2

/-- A query is redacted by the rules, whatever engine reads the patterns. A query without blanks has
its parameters redacted, and nothing else in it is touched. What has a blank in it is taken for
prose and stays as it is. Of a query with a question mark in it only what stands behind the first
one is redacted, as a query of its own: the parameters before the one in whose value it stands stay
as they are, whatever their names, and so does that one up to the question mark. -/
theorem redactQuery_params (hamp : '&' ∉ (Text.trim rules.replacement).toList) (heq : '=' ∈ query)
    (hhash : '#' ∉ query) :
    (∀ engine r, ofRules? rules engine = .ok r →
      redactQuery r.queryParams r.replacement query = redactedBy rules query) ∧
      ('?' ∉ query → ' ' ∉ query →
        redactedBy rules query = queryText ((params query).map (Param.masked rules)) ∧
          params (redactedBy rules query) = (params query).map (Param.masked rules)) ∧
      ('?' ∉ query → ' ' ∈ query → redactedBy rules query = query) ∧
      (∀ front rest, query = front ++ '?' :: rest → '?' ∉ front →
        redactedBy rules query =
          front ++ '?' :: queryText ((params rest).map (Param.masked rules))) ∧
      ∀ before name value rest after,
        params query = before ++ ⟨name, some (value ++ '?' :: rest)⟩ :: after →
        (∀ p ∈ before, '?' ∉ p.text) → '?' ∉ name → '?' ∉ value →
        params (redactedBy rules query) =
          before ++ ⟨name, some (value ++ '?' :: ((Param.read rest).masked rules).text)⟩ ::
            after.map (Param.masked rules) := by
  have hequals : query.contains '=' = true := List.contains_iff_mem.mpr heq
  have hbare : '?' ∉ query → redactedBy rules query =
      if query.contains ' ' then query
      else redactPairs (normalNames rules.queryParams) (Text.trim rules.replacement) query := by
    intro hmark
    unfold redactedBy redactQuery
    rw [Text.cutAt_eq_none_iff.mpr hmark]
    dsimp only
    rw [hequals, Bool.true_and]
    cases query.contains ' ' <;> rfl
  refine ⟨fun engine r h => ?_, fun hmark hblank => ?_, fun hmark hblank => ?_,
    fun front rest hquery hfront => ?_, fun before name value rest after hquery hbefore hname =>
      params_redactedBy_mark hamp hhash hquery hbefore hname⟩
  · obtain ⟨hreplacement, -, hparams, -⟩ := ofRules?_ok h
    rw [hparams, hreplacement]
  · have htext : redactedBy rules query = queryText ((params query).map (Param.masked rules)) := by
      rw [hbare hmark, if_neg (mt List.contains_iff_mem.mp hblank), redactPairs_eq hhash]
    exact ⟨htext, htext ▸ params_masked hamp query⟩
  · rw [hbare hmark, if_pos (List.contains_iff_mem.mpr hblank)]
  · subst hquery
    exact redactedBy_append hfront fun hmem =>
      hhash (List.mem_append_right _ (List.mem_cons_of_mem _ hmem))

/-- Rules with a name of each kind. -/
def maskingRules : RedactionRules := ⟨"***", ["token"], ["api_key"], ["query"], ["sk-[0-9]+"]⟩

/-- The pattern of the rules. -/
def maskingPattern : Pattern :=
  .seq (.set (.single 's')) (.seq (.set (.single 'k')) (.seq (.set (.single '-'))
    (.seq (.rep (.set (.union .none (.range '0' '9'))) 1 none true) .empty)))

/-- The rules made ready. -/
def masking : Redactor := ⟨"***", ["token"], ["api_key"], ["query"], [maskingPattern.finder]⟩

theorem ofRules?_maskingRules : ofRules? maskingRules = .ok masking := by
  have htrim : Text.trim "***" = "***" := by decide +kernel
  have hkeyNames : normalNames ["token"] = ["token"] := by decide +kernel
  have hparams : normalNames ["api_key"] = ["api_key"] := by decide +kernel
  have hqueryKeys : normalNames ["query"] = ["query"] := by decide +kernel
  have hpattern : Text.trim "sk-[0-9]+" = "sk-[0-9]+" := by decide +kernel
  have hread : Pattern.read? "sk-[0-9]+" = some maskingPattern := by decide +kernel
  have hpatterns : readPatterns Pattern.engine ["sk-[0-9]+"] = .ok [maskingPattern.finder] := by
    unfold readPatterns Pattern.engine
    rw [hpattern, if_neg (by decide), hread]
    rfl
  simp [ofRules?, maskingRules, masking, htrim, hkeyNames, hparams, hqueryKeys, hpatterns]

theorem redactQuery_params_key :
    redactedBy maskingRules "api_key=abc&x=1".toList =
        queryText ((params "api_key=abc&x=1".toList).map (Param.masked maskingRules)) ∧
      params (redactedBy maskingRules "api_key=abc&x=1".toList) =
        (params "api_key=abc&x=1".toList).map (Param.masked maskingRules) :=
  (redactQuery_params (by decide +kernel) (by decide +kernel) (by decide +kernel)).2.1
    (by decide +kernel) (by decide +kernel)

/-- A key is left where another value has a blank in it, and where one has a question mark. -/
theorem redactQuery_key_left :
    ofRules? maskingRules = .ok masking ∧
      (∀ c ∈ ['&', '#', '?', '=', ' '], c ∉ (Text.trim maskingRules.replacement).toList) ∧
      Listed maskingRules.queryParams "api_key" ∧
      ∀ query ∈ ["api_key=abc&x=a b".toList, "api_key=abc&next=/a?b=1".toList],
        '=' ∈ query ∧ '#' ∉ query ∧ (∀ p ∈ params query, '?' ∉ p.name ∧ p.value ≠ none) ∧
          (params query).head? = some ⟨"api_key".toList, some "abc".toList⟩ ∧
          redactQuery masking.queryParams masking.replacement query = query ∧
          params query ≠ (params query).map (Param.masked maskingRules) := by
  have hblank : params "api_key=abc&x=a b".toList =
      [⟨"api_key".toList, some "abc".toList⟩, ⟨"x".toList, some "a b".toList⟩] := by decide +kernel
  have hmark : params "api_key=abc&next=/a?b=1".toList =
      [⟨"api_key".toList, some "abc".toList⟩, ⟨"next".toList, some "/a?b=1".toList⟩] := by
    decide +kernel
  have htrim : Text.trim maskingRules.replacement = "***" := by decide +kernel
  refine ⟨ofRules?_maskingRules, by simp [htrim], by decide +kernel, ?_⟩
  simp only [List.forall_mem_cons, List.not_mem_nil, false_implies, implies_true, and_true]
  constructor
  · refine ⟨by decide +kernel, by decide +kernel, ?_, by rw [hblank]; rfl, by decide +kernel,
      by decide +kernel⟩
    rw [hblank]
    simp
  · refine ⟨by decide +kernel, by decide +kernel, ?_, by rw [hmark]; rfl, by decide +kernel,
      by decide +kernel⟩
    rw [hmark]
    simp

end Redactor

end Turnstile
