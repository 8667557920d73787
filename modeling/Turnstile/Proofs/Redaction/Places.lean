import Turnstile.Admission.Pipeline
import Turnstile.Proofs.Json.Places
import Turnstile.Proofs.Redaction.Matches
import Turnstile.Proofs.Redaction.Query

/-!
# What redaction leaves at each place

Redaction is followed along the places of a document.  Where no listed key leads to, there is what
was there: the same leaf, an array of as many items, an object with the same keys, and of a text
what cleaning leaves of it.  Under a listed key there is the replacement, and nothing behind it.

* `redactValue_valueAt?` — redaction and the way to a place;
* `redact_valueAt?` — what is left of a document at each place;
* `masks_redact` — no listed member is left, in whatever document.
-/

set_option autoImplicit false

namespace Turnstile

open Json (PathStep)

/-- A listed key is on the way to a place. -/
def Passes (names : List String) (p : List PathStep) : Prop :=
  ∃ key, PathStep.member key ∈ p ∧ Listed names key

/-- What is left of a value where no listed key leads to; `clean` is what is done to texts. -/
inductive Remains (clean : String → String) : Json → Json → Prop
  | null : Remains clean .null .null
  | bool (b : Bool) : Remains clean (.bool b) (.bool b)
  | int (n : Int) : Remains clean (.int n) (.int n)
  | float (x : Float) : Remains clean (.float x) (.float x)
  | text (s : String) : Remains clean (.text s) (.text (clean s))
  | array {xs ys : List Json} (h : ys.length = xs.length) : Remains clean (.array xs) (.array ys)
  | object {ms ws : Json.Members} (h : ws.map Prod.fst = ms.map Prod.fst) :
    Remains clean (.object ms) (.object ws)

/-- Every member of a document that has a listed key holds the replacement. -/
def Masks (rules : RedactionRules) (document : Json) : Prop :=
  ∀ p key v, Listed rules.keyNames key → document.valueAt? (p ++ [.member key]) = some v →
    v = .text (Text.trim rules.replacement)

/-! ## Ways -/

section Ways

variable {names : List String} {key : String} {p : List PathStep}

theorem passes_member : Passes names (.member key :: p) ↔ Listed names key ∨ Passes names p := by
  unfold Passes
  constructor
  · rintro ⟨key', hmem, hlisted⟩
    rcases List.mem_cons.mp hmem with heq | hmem
    · cases heq
      exact .inl hlisted
    · exact .inr ⟨key', hmem, hlisted⟩
  · rintro (hlisted | ⟨key', hmem, hlisted⟩)
    · exact ⟨key, List.mem_cons_self, hlisted⟩
    · exact ⟨key', List.mem_cons_of_mem _ hmem, hlisted⟩

theorem passes_item {i : Nat} : Passes names (.item i :: p) ↔ Passes names p := by
  unfold Passes
  constructor
  · rintro ⟨key', hmem, hlisted⟩
    rcases List.mem_cons.mp hmem with heq | hmem
    · cases heq
    · exact ⟨key', hmem, hlisted⟩
  · rintro ⟨key', hmem, hlisted⟩
    exact ⟨key', List.mem_cons_of_mem _ hmem, hlisted⟩

theorem not_passes_nil : ¬ Passes names [] := fun ⟨_, hmem, _⟩ => nomatch hmem

instance (names : List String) : ∀ p, Decidable (Passes names p)
  | [] => .isFalse not_passes_nil
  | .member key :: p =>
    have := instDecidablePasses names p
    decidable_of_iff (Listed names key ∨ Passes names p) passes_member.symm
  | .item _ :: p =>
    have := instDecidablePasses names p
    decidable_of_iff (Passes names p) passes_item.symm

/-- A way that passes a listed key passes a first one. -/
theorem Passes.first (h : Passes names p) :
    ∃ front key rest,
      p = front ++ .member key :: rest ∧ ¬ Passes names front ∧ Listed names key := by
  induction p with
  | nil => exact absurd h not_passes_nil
  | cons step p ih =>
    have hlater : ¬ Passes names [step] → Passes names p → ∃ front key rest,
        step :: p = front ++ .member key :: rest ∧ ¬ Passes names front ∧ Listed names key := by
      intro hstep hp
      obtain ⟨front, key, rest, rfl, hfront, hlisted⟩ := ih hp
      refine ⟨step :: front, key, rest, rfl, ?_, hlisted⟩
      rintro ⟨key', hmem, hlisted'⟩
      rcases List.mem_cons.mp hmem with heq | hmem
      · exact hstep ⟨key', heq ▸ List.mem_cons_self, hlisted'⟩
      · exact hfront ⟨key', hmem, hlisted'⟩
    cases step with
    | member key =>
      by_cases hkey : Listed names key
      · exact ⟨[], key, p, rfl, not_passes_nil, hkey⟩
      · refine hlater (fun hstep => ?_) ((passes_member.mp h).resolve_left hkey)
        exact (passes_member.mp hstep).elim hkey not_passes_nil
    | item i => exact hlater (fun hstep => not_passes_nil (passes_item.mp hstep)) (passes_item.mp h)

end Ways

namespace Redactor

/-! ## Members and items -/

theorem redactItems_eq (r : Redactor) (inQuery : Bool) (xs : List Json) :
    r.redactItems inQuery xs = xs.map (r.redactValue inQuery) := by
  induction xs with
  | nil => rfl
  | cons x xs ih => rw [redactItems, ih, List.map_cons]

/-- What becomes of the value of a member. -/
def redactMember (r : Redactor) (inQuery : Bool) (key : String) (v : Json) : Json :=
  if r.keyNames.contains (normalName key) then .text r.replacement
  else r.redactValue (inQuery || r.queryKeys.contains (normalName key)) v

theorem redactMembers_eq (r : Redactor) (inQuery : Bool) (ms : Json.Members) :
    r.redactMembers inQuery ms = ms.map fun m => (m.1, r.redactMember inQuery m.1 m.2) := by
  induction ms with
  | nil => rfl
  | cons m ms ih => rw [redactMembers, ih, List.map_cons, redactMember]

theorem find?_redactMembers (r : Redactor) (inQuery : Bool) (key : String) (ms : Json.Members) :
    Json.find? key (r.redactMembers inQuery ms) =
      (Json.find? key ms).map (r.redactMember inQuery key) := by
  rw [redactMembers_eq]
  exact Json.find?_map (r.redactMember inQuery) key ms

variable {rules : RedactionRules} {engine : PatternEngine} {r : Redactor}

theorem redactMember_listed (h : ofRules? rules engine = .ok r) {key : String}
    (hkey : Listed rules.keyNames key) (inQuery : Bool) (v : Json) :
    r.redactMember inQuery key v = .text (Text.trim rules.replacement) := by
  obtain ⟨hreplacement, hnames, -⟩ := ofRules?_ok h
  unfold redactMember
  rw [hnames, if_pos (contains_normalNames.mpr hkey), hreplacement]

theorem redactMember_free (h : ofRules? rules engine = .ok r) {key : String}
    (hkey : ¬ Listed rules.keyNames key) (inQuery : Bool) (v : Json) :
    r.redactMember inQuery key v =
      r.redactValue (inQuery || decide (Listed rules.queryKeys key)) v := by
  obtain ⟨-, hnames, -, hqueryKeys, -⟩ := ofRules?_ok h
  have hquery : r.queryKeys.contains (normalName key) = decide (Listed rules.queryKeys key) := by
    rw [Bool.eq_iff_iff, hqueryKeys, contains_normalNames, decide_eq_true_iff]
  unfold redactMember
  rw [hnames, if_neg (mt contains_normalNames.mp hkey), hquery]

/-! ## Places -/

/-- Where no listed key leads to, there is what was there, redacted; and its queries are redacted
if a key for that is on the way. -/
theorem redactValue_valueAt? (h : ofRules? rules engine = .ok r) (p : List PathStep)
    (inQuery : Bool) (v : Json) (hp : ¬ Passes rules.keyNames p) :
    (r.redactValue inQuery v).valueAt? p =
      (v.valueAt? p).map (r.redactValue (inQuery || decide (Passes rules.queryKeys p))) := by
  induction p generalizing inQuery v with
  | nil =>
    have hnone : decide (Passes rules.queryKeys []) = false := decide_eq_false not_passes_nil
    rw [hnone, Bool.or_false, Json.valueAt?_nil, Json.valueAt?_nil, Option.map_some]
  | cons step p ih =>
    cases step with
    | member key =>
      rw [passes_member, not_or] at hp
      cases v with
      | object ms =>
        rw [redactValue, Json.valueAt?, Json.valueAt?, find?_redactMembers]
        cases Json.find? key ms with
        | none => rfl
        | some w =>
          have hor : decide (Passes rules.queryKeys (.member key :: p)) =
              (decide (Listed rules.queryKeys key) || decide (Passes rules.queryKeys p)) := by
            rw [← Bool.decide_or]
            exact decide_eq_decide.mpr passes_member
          rw [Option.map_some]
          dsimp only
          rw [redactMember_free h hp.1, ih _ w hp.2, hor, Bool.or_assoc]
      | array xs => rfl
      | _ => rfl
    | item i =>
      rw [passes_item] at hp
      cases v with
      | array xs =>
        rw [redactValue, Json.valueAt?, Json.valueAt?, redactItems_eq, List.getElem?_map]
        cases xs[i]? with
        | none => rfl
        | some w =>
          have hsame : decide (Passes rules.queryKeys (.item i :: p)) =
              decide (Passes rules.queryKeys p) := decide_eq_decide.mpr passes_item
          rw [Option.map_some]
          dsimp only
          rw [ih _ w hp, hsame]
      | object ms => rfl
      | _ => rfl

/-- Under a listed key there is the replacement, and nothing behind it. -/
theorem redactValue_listed (h : ofRules? rules engine = .ok r) {key : String}
    (hkey : Listed rules.keyNames key) (rest : List PathStep) (inQuery : Bool) (v : Json) :
    (r.redactValue inQuery v).valueAt? (.member key :: rest) =
      if rest = [] then
        (v.valueAt? [.member key]).map fun _ => .text (Text.trim rules.replacement)
      else none := by
  cases v with
  | object ms =>
    rw [redactValue, Json.valueAt?, Json.valueAt?, find?_redactMembers]
    cases Json.find? key ms with
    | none => simp
    | some w =>
      rw [Option.map_some]
      dsimp only
      rw [redactMember_listed h hkey]
      cases rest with
      | nil => simp
      | cons step rest => cases step <;> rfl
  | _ => cases rest <;> rfl

/-- Redaction changes no leaf but texts, and neither lengths nor keys. -/
theorem remains_redactValue (r : Redactor) (inQuery : Bool) (v : Json) :
    Remains (fun s => String.ofList (r.redactText inQuery s.toList)) v
      (r.redactValue inQuery v) := by
  cases v with
  | null => exact .null
  | bool b => exact .bool b
  | int n => exact .int n
  | float x => exact .float x
  | text s => exact .text s
  | array xs =>
    refine .array ?_
    rw [redactItems_eq, List.length_map]
  | object ms =>
    refine .object ?_
    rw [redactMembers_eq, List.map_map]
    rfl

/-- Behind a listed key there is the replacement, wherever that key is. -/
theorem redact_listed (h : ofRules? rules engine = .ok r) {p : List PathStep} {key : String}
    (hp : ¬ Passes rules.keyNames p) (hkey : Listed rules.keyNames key) (v : Json)
    (rest : List PathStep) :
    (r.redact v).valueAt? (p ++ .member key :: rest) =
      if rest = [] then
        (v.valueAt? (p ++ [.member key])).map fun _ => .text (Text.trim rules.replacement)
      else none := by
  unfold redact
  rw [Json.valueAt?_append, Json.valueAt?_append, redactValue_valueAt? h p false v hp]
  cases v.valueAt? p with
  | none => simp
  | some w => exact redactValue_listed h hkey rest _ w

/-- No member with a listed key is left in a redacted document. -/
theorem masks_redact (h : ofRules? rules engine = .ok r) (v : Json) : Masks rules (r.redact v) := by
  intro p key w hkey hw
  by_cases hp : Passes rules.keyNames p
  · -- Nothing is found behind the first listed key on the way.
    obtain ⟨front, first, rest, rfl, hfront, hfirst⟩ := hp.first
    rw [List.append_assoc, List.cons_append, redact_listed h hfront hfirst v,
      if_neg (by simp)] at hw
    cases hw
  · rw [redact_listed h hp hkey v [], if_pos rfl, Option.map_eq_some_iff] at hw
    obtain ⟨_, -, rfl⟩ := hw
    rfl

theorem ofRules_eq (h : ofRules? rules engine = .ok r) : ofRules rules engine = r := by
  unfold ofRules
  rw [h]

end Redactor

/-- What the gate sends away is redacted by its redactor. -/
theorem Gateway.of_deliver_mem {σ κ π : Type} {g : Gateway κ π} {t : Moment} {mode : RelayMode}
    {format : RelayFormat} {request : RelayRequest} {counted : Option String} {inbound : Inbound}
    {s : GatewayState σ κ π} {url : String} {document : Json}
    (h : Job.deliver url document ∈ (g.enforce t mode format request counted inbound s).2.1) :
    ∃ details categories nanos,
      document = g.redactor.redact (Moderation.report details categories nanos) := by
  unfold enforce at h
  dsimp only at h
  -- What is reported does not depend on whether the request is refused or let through.
  split at h
  all_goals
    split at h
    · cases List.mem_singleton.mp h
      exact ⟨_, _, t.nanos, rfl⟩
    · cases h

namespace Redactor

variable {rules : RedactionRules} {engine : PatternEngine} {r : Redactor}

/-- Redaction by rules that can be applied, whatever engine reads their patterns, as long as it
finds the matches of a pattern in the text and apart. Where no listed key leads to there is what was
there, of a text what is left after its query was redacted, if a key for that is on the way, and the
matches of each pattern, in order, were replaced; the replacements are literal. Under a listed key
there is the replacement alone. So it is in every report, and in all that the gate sends away. -/
theorem redact_valueAt? (hengine : ∀ text p, engine text = some p → p.Orderly)
    (h : ofRules? rules engine = .ok r) :
    List.Forall₂ (fun text p => engine text = some p) (patternTexts rules.patterns) r.patterns ∧
      (∀ p ∈ r.patterns, ∀ cs,
        Finder.Substituted (Text.trim rules.replacement).toList 0 (p.spans cs) cs
          (p.replaceAll (Text.trim rules.replacement).toList cs)) ∧
      (∀ v p, ¬ Passes rules.keyNames p →
        Option.Rel
          (Remains fun s => String.ofList (r.patterns.foldl
            (fun cs pattern => pattern.replaceAll (Text.trim rules.replacement).toList cs)
            (if Passes rules.queryKeys p then redactedBy rules s.toList else s.toList)))
          (v.valueAt? p) ((r.redact v).valueAt? p)) ∧
      (∀ v p key rest, ¬ Passes rules.keyNames p → Listed rules.keyNames key →
        (r.redact v).valueAt? (p ++ .member key :: rest) =
          if rest = [] then
            (v.valueAt? (p ++ [.member key])).map fun _ => .text (Text.trim rules.replacement)
          else none) ∧
      (∀ details categories nanos,
        Masks rules (r.redact (Moderation.report details categories nanos))) ∧
      ∀ {σ κ π : Type} (g : Gateway κ π) (t : Moment) (mode : RelayMode) (format : RelayFormat)
        (request : RelayRequest) (counted : Option String) (inbound : Inbound)
        (s : GatewayState σ κ π) (url : String) (document : Json),
        g.redactor = ofRules rules engine →
        Job.deliver url document ∈ (g.enforce t mode format request counted inbound s).2.1 →
        Masks rules document := by
  obtain ⟨hreplacement, -, hparams, -, hpatterns⟩ := ofRules?_ok h
  refine ⟨hpatterns, fun p hp cs => ?_, fun v p hp => ?_,
    fun v p key rest hp hkey => redact_listed h hp hkey v rest,
    fun details categories nanos => masks_redact h _, ?_⟩
  · obtain ⟨text, -, hread⟩ := exists_of_mem hpatterns hp
    exact Finder.replaceAll_substituted (hengine text p hread) _ cs
  · unfold redact
    rw [redactValue_valueAt? h p false v hp, Bool.false_or]
    cases v.valueAt? p with
    | none => exact .none
    | some w =>
      have hremains := remains_redactValue r (decide (Passes rules.queryKeys p)) w
      simp only [redactText, decide_eq_true_iff, hreplacement, hparams] at hremains
      exact .some hremains
  · intro σ κ π g t mode format request counted inbound s url document hg hjob
    obtain ⟨details, categories, nanos, rfl⟩ := Gateway.of_deliver_mem hjob
    rw [hg, ofRules_eq h]
    exact masks_redact h _

/-- A document with a listed key deep inside, and a query with a listed parameter and a match of the
pattern. -/
def tokenDocument : Json :=
  .object [("headers", .array [.object [(" Token", .object [("id", .text "sk-1")])]]),
    ("query", .text "api_key=1&q=sk-12")]

theorem redact_valueAt?_token :
    (masking.redact tokenDocument).valueAt? [.member "headers", .item 0, .member " Token"] =
        some (.text (Text.trim maskingRules.replacement)) ∧
      (masking.redact tokenDocument).valueAt?
        [.member "headers", .item 0, .member " Token", .member "id"] = none ∧
      (masking.redact tokenDocument).valueAt? [.member "query"] =
        some (.text "api_key=***&q=***") := by
  obtain ⟨-, -, hremains, hlisted, -⟩ :=
    redact_valueAt? (fun _ _ => Pattern.orderly_engine) ofRules?_maskingRules
  have hfree : ¬ Passes maskingRules.keyNames [.member "headers", .item 0] := by decide +kernel
  have hkey : Listed maskingRules.keyNames " Token" := by decide +kernel
  refine ⟨hlisted tokenDocument _ _ [] hfree hkey,
    hlisted tokenDocument _ _ [.member "id"] hfree hkey, ?_⟩
  have hquery := hremains tokenDocument [.member "query"] (by decide +kernel)
  change Option.Rel _ (some (Json.text "api_key=1&q=sk-12")) _ at hquery
  generalize (masking.redact tokenDocument).valueAt? [.member "query"] = found at hquery
  cases hquery with
  | some h =>
    cases h
    exact congrArg (fun s => some (Json.text s)) (by decide +kernel)

end Redactor

end Turnstile
