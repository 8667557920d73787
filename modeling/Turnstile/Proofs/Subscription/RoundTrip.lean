import Turnstile.Proofs.Subscription.Form
import Turnstile.Proofs.Text.Blank

/-!
# A document that is written is read back

A canonical document that is written is read back, in its present form, as its echo: the same
document but for the doubles among the members that its entitlements keep without a meaning.  The
echo of a canonical document is canonical again.

* `Document.decode_toTree` — a canonical document is made of its own tree;
* `Document.read_write` — and read back from its text.
-/

set_option autoImplicit false

namespace Turnstile.Subscription

open Json (Canonical CanonicalItems CanonicalMembers Tree membersToTree itemsToTree)
open Json.Decoder

/-! ## Echoes -/

/-- What is read of an entitlement that was written. -/
def Entitlement.echo (e : Entitlement) : Entitlement := { e with extra := Json.echoMembers e.extra }

/-- What is read of a document that was written. -/
def Document.echo (d : Document) : Document := { d with items := d.items.map Entitlement.echo }

theorem Entitlement.kept_echo {levels : Nat} {ms : Json.Members}
    (h : Entitlement.KeptWithin levels ms) :
    Entitlement.KeptWithin levels (Json.echoMembers ms) := by
  have hkeys := Json.keys_echoMembers ms
  refine ⟨fun m hm => ?_, ?_, Json.canonicalMembers_echo ms levels h.values⟩
  · have hmem : m.1 ∈ (Json.echoMembers ms).map Prod.fst := List.mem_map_of_mem hm
    rw [hkeys] at hmem
    obtain ⟨m', hm', heq⟩ := List.mem_map.mp hmem
    rw [← heq]
    exact h.unknown m' hm'
  · rw [hkeys]
    exact h.keys

theorem Entitlement.canonical_echo {levels : Nat} {e : Entitlement}
    (h : e.CanonicalWithin levels) : e.echo.CanonicalWithin levels :=
  ⟨h.short, h.long, h.term, h.owner, Entitlement.kept_echo h.extra⟩

theorem Document.canonical_echo {d : Document} (h : d.Canonical) : d.echo.Canonical := by
  refine ⟨fun e he => ?_, h.lastResetAt⟩
  obtain ⟨e', he', rfl⟩ := List.mem_map.mp he
  exact Entitlement.canonical_echo (h.items e' he')

theorem Entitlement.echo_toJson (e : Entitlement) : e.toJson.echo = e.echo.toJson := by
  simp [Entitlement.toJson, Entitlement.echo, Window.toJson, Term.toJson, Json.echo,
    Json.echoMembers]

theorem echoItems_toJson (es : List Entitlement) :
    Json.echoItems (es.map Entitlement.toJson) =
      (es.map Entitlement.echo).map Entitlement.toJson := by
  induction es with
  | nil => rfl
  | cons e es ih =>
    rw [List.map_cons, Json.echoItems, ih, Entitlement.echo_toJson]
    rfl

theorem Document.echo_toJson (d : Document) : d.toJson.echo = d.echo.toJson := by
  simp only [Document.toJson, Json.echo, Json.echoMembers, echoItems_toJson]
  rfl

/-! ## Structures from their own trees -/

/-- A word is read of its own tree. -/
theorem flexible_int {n : Int} (h : Word.InRange n) (budget : Nat) :
    flexible budget (.int n) = .ok n := by
  show Except.ok (Word.saturate n) = _
  rw [Word.saturate_of_inRange h]

theorem foldObject_record {σ : Type} (take : Taking σ) (start : σ) {budget : Nat}
    (hbudget : budget ≠ 0) (ms : List (Option String × Tree)) :
    foldObject take start budget (.record ms) = foldMembers take (budget - 1) ms start :=
  if_neg hbudget

theorem Window.decode_toTree {w : Window} (h : w.InRange) {budget : Nat} (hbudget : 0 < budget) :
    Window.decode budget w.toJson.toTree = .ok w := by
  have hpos : budget ≠ 0 := Nat.ne_of_gt hbudget
  have htotal := flexible_int h.total (budget - 1)
  have havailable := flexible_int h.available (budget - 1)
  have hresetAt := flexible_int h.resetAt (budget - 1)
  simp [Window.decode, Window.toJson, Json.toTree, membersToTree, foldRecord, foldObject, hpos,
    foldMembers, WindowDraft.take, once, htotal, havailable, hresetAt, WindowDraft.finish]

theorem Term.decode_toTree {x : Term} (h : x.InRange) {budget : Nat} (hbudget : 0 < budget) :
    Term.decode budget x.toJson.toTree = .ok x := by
  have hpos : budget ≠ 0 := Nat.ne_of_gt hbudget
  have hstart := flexible_int h.startAt (budget - 1)
  have hend := flexible_int h.endAt (budget - 1)
  simp [Term.decode, Term.toJson, Json.toTree, membersToTree, foldRecord, foldObject, hpos,
    foldMembers, TermDraft.take, once, nullAs, Json.Decoder.bool, hstart, hend, TermDraft.finish]

/-- A member without a meaning is kept, or its value cannot be made. -/
theorem EntitlementDraft.take_unknown {levels : Nat} {key : String}
    (hkey : key ∉ Entitlement.knownKeys) (t : Tree) (d : EntitlementDraft) :
    EntitlementDraft.take levels key t d = match value levels t with
      | .error e => .error e
      | .ok v => .ok { d with extra := Json.insert key v d.extra } := by
  simp only [Entitlement.knownKeys, List.mem_cons, List.not_mem_nil, or_false, not_or] at hkey
  obtain ⟨h₁, h₂, h₃, h₄, h₅, h₆, h₇, h₈⟩ := hkey
  unfold EntitlementDraft.take
  rw [if_neg h₁, if_neg h₂, if_neg h₃, if_neg h₄, if_neg h₅, if_neg h₆, if_neg h₇]
  exact if_neg h₈

/-- Members without a meaning are kept behind those that were before, if these come first. -/
theorem foldMembers_extra {levels : Nat} : ∀ (ms : Json.Members) (d : EntitlementDraft),
    (∀ m ∈ ms, m.1 ∉ Entitlement.knownKeys) → CanonicalMembers levels ms →
    ((d.extra ++ ms).map Prod.fst).Pairwise (· < ·) →
    foldMembers EntitlementDraft.take levels (membersToTree ms) d =
      .ok { d with extra := d.extra ++ ms }
  | [], d, _, _, _ => by
    rw [List.append_nil]
    rfl
  | (k, v) :: r, d, hunknown, hvalues, hkeys => by
    have hlast : ∀ m ∈ d.extra, m.1 < k := by
      intro m hm
      rw [List.map_append] at hkeys
      exact (List.pairwise_append.mp hkeys).2.2 m.1 (List.mem_map_of_mem hm) k List.mem_cons_self
    have hassoc : d.extra ++ (k, v) :: r = (d.extra ++ [(k, v)]) ++ r := by simp
    have hk : k ∉ Entitlement.knownKeys := hunknown (k, v) List.mem_cons_self
    have hvalue : value levels v.toTree = .ok v := by
      unfold value
      rw [Json.toJson?_toTree v levels hvalues.1]
    have htake : EntitlementDraft.take levels k v.toTree d =
        .ok { d with extra := d.extra ++ [(k, v)] } := by
      rw [EntitlementDraft.take_unknown hk, hvalue]
      dsimp only
      rw [Json.insert_last v hlast]
    rw [hassoc] at hkeys ⊢
    rw [membersToTree, foldMembers, htake]
    exact foldMembers_extra r { d with extra := d.extra ++ [(k, v)] }
      (fun m hm => hunknown m (List.mem_cons_of_mem _ hm)) hvalues.2 hkeys

theorem membersToTree_append (ms ms' : Json.Members) :
    membersToTree (ms ++ ms') = membersToTree ms ++ membersToTree ms' := by
  induction ms with
  | nil => rfl
  | cons m r ih => rw [List.cons_append, membersToTree, ih, membersToTree, List.cons_append]

/-- The members of a structure are taken in one after the other. -/
theorem foldMembers_append {σ : Type} (take : Taking σ) (budget : Nat)
    (ms ms' : List (Option String × Tree)) {s s' : σ} (h : foldMembers take budget ms s = .ok s') :
    foldMembers take budget (ms ++ ms') s = foldMembers take budget ms' s' := by
  induction ms generalizing s with
  | nil =>
    cases h
    rfl
  | cons m r ih =>
    obtain ⟨k, t⟩ := m
    cases k with
    | none => cases h
    | some k =>
      rw [foldMembers] at h
      rw [List.cons_append, foldMembers]
      split at h
      · cases h
      · exact ih h

/-- A window that is written is no `null`. -/
theorem nullAs_window {w : Window} (h : w.InRange) {levels : Nat} (hlevels : 0 < levels) :
    nullAs Window.empty Window.decode levels w.toJson.toTree = .ok w := by
  rw [← Window.decode_toTree h hlevels]
  rfl

theorem nullAs_term {x : Term} (h : x.InRange) {levels : Nat} (hlevels : 0 < levels) :
    nullAs Term.empty Term.decode levels x.toJson.toTree = .ok x := by
  rw [← Term.decode_toTree h hlevels]
  rfl

/-- What is known of an entitlement when all its members with a meaning have been read. -/
def Entitlement.known (e : Entitlement) : EntitlementDraft :=
  { planName := e.planName, planId := e.planId, subscriptionId := e.subscriptionId
    short := e.short, long := e.long, term := e.term, owner := e.owner, status := e.status }

/-- The members with a meaning are read of the tree of an entitlement; what becomes of it is
decided by the others. -/
theorem Entitlement.decode_known {bound levels : Nat} {e : Entitlement}
    (h : e.CanonicalWithin bound) (hlevels : 0 < levels) :
    Entitlement.decode (levels + 1) e.toJson.toTree =
      (foldMembers EntitlementDraft.take levels (membersToTree e.extra) e.known).map
        EntitlementDraft.finish := by
  have hshort := nullAs_window h.short hlevels
  have hlong := nullAs_window h.long hlevels
  have hterm := nullAs_term h.term hlevels
  have howner := flexible_int h.owner levels
  have hknown : foldMembers EntitlementDraft.take levels (membersToTree
      [("plan_name", .text e.planName), ("plan_id", .text e.planId),
        ("subscription_id", .text e.subscriptionId), ("5h_limit", e.short.toJson),
        ("7d_limit", e.long.toJson), ("duration", e.term.toJson), ("owner", .int e.owner),
        ("status", .text e.status)]) {} = .ok e.known := by
    have htext : ∀ s, nullAs "" Json.Decoder.text levels (.text s) = .ok s := fun _ => rfl
    simp [membersToTree, foldMembers, EntitlementDraft.take, once, hshort, hlong, hterm, howner,
      Entitlement.known, Json.toTree, htext]
  have hbudget : levels + 1 ≠ 0 := by omega
  have hfold : foldObject EntitlementDraft.take {} (levels + 1) e.toJson.toTree =
      foldMembers EntitlementDraft.take levels (membersToTree e.extra) e.known := by
    unfold Entitlement.toJson
    rw [Json.toTree, membersToTree_append, foldObject_record _ _ hbudget, Nat.add_sub_cancel,
      foldMembers_append _ _ _ _ hknown]
  unfold Entitlement.decode
  rw [hfold]
  cases foldMembers EntitlementDraft.take levels (membersToTree e.extra) e.known with
  | error x => rfl
  | ok d => rfl

theorem Entitlement.decode_toTree {levels : Nat} {e : Entitlement} (h : e.CanonicalWithin levels)
    (hlevels : 0 < levels) : Entitlement.decode (levels + 1) e.toJson.toTree = .ok e := by
  have hextra := foldMembers_extra e.extra e.known h.extra.unknown h.extra.values h.extra.keys
  rw [Entitlement.decode_known h hlevels, hextra]
  rfl

theorem items_toTree {levels : Nat} (hlevels : 0 < levels) :
    ∀ {es : List Entitlement}, (∀ e ∈ es, e.CanonicalWithin levels) →
      items Entitlement.decode (levels + 1) (itemsToTree (es.map Entitlement.toJson)) = .ok es
  | [], _ => rfl
  | e :: es, h => by
    rw [List.map_cons, itemsToTree, items,
      Entitlement.decode_toTree (h e List.mem_cons_self) hlevels]
    dsimp only
    rw [items_toTree hlevels fun e' he' => h e' (List.mem_cons_of_mem _ he')]

/-- A canonical document is made of its own tree. -/
theorem Document.decode_toTree {d : Document} (h : d.Canonical) :
    Document.decode Json.maxDepth d.toJson.toTree = .ok d := by
  have hreset := flexible_int h.lastResetAt 126
  have hitems : nullAs [] (list Entitlement.decode) 126
      (.list (itemsToTree (d.items.map Entitlement.toJson))) = .ok d.items :=
    items_toTree (by decide) h.items
  simp [Document.decode, Document.toJson, Json.toTree, membersToTree, foldRecord, foldObject,
    foldMembers, Json.maxDepth, DocumentDraft.take, once, hitems, hreset, DocumentDraft.finish]

/-! ## Texts -/

theorem isWord_of_inRange_window {w : Window} (h : w.InRange) : w.toJson.Words :=
  ⟨.of_inRange h.total, .of_inRange h.available, .of_inRange h.resetAt, trivial⟩

theorem words_append {ms ms' : Json.Members} (h : Json.WordsMembers ms)
    (h' : Json.WordsMembers ms') : Json.WordsMembers (ms ++ ms') := by
  induction ms with
  | nil => exact h'
  | cons m r ih => exact ⟨h.1, ih h.2⟩

theorem Entitlement.words_toJson {levels : Nat} {e : Entitlement} (h : e.CanonicalWithin levels) :
    e.toJson.Words := by
  have hterm : e.term.toJson.Words :=
    ⟨.of_inRange h.term.startAt, .of_inRange h.term.endAt, trivial, trivial⟩
  exact words_append
    ⟨trivial, trivial, trivial, isWord_of_inRange_window h.short, isWord_of_inRange_window h.long,
      hterm, .of_inRange h.owner, trivial, trivial⟩
    (Json.wordsMembers_of_canonical e.extra levels h.extra.values)

theorem wordsItems_toJson {levels : Nat} : ∀ {es : List Entitlement},
    (∀ e ∈ es, e.CanonicalWithin levels) → Json.WordsItems (es.map Entitlement.toJson)
  | [], _ => trivial
  | e :: _, h => ⟨Entitlement.words_toJson (h e List.mem_cons_self),
      wordsItems_toJson fun e' he' => h e' (List.mem_cons_of_mem _ he')⟩

theorem Document.words_toJson {d : Document} (h : d.Canonical) : d.toJson.Words :=
  ⟨wordsItems_toJson h.items, .of_inRange h.lastResetAt, trivial⟩

/-- The text of an object begins and ends with a brace. -/
theorem chars_object_braces (ms : Json.Members) :
    ∃ cs, (Json.object ms).chars = '\x7b' :: (cs ++ ['\x7d']) := by
  have hrest : ∀ ms : Json.Members, ∃ cs, Json.charsMembers ms = cs ++ ['\x7d'] := by
    intro ms
    induction ms with
    | nil => exact ⟨[], rfl⟩
    | cons m r ih =>
      obtain ⟨cs, hcs⟩ := ih
      obtain ⟨k, v⟩ := m
      refine ⟨',' :: (Json.quoted k ++ ':' :: (v.chars ++ cs)), ?_⟩
      rw [Json.charsMembers, hcs]
      simp
  cases ms with
  | nil => exact ⟨[], rfl⟩
  | cons m r =>
    obtain ⟨cs, hcs⟩ := hrest r
    obtain ⟨k, v⟩ := m
    refine ⟨Json.quoted k ++ ':' :: (v.chars ++ cs), ?_⟩
    rw [Json.chars, hcs]
    simp

/-- A text between two characters that are no white space, the first of which begins no `null`, is
read whole, in the older form behind a bracket and in the present one behind anything else. -/
theorem Document.read_of_ends {text : String} {c c' : Char} {cs : List Char}
    (hc : Text.isBlank c = false) (hc' : Text.isBlank c' = false) (hn : c ≠ 'n')
    (htext : text.toList = c :: (cs ++ [c'])) :
    Document.read text = if c = '[' then match Document.decodeOlder.run text with
        | .error e => .error e
        | .ok d => .ok (d, true)
      else match Document.decode.run text with
        | .error e => .error e
        | .ok d => .ok (d, false) := by
  have htrim : Text.trim text = text := by
    unfold Text.trim
    rw [htext, Text.strip_of_ends hc hc', ← htext, String.ofList_toList]
  have hempty : text ≠ "" := by
    rintro rfl
    cases htext
  have hnull : text ≠ "null" := by
    rintro rfl
    exact hn (List.cons_eq_cons.mp htext).1.symm
  have hhead : text.toList.head? = some c := by
    rw [htext]
    rfl
  have hwritten : ¬ (decide (text = "") || decide (text = "null")) = true := by
    simp [hempty, hnull]
  unfold Document.read
  rw [htrim]
  dsimp only
  rw [if_neg hwritten, hhead]
  exact if_congr Option.some_inj rfl rfl

/-- What is written is read in its present form, as whatever is made of the tree of its echo. -/
theorem Document.read_written {d : Document} (h : d.toJson.Words) :
    Document.read d.write = match Document.decode Json.maxDepth d.echo.toJson.toTree with
      | .error e => .error e
      | .ok d => .ok (d, false) := by
  have hlist : d.write.toList = d.toJson.chars := String.toList_ofList
  obtain ⟨cs, hcs⟩ := chars_object_braces
    [("items", .array (d.items.map Entitlement.toJson)), ("last_reset_at", .int d.lastResetAt)]
  have hread : Tree.read d.write.toList = (d.echo.toJson.toTree, true) := by
    rw [hlist, Json.read_chars h, Document.echo_toJson]
  rw [Document.read_of_ends (by decide) (by decide) (by decide) (hlist.trans hcs),
    if_neg (by decide)]
  unfold run
  rw [hread]
  dsimp only
  cases Document.decode Json.maxDepth d.echo.toJson.toTree <;> rfl

/-- A canonical document that is written is read back. -/
theorem Document.read_write {d : Document} (h : d.Canonical) :
    Document.read d.write = .ok (d.echo, false) := by
  rw [Document.read_written (Document.words_toJson h),
    Document.decode_toTree (Document.canonical_echo h)]

end Turnstile.Subscription
