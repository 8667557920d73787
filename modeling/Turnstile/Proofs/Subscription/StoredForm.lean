import Turnstile.Proofs.Json.Depth
import Turnstile.Proofs.Subscription.RoundTrip

/-!
# What the stored form of a document can hold

A document that was read has integers that are words, and members without a meaning in the order
of their keys.  Writing such a document always succeeds, but what is written can be read only if it
nests no deeper than a text may.  The older form leaves the members of an entitlement one level
more than the present one, so a document of the older form may be too deep for the present one.

* `Document.read_write_iff` — what is written can be read exactly if it is not too deep;
* `Document.read_older` — the bare items are read, one level deeper;
* `Document.storable_iff`, `Document.read_write_faithful` — what is written is read back unchanged;
* `Document.write_faithful` — without doubles, what is read is what was written, whatever white
  space stands around it, so no two documents have one text.
-/

set_option autoImplicit false

namespace Turnstile.Subscription

open Json (PlainMembers depth depthMembers itemsToTree membersToTree)
open Json.Decoder

/-! ## Documents of any depth -/

/-- The members of a canonical entitlement nest no deeper than they may. -/
theorem Entitlement.CanonicalWithin.depth_le {levels : Nat} {e : Entitlement}
    (h : e.CanonicalWithin levels) : depthMembers e.extra ≤ levels := by
  rw [Json.depthMembers_le]
  intro m hm
  exact Json.depth_le_of_canonical (Json.canonicalMembers_iff.mp h.extra.values m hm)

/-- A canonical entitlement is canonical for every bound that its members keep to. -/
theorem Entitlement.CanonicalWithin.of_depth {bound levels : Nat} {e : Entitlement}
    (h : e.CanonicalWithin bound) (hdepth : depthMembers e.extra ≤ levels) :
    e.CanonicalWithin levels :=
  ⟨h.short, h.long, h.term, h.owner, h.extra.unknown, h.extra.keys,
    Json.canonicalMembers_of_depth e.extra bound levels h.extra.values hdepth⟩

theorem Document.CanonicalWithin.mono {bound levels : Nat} {d : Document}
    (h : d.CanonicalWithin bound) (hle : bound ≤ levels) : d.CanonicalWithin levels :=
  ⟨fun e he => (h.items e he).of_depth (Nat.le_trans (h.items e he).depth_le hle), h.lastResetAt⟩

theorem Document.canonical_decodeOlder {t : Json.Tree} {d : Document} (hwords : t.Words)
    (h : Document.decodeOlder Json.maxDepth t = .ok d) :
    (∀ e ∈ d.items, e.CanonicalWithin 125) ∧ d.lastResetAt = 0 := by
  unfold Document.decodeOlder Json.maxDepth at h
  split at h
  · cases h
  · rename_i es hes
    cases h
    exact ⟨of_nullAs (P := fun es => ∀ e ∈ es, Entitlement.CanonicalWithin 125 e)
      (List.forall_mem_nil _) (fun _ => canonical_list hwords) hes, rfl⟩

/-- Whatever the form in which a document was read, its members nest no more than 125 levels. -/
theorem Document.canonicalWithin_of_read {raw : String} {d : Document} {older : Bool}
    (h : Document.read raw = .ok (d, older)) : d.CanonicalWithin 125 := by
  rcases Document.read_cases h with ⟨-, rfl⟩ | ⟨-, t, hwords, hdecode⟩ | ⟨-, t, hwords, hdecode⟩
  · exact (Document.canonicalWithin_iff.mpr Document.canonical_empty).mono (by decide)
  · have hcanonical := Document.canonical_decode hwords hdecode
    exact (Document.canonicalWithin_iff.mpr hcanonical).mono (by decide)
  · obtain ⟨hitems, hreset⟩ := Document.canonical_decodeOlder hwords hdecode
    refine ⟨hitems, ?_⟩
    rw [hreset]
    exact inRange_zero

/-- Around the members without a meaning there is one level, that of their entitlement. -/
theorem Entitlement.depth_toJson_le {e : Entitlement} :
    e.toJson.depth ≤ 125 ↔ depthMembers e.extra ≤ 124 := by
  unfold Entitlement.toJson
  rw [depth, Nat.add_le_add_iff_right (n := 1) (k := 124), Json.depthMembers_le,
    Json.depthMembers_le, List.forall_mem_append]
  simp [depth, depthMembers, Window.toJson, Term.toJson]

/-- Around them there are three, and a text may have 127. -/
theorem Document.depth_toJson_le {d : Document} :
    d.toJson.depth ≤ Json.maxDepth ↔ ∀ e ∈ d.items, depthMembers e.extra ≤ 124 := by
  have hitems : d.toJson.depth ≤ Json.maxDepth ↔
      Json.depthItems (d.items.map Entitlement.toJson) ≤ 125 := by
    simp only [Document.toJson, depth, depthMembers, Json.maxDepth]
    omega
  rw [hitems, Json.depthItems_le, List.forall_mem_map]
  exact forall₂_congr fun e _ => Entitlement.depth_toJson_le

/-- A document that was read is canonical unless it is too deep. -/
theorem Document.CanonicalWithin.canonical {levels : Nat} {d : Document}
    (h : d.CanonicalWithin levels) (hdepth : d.toJson.depth ≤ Json.maxDepth) : d.Canonical :=
  ⟨fun e he => (h.items e he).of_depth (Document.depth_toJson_le.mp hdepth e he), h.lastResetAt⟩

theorem Document.Canonical.depth_le {d : Document} (h : d.Canonical) :
    d.toJson.depth ≤ Json.maxDepth :=
  Document.depth_toJson_le.mpr fun e he => (h.items e he).depth_le

/-! ## What is too deep cannot be read -/

/-- Members without a meaning that are all taken in nest no deeper than they may. -/
theorem depth_of_foldMembers {levels : Nat} : ∀ (ms : Json.Members) (d d' : EntitlementDraft),
    (∀ m ∈ ms, m.1 ∉ Entitlement.knownKeys) →
    foldMembers EntitlementDraft.take levels (membersToTree ms) d = .ok d' →
    depthMembers ms ≤ levels
  | [], _, _, _, _ => Nat.zero_le levels
  | (k, v) :: r, d, d', hunknown, h => by
    have hvalue := Json.isSome_toJson?_toTree v levels
    rw [List.forall_mem_cons] at hunknown
    rw [membersToTree, foldMembers, EntitlementDraft.take_unknown hunknown.1] at h
    unfold value at h
    rw [depthMembers, Nat.max_le, ← hvalue]
    cases htree : v.toTree.toJson? levels with
    | none =>
      rw [htree] at h
      cases h
    | some w =>
      rw [htree] at h
      exact ⟨rfl, depth_of_foldMembers r _ d' hunknown.2 h⟩

theorem Entitlement.depth_of_decode {bound levels : Nat} {e e' : Entitlement}
    (he : e.CanonicalWithin bound) (hlevels : 0 < levels)
    (h : Entitlement.decode (levels + 1) e.toJson.toTree = .ok e') :
    depthMembers e.extra ≤ levels := by
  rw [Entitlement.decode_known he hlevels] at h
  cases hextra : foldMembers EntitlementDraft.take levels (membersToTree e.extra) e.known with
  | error x =>
    rw [hextra] at h
    cases h
  | ok d => exact depth_of_foldMembers e.extra e.known d he.extra.unknown hextra

theorem depth_of_items {bound levels : Nat} (hlevels : 0 < levels) :
    ∀ {es es' : List Entitlement}, (∀ e ∈ es, e.CanonicalWithin bound) →
      items Entitlement.decode (levels + 1) (itemsToTree (es.map Entitlement.toJson)) = .ok es' →
      ∀ e ∈ es, depthMembers e.extra ≤ levels
  | [], _, _, _ => List.forall_mem_nil _
  | e :: es, es', hes, h => by
    rw [List.map_cons, itemsToTree, items] at h
    split at h
    · cases h
    · rename_i he
      split at h
      · cases h
      · rename_i hrest
        exact List.forall_mem_cons.mpr
          ⟨Entitlement.depth_of_decode (hes e List.mem_cons_self) hlevels he,
            depth_of_items hlevels (fun e' he' => hes e' (List.mem_cons_of_mem _ he')) hrest⟩

theorem Document.depth_of_decode {bound : Nat} {d d' : Document} (hd : d.CanonicalWithin bound)
    (h : Document.decode Json.maxDepth d.toJson.toTree = .ok d') :
    d.toJson.depth ≤ Json.maxDepth := by
  rw [Document.depth_toJson_le]
  cases hitems : Json.Decoder.items Entitlement.decode 125
      (itemsToTree (d.items.map Entitlement.toJson)) with
  | error x =>
    have hnull : nullAs [] (list Entitlement.decode) 126
        (.list (itemsToTree (d.items.map Entitlement.toJson))) = .error x := hitems
    simp [Document.decode, Document.toJson, Json.toTree, membersToTree, foldRecord, foldObject,
      foldMembers, Json.maxDepth, DocumentDraft.take, once, hnull] at h
  | ok es => exact depth_of_items (by decide) hd.items hitems

/-- What is written can be read again exactly if it nests no deeper than a text may. -/
theorem Document.read_write_iff {levels : Nat} {d : Document} (h : d.CanonicalWithin levels) :
    (∃ r, Document.read d.write = .ok r) ↔ d.toJson.depth ≤ Json.maxDepth := by
  constructor
  · rintro ⟨r, hr⟩
    have hwords : d.toJson.Words := ⟨wordsItems_toJson h.items, .of_inRange h.lastResetAt, trivial⟩
    have hecho : d.echo.CanonicalWithin levels := by
      refine ⟨fun e he => ?_, h.lastResetAt⟩
      obtain ⟨e', he', rfl⟩ := List.mem_map.mp he
      exact Entitlement.canonical_echo (h.items e' he')
    rw [Document.read_written hwords] at hr
    split at hr
    · cases hr
    · rename_i hdecode
      have hdepth := Document.depth_of_decode hecho hdecode
      rw [← Document.echo_toJson, Json.depth_echo] at hdepth
      exact hdepth
  · intro hdepth
    exact ⟨_, Document.read_write (h.canonical hdepth)⟩

/-! ## The older form -/

/-- The text of an array begins and ends with a bracket. -/
theorem chars_array_brackets (xs : List Json) :
    ∃ cs, (Json.array xs).chars = '[' :: (cs ++ [']']) := by
  have hrest : ∀ xs : List Json, ∃ cs, Json.charsItems xs = cs ++ [']'] := by
    intro xs
    induction xs with
    | nil => exact ⟨[], rfl⟩
    | cons v r ih =>
      obtain ⟨cs, hcs⟩ := ih
      refine ⟨',' :: (v.chars ++ cs), ?_⟩
      rw [Json.charsItems, hcs]
      simp
  cases xs with
  | nil => exact ⟨[], rfl⟩
  | cons v r =>
    obtain ⟨cs, hcs⟩ := hrest r
    refine ⟨v.chars ++ cs, ?_⟩
    rw [Json.chars, hcs]
    simp

/-- The bare items are read as a document in its older form, and their members may nest one level
deeper than in the present form. -/
theorem Document.read_older {es : List Entitlement} (h : ∀ e ∈ es, e.CanonicalWithin 125) :
    Document.read (Json.array (es.map Entitlement.toJson)).render =
      .ok (⟨es.map Entitlement.echo, 0⟩, true) := by
  generalize htext : (Json.array (es.map Entitlement.toJson)).render = text
  have hlist : text.toList = (Json.array (es.map Entitlement.toJson)).chars := by
    rw [← htext]
    exact String.toList_ofList
  obtain ⟨cs, hcs⟩ := chars_array_brackets (es.map Entitlement.toJson)
  have hread : Json.Tree.read text.toList =
      (.list (itemsToTree ((es.map Entitlement.echo).map Entitlement.toJson)), true) := by
    have hwords : (Json.array (es.map Entitlement.toJson)).Words := wordsItems_toJson h
    rw [hlist, Json.read_chars hwords, Json.echo, echoItems_toJson]
    rfl
  have hdecode : Document.decodeOlder Json.maxDepth
      (.list (itemsToTree ((es.map Entitlement.echo).map Entitlement.toJson))) =
      .ok ⟨es.map Entitlement.echo, 0⟩ := by
    have hecho : ∀ e ∈ es.map Entitlement.echo, e.CanonicalWithin 125 := by
      intro e he
      obtain ⟨e', he', rfl⟩ := List.mem_map.mp he
      exact Entitlement.canonical_echo (h e' he')
    have hitems : nullAs [] (list Entitlement.decode) Json.maxDepth
        (.list (itemsToTree ((es.map Entitlement.echo).map Entitlement.toJson))) =
        .ok (es.map Entitlement.echo) := items_toTree (by decide) hecho
    unfold Document.decodeOlder
    rw [hitems]
  rw [Document.read_of_ends (by decide) (by decide) (by decide) (hlist.trans hcs), if_pos rfl]
  unfold run
  rw [hread]
  dsimp only
  rw [hdecode]
  rfl

/-! ## Documents that are read back as they are -/

/-- The stored form holds no doubles and nests no deeper than a text may. -/
def Document.Storable (d : Document) : Prop := d.toJson.Plain Json.maxDepth

/-- A document that is read back as it is. -/
structure Document.Faithful (d : Document) : Prop where
  canonical : d.Canonical
  plain : ∀ e ∈ d.items, PlainMembers 124 e.extra

theorem plainMembers_append {levels : Nat} {ms ms' : Json.Members} :
    PlainMembers levels (ms ++ ms') ↔ PlainMembers levels ms ∧ PlainMembers levels ms' := by
  rw [Json.plainMembers_iff, Json.plainMembers_iff, Json.plainMembers_iff, List.forall_mem_append]

theorem Entitlement.plain_toJson {e : Entitlement} :
    e.toJson.Plain 125 ↔ PlainMembers 124 e.extra := by
  unfold Entitlement.toJson Json.Plain
  rw [plainMembers_append]
  constructor
  · rintro ⟨-, -, hextra⟩
    exact hextra
  · intro hextra
    exact ⟨by decide, by simp [PlainMembers, Json.Plain, Window.toJson, Term.toJson], hextra⟩

/-- Only the members without a meaning can keep a document from being stored. -/
theorem Document.storable_iff {d : Document} :
    d.Storable ↔ ∀ e ∈ d.items, PlainMembers 124 e.extra := by
  have hplain : d.Storable ↔ Json.PlainItems 125 (d.items.map Entitlement.toJson) := by
    simp [Document.Storable, Document.toJson, Json.Plain, PlainMembers, Json.maxDepth]
  rw [hplain, Json.plainItems_iff, List.forall_mem_map]
  exact forall₂_congr fun e _ => Entitlement.plain_toJson

/-- A document without doubles that is not too deep is faithful, whatever form it was read from. -/
theorem Document.CanonicalWithin.faithful {levels : Nat} {d : Document}
    (h : d.CanonicalWithin levels) (hstorable : d.Storable) : d.Faithful :=
  ⟨h.canonical (Json.depth_le_of_plain d.toJson Json.maxDepth hstorable),
    Document.storable_iff.mp hstorable⟩

theorem Document.faithful_of_read {raw : String} {d : Document} {older : Bool}
    (hread : Document.read raw = .ok (d, older)) (h : d.Storable) : d.Faithful :=
  (Document.canonicalWithin_of_read hread).faithful h

theorem Document.echo_of_plain {d : Document} (h : ∀ e ∈ d.items, PlainMembers 124 e.extra) :
    d.echo = d := by
  have hitem : ∀ e ∈ d.items, e.echo = e := by
    intro e he
    unfold Entitlement.echo
    rw [Json.echoMembers_of_plain e.extra 124 (h e he)]
  unfold Document.echo
  rw [List.map_congr_left hitem, List.map_id']

/-- What is written is read back unchanged. -/
theorem Document.read_write_faithful {d : Document} (h : d.Faithful) :
    Document.read d.write = .ok (d, false) := by
  rw [Document.read_write h.canonical, Document.echo_of_plain h.plain]

/-! ## One text for each document -/

/-- The integers of the document are words, and the members without a meaning stand in the order
of their keys, however deep their values nest. -/
def Document.WellFormed (d : Document) : Prop := ∃ levels, d.CanonicalWithin levels

theorem Document.WellFormed.faithful {d : Document} (h : d.WellFormed) (hstorable : d.Storable) :
    d.Faithful := by
  obtain ⟨levels, hcanonical⟩ := h
  exact hcanonical.faithful hstorable

/-- White space around a text makes no difference to what is read. -/
theorem Document.read_padded {l r : List Char} (hl : ∀ c ∈ l, Text.isBlank c = true)
    (hr : ∀ c ∈ r, Text.isBlank c = true) (raw : String) :
    Document.read (String.ofList (l ++ raw.toList ++ r)) = Document.read raw := by
  have htrim : Text.trim (String.ofList (l ++ raw.toList ++ r)) = Text.trim raw := by
    unfold Text.trim
    rw [String.toList_ofList, Text.strip_padded hl hr]
  unfold Document.read
  rw [htrim]

/-- A well-formed document without doubles that is not too deep is read back as it is, in its
present form, whatever white space stands around its text; so no other such document has the same
text. -/
theorem Document.write_faithful {d : Document} (h : d.WellFormed) (hstorable : d.Storable) :
    (∀ l r : List Char, (∀ c ∈ l, Text.isBlank c = true) → (∀ c ∈ r, Text.isBlank c = true) →
      Document.read (String.ofList (l ++ d.write.toList ++ r)) = .ok (d, false)) ∧
    ∀ d' : Document, d'.WellFormed → d'.Storable → d'.write = d.write → d' = d := by
  have hread := Document.read_write_faithful (h.faithful hstorable)
  constructor
  · intro l r hl hr
    rw [Document.read_padded hl hr]
    exact hread
  · intro d' h' hstorable' hsame
    have hread' := Document.read_write_faithful (h'.faithful hstorable')
    rw [hsame, hread] at hread'
    cases hread'
    rfl

/-- An entitlement whose names need escapes, with the largest integers there are and a member
without a meaning that nests. -/
def oddEntitlement : Entitlement :=
  { planName := "a \"plan\"\\", planId := "\x00\n", subscriptionId := "😀"
    short := ⟨Word.greatest, Word.least, 0⟩, long := ⟨0, -1, 1⟩, term := ⟨Word.least, 7, true⟩
    owner := -3, status := ""
    extra := [("note", .array [.int Word.greatestUnsigned, .object []])] }

theorem wellFormed_oddEntitlement : Document.WellFormed ⟨[oddEntitlement], -1⟩ := by
  refine ⟨2, List.forall_mem_singleton.mpr ⟨?_, ?_, ?_, by decide, ?_⟩, by decide⟩
  · exact ⟨by decide, by decide, by decide⟩
  · exact ⟨by decide, by decide, by decide⟩
  · exact ⟨by decide, by decide⟩
  · refine ⟨List.forall_mem_singleton.mpr (by decide), List.pairwise_singleton _ _, ?_⟩
    simp [oddEntitlement, Json.CanonicalMembers, Json.Canonical, Json.CanonicalItems, Json.IsWord]
    decide

theorem write_faithful_odd :
    Document.read (String.ofList
        (['\n', ' '] ++ (Document.write ⟨[oddEntitlement], -1⟩).toList ++ ['\t'])) =
      .ok (⟨[oddEntitlement], -1⟩, false) := by
  have hstorable : Document.Storable ⟨[oddEntitlement], -1⟩ := by
    rw [Document.storable_iff]
    simp [oddEntitlement, Json.PlainMembers, Json.Plain, Json.PlainItems]
  apply (Document.write_faithful wellFormed_oddEntitlement hstorable).1
  · simp [Text.isBlank]
  · simp [Text.isBlank]

end Turnstile.Subscription
