import Turnstile.Proofs.Json.Reading

/-!
# The values that the reader makes

A value that was made of a tree with a budget of levels is canonical: its integers are 64-bit
words, it nests no deeper than the budget, and the keys of its objects ascend.  A canonical value
is what is made of its own tree, and so a canonical value that is written is read back as its echo,
which is canonical again.

* `toJson?_toTree` — a canonical value is made of its tree;
* `words_read`, `canonical_of_toJson?` — whatever is made of a tree that was read is canonical;
* `canonical_echo` — and stays so when it is written and read once more;
* `echo_of_plain` — where a value holds no doubles, it is read back as it is.
-/

set_option autoImplicit false

namespace Turnstile.Json

mutual

/-- Words for integers, ascending keys, and no more than `budget` levels. -/
def Canonical (budget : Nat) : Json → Prop
  | .int n => IsWord n
  | .array xs => 0 < budget ∧ CanonicalItems (budget - 1) xs
  | .object ms => 0 < budget ∧ (ms.map Prod.fst).Pairwise (· < ·) ∧
    CanonicalMembers (budget - 1) ms
  | _ => True

/-- Every item is canonical. -/
def CanonicalItems (budget : Nat) : List Json → Prop
  | [] => True
  | v :: r => v.Canonical budget ∧ CanonicalItems budget r

/-- The value of every member is canonical. -/
def CanonicalMembers (budget : Nat) : Members → Prop
  | [] => True
  | (_, v) :: r => v.Canonical budget ∧ CanonicalMembers budget r

end

theorem canonicalMembers_iff {budget : Nat} {ms : Members} :
    CanonicalMembers budget ms ↔ ∀ m ∈ ms, m.2.Canonical budget := by
  induction ms with
  | nil => exact ⟨fun _ _ h => (nomatch h), fun _ => trivial⟩
  | cons m r ih =>
    rw [CanonicalMembers, ih, List.forall_mem_cons]

/-! ## Members in order -/

/-- A member whose key lies beyond all others comes last. -/
theorem insert_last {key : String} (value : Json) {ms : Members} (h : ∀ m ∈ ms, m.1 < key) :
    insert key value ms = ms ++ [(key, value)] := by
  induction ms with
  | nil => rfl
  | cons m r ih =>
    obtain ⟨k, v⟩ := m
    have hlt : k < key := h (k, v) List.mem_cons_self
    have hne : key ≠ k := fun heq => String.lt_irrefl k (heq ▸ hlt)
    have hnot : ¬ key < k := fun hgt => String.lt_irrefl k (String.lt_trans hlt hgt)
    rw [insert, if_neg hne, if_neg hnot, ih fun m hm => h m (List.mem_cons_of_mem _ hm)]
    rfl

theorem mem_insert {key : String} {value : Json} {ms : Members} {m : String × Json}
    (h : m ∈ insert key value ms) : m = (key, value) ∨ m ∈ ms := by
  induction ms with
  | nil => exact .inl (List.mem_singleton.mp h)
  | cons m' r ih =>
    obtain ⟨k, v⟩ := m'
    unfold insert at h
    split at h
    · rcases List.mem_cons.mp h with h | h
      · exact .inl h
      · exact .inr (List.mem_cons_of_mem _ h)
    · split at h
      · exact List.mem_cons.mp h
      · rcases List.mem_cons.mp h with h | h
        · exact .inr (h ▸ List.mem_cons_self)
        · rcases ih h with h | h
          · exact .inl h
          · exact .inr (List.mem_cons_of_mem _ h)

theorem insert_ascending {key : String} {value : Json} {ms : Members}
    (h : (ms.map Prod.fst).Pairwise (· < ·)) :
    ((insert key value ms).map Prod.fst).Pairwise (· < ·) := by
  induction ms with
  | nil => exact List.pairwise_singleton _ _
  | cons m r ih =>
    obtain ⟨k, v⟩ := m
    obtain ⟨hk, hr⟩ := List.pairwise_cons.mp h
    unfold insert
    split
    · rename_i heq
      rw [heq]
      exact List.pairwise_cons.mpr ⟨hk, hr⟩
    · rename_i hne
      split
      · rename_i hlt
        refine List.pairwise_cons.mpr ⟨fun x hx => ?_, h⟩
        rcases List.mem_cons.mp hx with rfl | hx
        · exact hlt
        · exact String.lt_trans hlt (hk x hx)
      · rename_i hnot
        have hlt : k < key := Std.lt_of_le_of_ne hnot (Ne.symm hne)
        refine List.pairwise_cons.mpr ⟨fun x hx => ?_, ih hr⟩
        obtain ⟨m, hm, rfl⟩ := List.mem_map.mp hx
        rcases mem_insert hm with rfl | hm
        · exact hlt
        · exact hk m.1 (List.mem_map_of_mem hm)

/-! ## Trees and canonical values -/

mutual

/-- A canonical value is made of its tree. -/
theorem toJson?_toTree : ∀ (v : Json) (budget : Nat), v.Canonical budget →
    v.toTree.toJson? budget = some v
  | .null, _, _ => rfl
  | .bool _, _, _ => rfl
  | .int _, _, _ => rfl
  | .float _, _, _ => rfl
  | .text _, _, _ => rfl
  | .array xs, budget, h => by
    have hpos : budget ≠ 0 := Nat.ne_of_gt h.1
    rw [toTree, Tree.toJson?, if_neg hpos, itemsToJson?_toTree xs (budget - 1) h.2]
    rfl
  | .object ms, budget, h => by
    have hpos : budget ≠ 0 := Nat.ne_of_gt h.1
    have hmembers := membersToJson?_toTree ms (budget - 1) [] h.2.2 h.2.1
    rw [toTree, Tree.toJson?, if_neg hpos, hmembers]
    rfl

theorem itemsToJson?_toTree : ∀ (xs : List Json) (budget : Nat), CanonicalItems budget xs →
    itemsToJson? budget (itemsToTree xs) = some xs
  | [], _, _ => rfl
  | v :: r, budget, h => by
    rw [itemsToTree, itemsToJson?, toJson?_toTree v budget h.1]
    dsimp only
    rw [itemsToJson?_toTree r budget h.2]
    rfl

/-- Members in order are put behind those that were there before, if these come first. -/
theorem membersToJson?_toTree : ∀ (ms : Members) (budget : Nat) (acc : Members),
    CanonicalMembers budget ms → ((acc ++ ms).map Prod.fst).Pairwise (· < ·) →
    membersToJson? budget acc (membersToTree ms) = some (acc ++ ms)
  | [], _, acc, _, _ => by rw [List.append_nil]; rfl
  | (k, v) :: r, budget, acc, h, hkeys => by
    have hlast : ∀ m ∈ acc, m.1 < k := by
      intro m hm
      rw [List.map_append] at hkeys
      exact (List.pairwise_append.mp hkeys).2.2 m.1 (List.mem_map_of_mem hm) k List.mem_cons_self
    have hassoc : acc ++ (k, v) :: r = (acc ++ [(k, v)]) ++ r := by simp
    rw [membersToTree, membersToJson?, toJson?_toTree v budget h.1]
    dsimp only
    rw [insert_last v hlast, hassoc]
    rw [hassoc] at hkeys
    exact membersToJson?_toTree r budget (acc ++ [(k, v)]) h.2 hkeys

end

mutual

theorem words_of_canonical : ∀ (v : Json) (budget : Nat), v.Canonical budget → v.Words
  | .null, _, _ => trivial
  | .bool _, _, _ => trivial
  | .int _, _, h => h
  | .float _, _, _ => trivial
  | .text _, _, _ => trivial
  | .array xs, budget, h => wordsItems_of_canonical xs (budget - 1) h.2
  | .object ms, budget, h => wordsMembers_of_canonical ms (budget - 1) h.2.2

theorem wordsItems_of_canonical : ∀ (xs : List Json) (budget : Nat), CanonicalItems budget xs →
    WordsItems xs
  | [], _, _ => trivial
  | v :: r, budget, h => ⟨words_of_canonical v budget h.1, wordsItems_of_canonical r budget h.2⟩

theorem wordsMembers_of_canonical : ∀ (ms : Members) (budget : Nat), CanonicalMembers budget ms →
    WordsMembers ms
  | [], _, _ => trivial
  | (_, v) :: r, budget, h =>
    ⟨words_of_canonical v budget h.1, wordsMembers_of_canonical r budget h.2⟩

end

/-- The text of a double is read as a double or as `null`. -/
theorem reread_cases (x : Float) : reread x = .null ∨ ∃ y, reread x = .float y := by
  unfold reread
  rcases text_cases x with htext | ⟨n, hn, htext, y, hy⟩
  · rw [htext]
    exact .inl rfl
  · have hscan := Numeral.scan?_written hn Numeral.stops_nil
    rw [List.append_nil] at hscan
    rw [htext, hscan]
    dsimp only
    rw [hy]
    exact .inr ⟨y, rfl⟩

theorem keys_echoMembers (ms : Members) : (echoMembers ms).map Prod.fst = ms.map Prod.fst := by
  induction ms with
  | nil => rfl
  | cons m r ih => rw [echoMembers, List.map_cons, ih, List.map_cons]

mutual

/-- Written and read, a canonical value stays canonical. -/
theorem canonical_echo : ∀ (v : Json) (budget : Nat), v.Canonical budget →
    v.echo.Canonical budget
  | .null, _, _ => trivial
  | .bool _, _, _ => trivial
  | .int _, _, h => h
  | .float x, _, _ => by
    rw [echo]
    rcases reread_cases x with h | ⟨y, h⟩
    · rw [h]
      trivial
    · rw [h]
      trivial
  | .text _, _, _ => trivial
  | .array xs, budget, h => ⟨h.1, canonicalItems_echo xs (budget - 1) h.2⟩
  | .object ms, budget, h => by
    refine ⟨h.1, ?_, canonicalMembers_echo ms (budget - 1) h.2.2⟩
    rw [keys_echoMembers]
    exact h.2.1

theorem canonicalItems_echo : ∀ (xs : List Json) (budget : Nat), CanonicalItems budget xs →
    CanonicalItems budget (echoItems xs)
  | [], _, _ => trivial
  | v :: r, budget, h => ⟨canonical_echo v budget h.1, canonicalItems_echo r budget h.2⟩

theorem canonicalMembers_echo : ∀ (ms : Members) (budget : Nat), CanonicalMembers budget ms →
    CanonicalMembers budget (echoMembers ms)
  | [], _, _ => trivial
  | (_, v) :: r, budget, h => ⟨canonical_echo v budget h.1, canonicalMembers_echo r budget h.2⟩

end

/-! ## Plain values -/

mutual

/-- No doubles, and no more than `levels` levels. -/
def Plain (levels : Nat) : Json → Prop
  | .float _ => False
  | .array xs => 0 < levels ∧ PlainItems (levels - 1) xs
  | .object ms => 0 < levels ∧ PlainMembers (levels - 1) ms
  | _ => True

/-- Every item is plain. -/
def PlainItems (levels : Nat) : List Json → Prop
  | [] => True
  | v :: r => v.Plain levels ∧ PlainItems levels r

/-- The value of every member is plain. -/
def PlainMembers (levels : Nat) : Members → Prop
  | [] => True
  | (_, v) :: r => v.Plain levels ∧ PlainMembers levels r

end

theorem plainItems_iff {levels : Nat} {xs : List Json} :
    PlainItems levels xs ↔ ∀ v ∈ xs, v.Plain levels := by
  induction xs with
  | nil => exact ⟨fun _ _ h => (nomatch h), fun _ => trivial⟩
  | cons v r ih => rw [PlainItems, ih, List.forall_mem_cons]

theorem plainMembers_iff {levels : Nat} {ms : Members} :
    PlainMembers levels ms ↔ ∀ m ∈ ms, m.2.Plain levels := by
  induction ms with
  | nil => exact ⟨fun _ _ h => (nomatch h), fun _ => trivial⟩
  | cons m r ih => rw [PlainMembers, ih, List.forall_mem_cons]

mutual

/-- A plain value is read back as it is. -/
theorem echo_of_plain : ∀ (v : Json) (levels : Nat), v.Plain levels → v.echo = v
  | .null, _, _ => rfl
  | .bool _, _, _ => rfl
  | .int _, _, _ => rfl
  | .float _, _, h => h.elim
  | .text _, _, _ => rfl
  | .array xs, levels, h => by rw [echo, echoItems_of_plain xs (levels - 1) h.2]
  | .object ms, levels, h => by rw [echo, echoMembers_of_plain ms (levels - 1) h.2]

theorem echoItems_of_plain : ∀ (xs : List Json) (levels : Nat), PlainItems levels xs →
    echoItems xs = xs
  | [], _, _ => rfl
  | v :: r, levels, h => by
    rw [echoItems, echo_of_plain v levels h.1, echoItems_of_plain r levels h.2]

theorem echoMembers_of_plain : ∀ (ms : Members) (levels : Nat), PlainMembers levels ms →
    echoMembers ms = ms
  | [], _, _ => rfl
  | (_, v) :: r, levels, h => by
    rw [echoMembers, echo_of_plain v levels h.1, echoMembers_of_plain r levels h.2]

end

/-! ## What is read -/

mutual

/-- All integers of the tree are 64-bit words. -/
def Tree.Words : Tree → Prop
  | .int n => IsWord n
  | .list ts => WordsTrees ts
  | .record ms => WordsFields ms
  | _ => True

/-- All integers of the items are 64-bit words. -/
def WordsTrees : List Tree → Prop
  | [] => True
  | t :: r => t.Words ∧ WordsTrees r

/-- All integers of the members are 64-bit words. -/
def WordsFields : List (Option String × Tree) → Prop
  | [] => True
  | (_, t) :: r => t.Words ∧ WordsFields r

end

/-- The integer of a number is a word. -/
theorem Numeral.isWord_of_integer? {n : Numeral} {i : Int} (h : n.integer? = some i) :
    IsWord i := by
  unfold Numeral.integer? Word.greatestUnsigned at h
  unfold IsWord Word.least Word.greatestUnsigned
  dsimp only at h
  split at h
  · split at h
    · split at h
      · rename_i hv
        cases h
        simp only [Bool.and_eq_true, decide_eq_true_eq] at hv
        omega
      · cases h
    · split at h
      · rename_i hv
        cases h
        omega
      · cases h
  · cases h

theorem words_readLeaf (cs : List Char) : (readLeaf cs).1.Words := by
  unfold readLeaf
  split
  · trivial
  · trivial
  · trivial
  · split
    · trivial
    · split <;> trivial
  · split
    · trivial
    · rename_i n r _
      split
      · rename_i i hvalue
        show IsWord i
        unfold Numeral.value? at hvalue
        split at hvalue
        · rename_i hinteger
          cases hvalue
          exact Numeral.isWord_of_integer? hinteger
        · cases hf : n.float? with
          | none => rw [hf] at hvalue; cases hvalue
          | some x => rw [hf] at hvalue; cases hvalue
      · trivial
      · trivial

mutual

/-- Whatever is read, its integers are words. -/
theorem words_readValue : ∀ (fuel : Nat) (cs : List Char), (readValue fuel cs).1.Words
  | 0, _ => trivial
  | fuel + 1, cs => by
    rw [readValue]
    split
    · split
      · trivial
      · exact words_readItems fuel _
    · split
      · trivial
      · exact words_readMembers fuel _
    · exact words_readLeaf _

theorem words_readItems : ∀ (fuel : Nat) (cs : List Char), WordsTrees (readItems fuel cs).1
  | 0, _ => ⟨trivial, trivial⟩
  | fuel + 1, cs => by
    have hvalue := words_readValue fuel cs
    rw [readItems]
    split
    · rename_i h
      rw [h] at hvalue
      exact ⟨hvalue, trivial⟩
    · rename_i h
      rw [h] at hvalue
      split
      · exact ⟨hvalue, trivial⟩
      · exact ⟨hvalue, words_readItems fuel _⟩
      · exact ⟨hvalue, trivial, trivial⟩

theorem words_readMembers : ∀ (fuel : Nat) (cs : List Char), WordsFields (readMembers fuel cs).1
  | 0, _ => ⟨trivial, trivial⟩
  | fuel + 1, cs => by
    rw [readMembers]
    split
    · split
      · exact ⟨trivial, trivial⟩
      · split
        · rename_i r _
          have hvalue := words_readValue fuel r
          split
          · rename_i h
            rw [h] at hvalue
            exact ⟨hvalue, trivial⟩
          · rename_i h
            rw [h] at hvalue
            split
            · exact ⟨hvalue, trivial⟩
            · exact ⟨hvalue, words_readMembers fuel _⟩
            · exact ⟨hvalue, trivial, trivial⟩
        · exact ⟨trivial, trivial⟩
    · exact ⟨trivial, trivial⟩

end

theorem words_read (cs : List Char) : (Tree.read cs).1.Words := by
  have hvalue := words_readValue (2 * cs.length + 2) cs
  unfold Tree.read
  split
  · rename_i h
    rw [h] at hvalue
    exact hvalue
  · rename_i h
    rw [h] at hvalue
    exact hvalue

mutual

/-- What is made of a tree is canonical. -/
theorem canonical_of_toJson? : ∀ (t : Tree) (budget : Nat) (v : Json), t.Words →
    t.toJson? budget = some v → v.Canonical budget
  | .null, _, _, _, h => by cases h; trivial
  | .bool _, _, _, _, h => by cases h; trivial
  | .int _, _, _, hwords, h => by cases h; exact hwords
  | .float _, _, _, _, h => by cases h; trivial
  | .text _, _, _, _, h => by cases h; trivial
  | .unreadable, _, _, _, h => nomatch h
  | .broken, _, _, _, h => nomatch h
  | .list ts, budget, v, hwords, h => by
    rw [Tree.toJson?] at h
    split at h
    · cases h
    · rename_i hpos
      obtain ⟨xs, hxs, rfl⟩ := Option.map_eq_some_iff.mp h
      exact ⟨Nat.pos_of_ne_zero hpos, canonical_of_itemsToJson? ts (budget - 1) xs hwords hxs⟩
  | .record fs, budget, v, hwords, h => by
    rw [Tree.toJson?] at h
    split at h
    · cases h
    · rename_i hpos
      obtain ⟨ms, hms, rfl⟩ := Option.map_eq_some_iff.mp h
      obtain ⟨hkeys, hvalues⟩ := canonical_of_membersToJson? fs (budget - 1) [] ms hwords
        List.Pairwise.nil trivial hms
      exact ⟨Nat.pos_of_ne_zero hpos, hkeys, hvalues⟩

theorem canonical_of_itemsToJson? : ∀ (ts : List Tree) (budget : Nat) (xs : List Json),
    WordsTrees ts → itemsToJson? budget ts = some xs → CanonicalItems budget xs
  | [], _, _, _, h => by cases h; trivial
  | t :: r, budget, xs, hwords, h => by
    rw [itemsToJson?] at h
    split at h
    · cases h
    · rename_i v hv
      obtain ⟨vs, hvs, rfl⟩ := Option.map_eq_some_iff.mp h
      exact ⟨canonical_of_toJson? t budget v hwords.1 hv,
        canonical_of_itemsToJson? r budget vs hwords.2 hvs⟩

theorem canonical_of_membersToJson? : ∀ (fs : List (Option String × Tree)) (budget : Nat)
    (acc ms : Members), WordsFields fs → (acc.map Prod.fst).Pairwise (· < ·) →
    CanonicalMembers budget acc → membersToJson? budget acc fs = some ms →
    (ms.map Prod.fst).Pairwise (· < ·) ∧ CanonicalMembers budget ms
  | [], _, _, _, _, hkeys, hacc, h => by cases h; exact ⟨hkeys, hacc⟩
  | (none, _) :: _, _, _, _, _, _, _, h => nomatch h
  | (some k, t) :: r, budget, acc, ms, hwords, hkeys, hacc, h => by
    rw [membersToJson?] at h
    split at h
    · cases h
    · rename_i v hv
      refine canonical_of_membersToJson? r budget (insert k v acc) ms hwords.2
        (insert_ascending hkeys) ?_ h
      rw [canonicalMembers_iff] at hacc ⊢
      intro m hm
      rcases mem_insert hm with rfl | hm
      · exact canonical_of_toJson? t budget v hwords.1 hv
      · exact hacc m hm

end

end Turnstile.Json
