import Mathlib.Data.List.NodupEquivFin
import Turnstile.Proofs.Subscription.FirstFit

/-!
# A selection finds its entitlement wherever it has gone

Between the moment when a selection was made and the moment when it is used, others may have put
the entitlements of the document in another order, taken some out, put new ones in, and changed
what is left in their windows.  None of this touches what a fingerprint is made of.  So as long as
the fingerprint of the selected entitlement stood once and is not put in anew, it stands where the
entitlement stands, and nowhere once the entitlement is gone.

To say where an entitlement has gone, the entitlements of a document are marked: one is the one
that is followed, and every change of the document carries the marks along.

* `Selection.Reads`, `Selection.wellFormed_iff` — the texts that are selections;
* `Changed` — what may happen to a document; `Document.charge?_changed`, `Document.pruned_changed`,
  `Document.adjustIn_changed` — the ledger does nothing else;
* `Document.locate?_changed` — where a selection leads after any changes.
-/

set_option autoImplicit false

namespace Turnstile.Subscription

/-! ## The texts of selections -/

namespace Selection

/-- The text is `fp:`, the fingerprint, which is not empty, and further parts, with bars between
them. -/
structure Reads (s : Selection) (fingerprint : String) (parts : List (List Char)) : Prop where
  text : s.text.toList = mark ++ Text.joinWith ['|'] (fingerprint.toList :: parts)
  nonempty : fingerprint ≠ ""
  bars : ∀ p ∈ fingerprint.toList :: parts, ∀ c ∈ p, c ≠ '|'

theorem behind?_eq_some_iff {mark cs r : List Char} :
    behind? mark cs = some r ↔ cs = mark ++ r := by
  unfold behind?
  constructor
  · intro h
    split at h
    · rename_i hmark
      obtain ⟨r', rfl⟩ := List.isPrefixOf_iff_prefix.mp hmark
      simpa using h
    · cases h
  · rintro rfl
    simp

/-- A selection says its fingerprint, and as a hint the first place among its parts. -/
theorem address?_of_reads {s : Selection} {fingerprint : String} {parts : List (List Char)}
    (h : s.Reads fingerprint parts) :
    s.address? = some ⟨fingerprint, parts.findSome? place?⟩ := by
  have hbehind := behind?_eq_some_iff.mpr h.text
  have hpieces := Text.pieces_joinWith (List.cons_ne_nil _ _) h.bars
  have hself : String.ofList fingerprint.toList = fingerprint := String.ofList_toList
  unfold address?
  rw [hbehind]
  dsimp only
  rw [hpieces]
  cases hlist : fingerprint.toList with
  | nil =>
    rw [hlist] at hself
    exact absurd hself.symm h.nonempty
  | cons c r =>
    rw [hlist] at hself
    dsimp only
    rw [hself]

/-- Nothing else says anything. -/
theorem reads_of_address? {s : Selection} {a : Address} (h : s.address? = some a) :
    ∃ parts, s.Reads a.fingerprint parts ∧ a.hint = parts.findSome? place? := by
  unfold address? at h
  split at h
  · cases h
  · rename_i payload hbehind
    have htext := behind?_eq_some_iff.mp hbehind
    have hjoin := Text.joinWith_pieces '|' payload
    have hbars : ∀ p ∈ Text.pieces '|' payload, ∀ c ∈ p, c ≠ '|' := Text.ne_of_mem_pieces
    split at h
    · cases h
    · cases h
    · rename_i fingerprint parts hne hpieces
      cases h
      rw [hpieces] at hjoin hbars
      refine ⟨parts, ⟨?_, ?_, ?_⟩, rfl⟩
      · rw [String.toList_ofList, hjoin]
        exact htext
      · intro hempty
        have hnil : fingerprint = [] := by simpa using congrArg String.toList hempty
        exact hne hnil
      · rw [String.toList_ofList]
        exact hbars

theorem wellFormed_iff {s : Selection} :
    s.wellFormed = true ↔ ∃ fingerprint parts, s.Reads fingerprint parts := by
  unfold wellFormed
  constructor
  · intro h
    obtain ⟨a, ha⟩ := Option.isSome_iff_exists.mp h
    obtain ⟨parts, hreads, -⟩ := reads_of_address? ha
    exact ⟨a.fingerprint, parts, hreads⟩
  · rintro ⟨fingerprint, parts, h⟩
    rw [address?_of_reads h]
    rfl

end Selection

/-! ## Changes of a document -/

/-- An entitlement, and whether it is the one that is followed. -/
structure Marked where
  followed : Bool
  entitlement : Entitlement

/-- What does not change about a marked entitlement. -/
def Marked.key (m : Marked) : Bool × String := (m.followed, m.entitlement.fingerprint)

/-- The entitlements of a document, where the one at `i` is followed. -/
def Document.marked (d : Document) (i : Nat) : List Marked :=
  d.items.mapIdx fun j e => ⟨j == i, e⟩

/-- What may happen to one entitlement. -/
inductive Revised : Entitlement → Entitlement → Prop
  | debit (e : Entitlement) (amount : Int) : Revised e (e.debit amount)
  | adjust {e e' : Entitlement} {delta : Int} : e.adjust delta = .ok e' → Revised e e'
  | rollOver (e : Entitlement) (now : Int) : Revised e (e.rollOver now)
  /-- The document was written, and read again. -/
  | stored (e : Entitlement) : Revised e e.echo

/-- The entitlements that pruning leaves, with their marks. -/
def prunedMarks (now : Int) (l : List Marked) : List Marked :=
  (l.filter (·.entitlement.deployed)).map fun m =>
    { m with entitlement := m.entitlement.rollOver now }

/-- What may happen to the entitlements of a document while the fingerprint is not put in anew. -/
inductive Changed (fingerprint : String) : List Marked → List Marked → Prop
  | reorder {l l' : List Marked} : l.Perm l' → Changed fingerprint l l'
  | remove (l : List Marked) (k : Nat) : Changed fingerprint l (l.eraseIdx k)
  | insert (l : List Marked) (k : Nat) {e : Entitlement} : e.fingerprint ≠ fingerprint →
    Changed fingerprint l (l.insertIdx k ⟨false, e⟩)
  | revise {l : List Marked} {k : Nat} {m : Marked} {e : Entitlement} : l[k]? = some m →
    Revised m.entitlement e → Changed fingerprint l (l.set k { m with entitlement := e })
  | prune (l : List Marked) (now : Int) : Changed fingerprint l (prunedMarks now l)

/-- The fingerprint is made of nothing that may change. -/
theorem Revised.fingerprint {e e' : Entitlement} (h : Revised e e') :
    e'.fingerprint = e.fingerprint := by
  cases h with
  | debit amount => rfl
  | adjust hadjust =>
    unfold Entitlement.adjust at hadjust
    dsimp only at hadjust
    split at hadjust
    · cases hadjust
    · cases hadjust
      rfl
  | rollOver now => rfl
  | stored => rfl

/-- The fingerprint stands where the entitlement stands that is followed, and at most once. -/
structure Tracked (fingerprint : String) (keys : List (Bool × String)) : Prop where
  mark : ∀ k ∈ keys, k.1 = true ↔ k.2 = fingerprint
  once : keys.count (true, fingerprint) ≤ 1

namespace Tracked

variable {fingerprint : String} {keys keys' : List (Bool × String)} {l l' : List Marked}

theorem of_subperm (h : Tracked fingerprint keys) (hsub : keys'.Subperm keys) :
    Tracked fingerprint keys' :=
  ⟨fun k hk => h.mark k (hsub.subset hk), Nat.le_trans (hsub.count_le _) h.once⟩

/-- Another fingerprint may be put in anywhere. -/
theorem cons (h : Tracked fingerprint keys) {other : String} (hne : other ≠ fingerprint) :
    Tracked fingerprint ((false, other) :: keys) := by
  constructor
  · rw [List.forall_mem_cons]
    exact ⟨by simp [hne], h.mark⟩
  · rw [List.count_cons_of_ne (by simp)]
    exact h.once

/-- What happens to a document keeps the fingerprint where the entitlement is. -/
theorem changed (h : Tracked fingerprint (l.map Marked.key))
    (hchanged : Changed fingerprint l l') : Tracked fingerprint (l'.map Marked.key) := by
  cases hchanged with
  | reorder hperm => exact h.of_subperm (hperm.symm.map Marked.key).subperm
  | remove k => exact h.of_subperm ((List.eraseIdx_sublist l k).map Marked.key).subperm
  | @insert k e hne =>
    by_cases hk : k ≤ l.length
    · have hperm := (List.perm_insertIdx (⟨false, e⟩ : Marked) l hk).map Marked.key
      exact (h.cons hne).of_subperm hperm.subperm
    · rw [List.insertIdx_of_length_lt (by omega)]
      exact h
  | @revise k m e hk hrevised =>
    have hkey : Marked.key { m with entitlement := e } = m.key := by
      simp [Marked.key, hrevised.fingerprint]
    rw [Run.map_set_same hk hkey]
    exact h
  | prune now =>
    have hkeys : (prunedMarks now l).map Marked.key =
        (l.filter (·.entitlement.deployed)).map Marked.key := by
      unfold prunedMarks
      rw [List.map_map]
      apply List.map_congr_left
      intro m _
      simp [Marked.key, (Revised.rollOver m.entitlement now).fingerprint]
    rw [hkeys]
    exact h.of_subperm (List.filter_sublist.map Marked.key).subperm

/-- Any changes do. -/
theorem run (h : Tracked fingerprint (l.map Marked.key))
    (hchanged : Relation.ReflTransGen (Changed fingerprint) l l') :
    Tracked fingerprint (l'.map Marked.key) := by
  induction hchanged with
  | refl => exact h
  | tail _ hstep ih => exact ih.changed hstep

/-- What is followed has the fingerprint, -/
theorem fingerprint_eq (h : Tracked fingerprint (l.map Marked.key)) {j : Nat} {e : Entitlement}
    (hj : l[j]? = some ⟨true, e⟩) : e.fingerprint = fingerprint := by
  have hmem := List.mem_map_of_mem (f := Marked.key) (List.mem_of_getElem? hj)
  exact (h.mark _ hmem).mp rfl

/-- and what has the fingerprint is followed. -/
theorem followed (h : Tracked fingerprint (l.map Marked.key)) {m : Marked} (hm : m ∈ l)
    (hsame : m.entitlement.fingerprint = fingerprint) : m = ⟨true, m.entitlement⟩ := by
  obtain ⟨followed, e⟩ := m
  have htrue : followed = true := (h.mark _ (List.mem_map_of_mem hm)).mpr hsame
  rw [htrue]

/-- It stands at one place. -/
theorem unique (h : Tracked fingerprint (l.map Marked.key)) {i j : Nat} {e e' : Entitlement}
    (hi : l[i]? = some ⟨true, e⟩) (hj : l[j]? = some ⟨true, e'⟩) : i = j := by
  have hkey : ∀ {k : Nat} {e : Entitlement}, l[k]? = some ⟨true, e⟩ →
      (l.map Marked.key)[k]? = some (true, fingerprint) := by
    intro k e hk
    simp [hk, Marked.key, h.fingerprint_eq hk]
  have hnot : ∀ {m n : Nat}, (l.map Marked.key)[m]? = some (true, fingerprint) →
      (l.map Marked.key)[n]? = some (true, fingerprint) → ¬ m < n := by
    intro m n hm hn hlt
    obtain ⟨hmlt, hm⟩ := List.getElem?_eq_some_iff.mp hm
    obtain ⟨hnlt, hn⟩ := List.getElem?_eq_some_iff.mp hn
    have hduplicate : List.Duplicate (true, fingerprint) (l.map Marked.key) :=
      List.duplicate_iff_exists_distinct_get.mpr ⟨⟨m, hmlt⟩, ⟨n, hnlt⟩, hlt, hm.symm, hn.symm⟩
    have htwice := (List.duplicate_iff_sublist.mp hduplicate).count_le (true, fingerprint)
    have honce := h.once
    rw [List.count_cons_self, List.count_cons_self] at htwice
    omega
  have hij := hnot (hkey hi) (hkey hj)
  have hji := hnot (hkey hj) (hkey hi)
  omega

end Tracked

/-- Where no fingerprint stands twice, the one at `i` stands nowhere else. -/
theorem Document.tracked_marked {d : Document} (hd : d.Distinct) {i : Nat} {e : Entitlement}
    (hi : d.items[i]? = some e) : Tracked e.fingerprint ((d.marked i).map Marked.key) := by
  have hkeys : ∀ j : Nat, ((d.marked i).map Marked.key)[j]? =
      (d.items[j]?).map fun e' => (j == i, e'.fingerprint) := by
    intro j
    simp [Document.marked, Marked.key, Function.comp_def]
  constructor
  · intro k hk
    obtain ⟨j, hj⟩ := List.getElem?_of_mem hk
    rw [hkeys] at hj
    obtain ⟨e', he', rfl⟩ := Option.map_eq_some_iff.mp hj
    rw [beq_iff_eq]
    constructor
    · rintro rfl
      rw [hi] at he'
      cases he'
      rfl
    · intro hsame
      exact hd j i e' e he' hi hsame
  · have hnodup : ((d.marked i).map Marked.key).Nodup := by
      rw [List.nodup_iff_getElem?_ne_getElem?]
      intro m n hlt hn hsame
      have hlen : n < d.items.length := by simpa [Document.marked] using hn
      rw [hkeys, hkeys, List.getElem?_eq_getElem (Nat.lt_trans hlt hlen),
        List.getElem?_eq_getElem hlen] at hsame
      have heq := hd m n _ _ (List.getElem?_eq_getElem (Nat.lt_trans hlt hlen))
        (List.getElem?_eq_getElem hlen) (congrArg Prod.snd (Option.some.inj hsame))
      omega
    exact List.nodup_iff_count_le_one.mp hnodup _

/-! ## What the ledger does are changes -/

namespace Document

variable {d : Document} {fingerprint : String} {l : List Marked}

/-- Replacing an entitlement by what became of it is a change. -/
theorem put_changed (hl : l.map Marked.entitlement = d.items) {k : Nat} {e e' : Entitlement}
    (hk : d.items[k]? = some e) (hrevised : Revised e e') :
    ∃ l', Changed fingerprint l l' ∧ l'.map Marked.entitlement = (d.put k e').items := by
  rw [← hl, List.getElem?_map] at hk
  obtain ⟨m, hm, rfl⟩ := Option.map_eq_some_iff.mp hk
  refine ⟨l.set k { m with entitlement := e' }, .revise hm hrevised, ?_⟩
  rw [List.map_set, hl]
  rfl

/-- Charging the first usable entitlement is a change. -/
theorem charge?_changed (hl : l.map Marked.entitlement = d.items) {d' : Document}
    {now amount : Int} {s : Selection} (h : d.charge? now amount = some (d', s)) :
    ∃ l', Changed fingerprint l l' ∧ l'.map Marked.entitlement = d'.items := by
  unfold charge? at h
  split at h
  · cases h
  · split at h
    · cases h
    · split at h
      · cases h
      · rename_i i _ e hi
        cases h
        exact put_changed hl hi (.debit e amount)

/-- Pruning is a change. -/
theorem pruned_changed (hl : l.map Marked.entitlement = d.items) (now : Int) :
    ∃ l', Changed fingerprint l l' ∧ l'.map Marked.entitlement = (d.pruned now).items := by
  refine ⟨prunedMarks now l, .prune l now, ?_⟩
  unfold prunedMarks pruned
  dsimp only
  rw [← hl, List.filter_map, List.map_map, List.map_map]
  rfl

/-- What an adjustment stores is made by a change. -/
theorem adjustIn_changed (hl : l.map Marked.entitlement = d.items) {raw text : String}
    {older : Bool} {s : Selection} {delta : Int} (hread : Document.read raw = .ok (d, older))
    (h : adjustIn s delta raw = .ok (some text, ())) :
    ∃ (d' : Document) (l' : List Marked), text = d'.write ∧ Changed fingerprint l l' ∧
      l'.map Marked.entitlement = d'.items := by
  rcases adjustIn_of_read hread s delta with
    ⟨-, hmissing⟩ | ⟨i, e, -, hi, ⟨-, hexhausted⟩ | ⟨e', hadjust, hstored⟩⟩
  · rw [hmissing] at h
    cases h
  · rw [hexhausted] at h
    cases h
  · rw [hstored] at h
    cases h
    obtain ⟨l', hchanged, hl'⟩ := put_changed hl hi (.adjust hadjust)
    exact ⟨_, l', rfl, hchanged, hl'⟩

end Document

/-! ## Where a selection leads -/

/-- The selection of an entitlement whose fingerprint stood once leads, after any changes that do
not put that fingerprint in anew, to the place where the entitlement stands, and nowhere if it is
gone.  Any other text in any other document leads only to a place that holds its fingerprint, which
is the hinted one if that does; and nowhere only if it is no selection or its fingerprint stands
nowhere. -/
theorem Document.locate?_changed {d d' : Document} (hd : d.Distinct) {i : Nat} {e : Entitlement}
    (hi : d.items[i]? = some e) {l : List Marked}
    (hchanged : Relation.ReflTransGen (Changed e.fingerprint) (d.marked i) l)
    (hl : l.map Marked.entitlement = d'.items) :
    ((∀ j e', l[j]? = some ⟨true, e'⟩ → d'.locate? (.of e i) = some j) ∧
      ((∀ m ∈ l, m.followed = false) → d'.locate? (.of e i) = none)) ∧
    ∀ (c : Document) (s : Selection),
      (∀ j, c.locate? s = some j → ∃ fingerprint parts e', s.Reads fingerprint parts ∧
        c.items[j]? = some e' ∧ e'.fingerprint = fingerprint) ∧
      (c.locate? s = none → ∀ fingerprint parts, s.Reads fingerprint parts →
        ∀ e' ∈ c.items, e'.fingerprint ≠ fingerprint) ∧
      ∀ fingerprint parts j e', s.Reads fingerprint parts →
        parts.findSome? Selection.place? = some j → c.items[j]? = some e' →
        e'.fingerprint = fingerprint → c.locate? s = some j := by
  refine ⟨?_, fun c s => ⟨?_, ?_, ?_⟩⟩
  · have htracked := (Document.tracked_marked hd hi).run hchanged
    have ha := Selection.address?_of e i
    -- Where the selection leads stands what is followed.
    have hfound : ∀ {j : Nat}, d'.locate? (.of e i) = some j → ∃ e', l[j]? = some ⟨true, e'⟩ := by
      intro j hlocate
      obtain ⟨a, e', ha', hj, hsame⟩ := Document.locate?_eq_some hlocate
      rw [ha] at ha'
      cases ha'
      rw [← hl, List.getElem?_map] at hj
      obtain ⟨m, hm, rfl⟩ := Option.map_eq_some_iff.mp hj
      refine ⟨m.entitlement, ?_⟩
      rw [hm, ← htracked.followed (List.mem_of_getElem? hm) hsame]
    constructor
    · intro j e' hj
      cases hlocate : d'.locate? (.of e i) with
      | none =>
        have hmem : e' ∈ d'.items := by
          rw [← hl]
          exact List.mem_map_of_mem (List.mem_of_getElem? hj)
        exact absurd (htracked.fingerprint_eq hj) (Document.locate?_eq_none hlocate ha e' hmem)
      | some j' =>
        obtain ⟨e'', hj'⟩ := hfound hlocate
        exact congrArg some (htracked.unique hj' hj)
    · intro hgone
      cases hlocate : d'.locate? (.of e i) with
      | none => rfl
      | some j =>
        obtain ⟨e', hj⟩ := hfound hlocate
        have hfollowed := hgone _ (List.mem_of_getElem? hj)
        cases hfollowed
  · intro j h
    obtain ⟨a, e', ha, hj, hsame⟩ := Document.locate?_eq_some h
    obtain ⟨parts, hreads, -⟩ := Selection.reads_of_address? ha
    exact ⟨a.fingerprint, parts, e', hreads, hj, hsame⟩
  · intro h fingerprint parts hreads
    exact Document.locate?_eq_none h (Selection.address?_of_reads hreads)
  · intro fingerprint parts j e' hreads hhint hj hsame
    exact Document.locate?_at_hint (Selection.address?_of_reads hreads) hhint hj hsame

/-- Two entitlements of one plan. -/
def early : Entitlement := shelved "s1" "deployed" ⟨40, 40, 2000⟩

def late : Entitlement := shelved "s2" "deployed" ⟨40, 40, 2000⟩

theorem late_ne_early : late.fingerprint ≠ early.fingerprint := by decide +kernel

theorem distinct_earlyLate : Document.Distinct ⟨[early, late], 0⟩ := by
  have hne := late_ne_early
  intro i j e e' hi hj hsame
  match i, j with
  | 0, 0 => rfl
  | 0, 1 =>
    cases hi
    cases hj
    exact absurd hsame.symm hne
  | 1, 0 =>
    cases hi
    cases hj
    exact absurd hsame hne
  | 1, 1 => rfl
  | n + 2, _ => cases hi
  | _, n + 2 => cases hj

/-- The first of the two is found behind the second, a copy of the second put in front of both, and
a charge; and no more once it is taken out. -/
theorem locate?_changed_early :
    Document.locate? ⟨[late, late, early.debit 5], 0⟩ (.of early 0) = some 2 ∧
      Document.locate? ⟨[late, late], 0⟩ (.of early 0) = none := by
  have hmoved : Relation.ReflTransGen (Changed early.fingerprint)
      (Document.marked ⟨[early, late], 0⟩ 0)
      [⟨false, late⟩, ⟨false, late⟩, ⟨true, early.debit 5⟩] := by
    have hswap : Changed early.fingerprint (Document.marked ⟨[early, late], 0⟩ 0)
        [⟨false, late⟩, ⟨true, early⟩] := .reorder (List.Perm.swap _ _ [])
    have hinsert : Changed early.fingerprint [⟨false, late⟩, ⟨true, early⟩]
        [⟨false, late⟩, ⟨false, late⟩, ⟨true, early⟩] := .insert _ 0 late_ne_early
    have hcharge : Changed early.fingerprint [⟨false, late⟩, ⟨false, late⟩, ⟨true, early⟩]
        [⟨false, late⟩, ⟨false, late⟩, ⟨true, early.debit 5⟩] :=
      .revise (l := [⟨false, late⟩, ⟨false, late⟩, ⟨true, early⟩]) (k := 2) (m := ⟨true, early⟩)
        rfl (.debit early 5)
    exact ((Relation.ReflTransGen.single hswap).tail hinsert).tail hcharge
  have hremoved := hmoved.tail (.remove _ 2)
  have hplace : (Document.mk [early, late] 0).items[0]? = some early := rfl
  have hafter : [⟨false, late⟩, ⟨false, late⟩, ⟨true, early.debit 5⟩].map Marked.entitlement =
      (Document.mk [late, late, early.debit 5] 0).items := rfl
  have hgone : [⟨false, late⟩, ⟨false, late⟩].map Marked.entitlement =
      (Document.mk [late, late] 0).items := rfl
  constructor
  · apply (Document.locate?_changed distinct_earlyLate hplace hmoved hafter).1.1
    exact rfl
  · apply (Document.locate?_changed distinct_earlyLate hplace hremoved hgone).1.2
    simp

end Turnstile.Subscription
