import Turnstile.Proofs.Json.Strings
import Turnstile.Proofs.Subscription.Whereabouts

/-!
# What a fingerprint identifies

The identity of an entitlement is one text made of labels and values, and its fingerprint is the
digest of that text.  The numbers at its end can be told apart from what stands before them; the
three names cannot, as each of them may itself hold the label of the next one.  So, unless the
digest of two identities collides, a fingerprint tells the numbers and the names taken together.
It tells every single name only among entitlements whose names hold no labels, and each entitlement
with a label in a name has a double: another entitlement with the same fingerprint.

* `Entitlement.identity_eq_iff` — what the text tells;
* `Entitlement.fingerprint_eq_iff` — what the fingerprint tells;
* `Entitlement.exists_double` — where it does not tell the names.
-/

set_option autoImplicit false

namespace Turnstile

namespace Text

/-- Bytes can be told from their digits. -/
theorem hex_injective {bytes bytes' : List UInt8} (h : hex bytes = hex bytes') :
    bytes = bytes' := by
  have hdigit : ∀ {d d' : Nat}, d < 16 → d' < 16 → hexDigit d = hexDigit d' → d = d' := by
    intro d d' hd hd' hsame
    have hval := Json.hexVal?_hexDigit hd
    rw [hsame, Json.hexVal?_hexDigit hd'] at hval
    exact (Option.some.inj hval).symm
  induction bytes generalizing bytes' with
  | nil =>
    cases bytes' with
    | nil => rfl
    | cons b r => cases h
  | cons b r ih =>
    cases bytes' with
    | nil => cases h
    | cons b' r' =>
      simp only [hex, List.flatMap_cons, List.cons_append, List.nil_append, List.cons.injEq] at h
      obtain ⟨hhigh, hlow, hrest⟩ := h
      have hb := b.toNat_lt
      have hb' := b'.toNat_lt
      have hhigh := hdigit (by omega) (by omega) hhigh
      have hlow := hdigit (by omega) (by omega) hlow
      have hsame : b = b' := UInt8.toNat_inj.mp (by omega)
      rw [hsame, ih hrest]

theorem toList_loop (bytes : ByteArray) (i : Nat) (acc : List UInt8) :
    ByteArray.toList.loop bytes i acc = acc.reverse ++ bytes.data.toList.drop i := by
  induction i, acc using ByteArray.toList.loop.induct bytes with
  | case1 i acc hlt ih =>
    have hi : i < bytes.data.toList.length := by simpa using hlt
    have hget : bytes.get! i = bytes.data.toList[i] := by
      simp only [ByteArray.get!, Array.getElem_toList]
      exact getElem!_pos bytes.data i (by simpa using hlt)
    rw [ByteArray.toList.loop, if_pos hlt, ih, List.drop_eq_getElem_cons hi, hget]
    simp
  | case2 i acc hge =>
    have hlength : bytes.data.toList.length ≤ i := by simpa using hge
    rw [ByteArray.toList.loop, if_neg hge]
    simp [List.drop_eq_nil_of_le hlength]

/-- A text can be told from its bytes. -/
theorem toUTF8_injective {s s' : String} (h : s.toUTF8.toList = s'.toUTF8.toList) : s = s' := by
  unfold ByteArray.toList at h
  rw [toList_loop, toList_loop] at h
  have hdata : s.toUTF8.data = s'.toUTF8.data := by
    apply Array.toList_inj.mp
    simpa using h
  exact String.toByteArray_inj.mp (ByteArray.ext hdata)

end Text

namespace Decimal

theorem intText_injective {m n : Int} (h : intText m = intText n) : m = n := by
  have hm := readInt?_intText m
  rw [h, readInt?_intText n] at hm
  exact (Option.some.inj hm).symm

/-- No number holds a bar. -/
theorem bar_not_mem_intText (n : Int) : '|' ∉ intText n := by
  intro hmem
  have hdigit : ∀ n : Nat, '|' ∉ natText n := by
    intro n hn
    have hnot := isDigit_of_mem_natText '|' hn
    cases hnot
  unfold intText at hmem
  split at hmem
  · rcases List.mem_cons.mp hmem with hsign | hmem
    · cases hsign
    · exact hdigit _ hmem
  · exact hdigit _ hmem

end Decimal

namespace Subscription

namespace Entitlement

/-! ## The text of an identity -/

/-- The three names with their labels, as they stand in the identity. -/
def names (e : Entitlement) : String :=
  e.planName ++ "|plan_id=" ++ e.planId ++ "|subscription_id=" ++ e.subscriptionId

/-- A number behind a label can be told from what stands before them. -/
theorem labelled_inj {x x' label : List Char} {m n : Int} (hlabel : '|' ∉ label)
    (h : x ++ '|' :: (label ++ Decimal.intText m) = x' ++ '|' :: (label ++ Decimal.intText n)) :
    x = x' ∧ m = n := by
  have hbar : ∀ n : Int, '|' ∉ label ++ Decimal.intText n := by
    intro n hmem
    rcases List.mem_append.mp hmem with hmem | hmem
    · exact hlabel hmem
    · exact Decimal.bar_not_mem_intText n hmem
  obtain ⟨hx, htext⟩ := Text.append_sep_inj (hbar m) (hbar n) h
  exact ⟨hx, Decimal.intText_injective (List.append_cancel_left htext)⟩

theorem toList_identity (e : Entitlement) : e.identity.toList =
    "plan_name=".toList ++ e.names.toList ++ '|' :: ("owner=".toList ++ Decimal.intText e.owner) ++
      '|' :: ("start=".toList ++ Decimal.intText e.term.startAt) ++
      '|' :: ("end=".toList ++ Decimal.intText e.term.endAt) := by
  have howner : "|owner=".toList = '|' :: "owner=".toList := rfl
  have hstart : "|start=".toList = '|' :: "start=".toList := rfl
  have hend : "|end=".toList = '|' :: "end=".toList := rfl
  unfold identity names Decimal.int
  simp only [String.toList_append, String.toList_ofList, List.append_assoc, howner, hstart, hend,
    List.cons_append]

/-- The text of an identity tells the numbers, and the names taken together. -/
theorem identity_eq_iff {e e' : Entitlement} : e.identity = e'.identity ↔
    e.names = e'.names ∧ e.owner = e'.owner ∧ e.term.startAt = e'.term.startAt ∧
      e.term.endAt = e'.term.endAt := by
  rw [← String.toList_inj, toList_identity, toList_identity]
  constructor
  · intro h
    obtain ⟨h, hend⟩ := labelled_inj (by simp) h
    obtain ⟨h, hstart⟩ := labelled_inj (by simp) h
    obtain ⟨h, howner⟩ := labelled_inj (by simp) h
    exact ⟨String.toList_inj.mp (List.append_cancel_left h), howner, hstart, hend⟩
  · rintro ⟨hnames, howner, hstart, hend⟩
    rw [hnames, howner, hstart, hend]

/-! ## Names and labels -/

/-- What stands before the plan's identifier. -/
def planLabel : List Char := "|plan_id=".toList

/-- What stands before the subscription's identifier. -/
def subscriptionLabel : List Char := "|subscription_id=".toList

/-- No name holds the label of the name behind it. -/
structure LabelFree (e : Entitlement) : Prop where
  planName : ¬ planLabel <:+: e.planName.toList
  planId : ¬ subscriptionLabel <:+: e.planId.toList

theorem toList_names (e : Entitlement) : e.names.toList =
    e.planName.toList ++ (planLabel ++ (e.planId.toList ++
      (subscriptionLabel ++ e.subscriptionId.toList))) := by
  unfold names planLabel subscriptionLabel
  simp only [String.toList_append, List.append_assoc]

/-- Names without labels can be told from one another. -/
theorem LabelFree.names_inj {e e' : Entitlement} (h : e.LabelFree) (h' : e'.LabelFree)
    (hnames : e.names = e'.names) :
    e.planName = e'.planName ∧ e.planId = e'.planId ∧ e.subscriptionId = e'.subscriptionId := by
  have hplan : planLabel = '|' :: "plan_id=".toList := rfl
  have hsubscription : subscriptionLabel = '|' :: "subscription_id=".toList := rfl
  obtain ⟨hname, hid⟩ := h
  obtain ⟨hname', hid'⟩ := h'
  rw [← String.toList_inj, toList_names, toList_names] at hnames
  rw [hplan] at hname hname' hnames
  rw [hsubscription] at hid hid' hnames
  obtain ⟨hplanName, hrest⟩ := Text.append_label_inj (by decide) hname hname' hnames
  obtain ⟨hplanId, hsubscriptionId⟩ := Text.append_label_inj (by decide) hid hid' hrest
  exact ⟨String.toList_inj.mp hplanName, String.toList_inj.mp hplanId,
    String.toList_inj.mp hsubscriptionId⟩

/-! ## What a fingerprint tells -/

theorem fingerprint_congr {e e' : Entitlement} (h : e.identity = e'.identity) :
    e.fingerprint = e'.fingerprint := by
  unfold fingerprint
  rw [h]

/-- The bytes that are digested. -/
def identityBytes (e : Entitlement) : List UInt8 := e.identity.toUTF8.toList

/-- Unless the digest of the two identities collides, the fingerprint of two entitlements is the
same exactly if their numbers and their names taken together are; among entitlements whose names
hold no labels exactly if all that never changes about them is the same. -/
theorem fingerprint_eq_iff {e e' : Entitlement}
    (hcollision : Digest.sha256 e.identityBytes = Digest.sha256 e'.identityBytes →
      e.identityBytes = e'.identityBytes) :
    (e.fingerprint = e'.fingerprint ↔
      e.names = e'.names ∧ e.owner = e'.owner ∧ e.term.startAt = e'.term.startAt ∧
        e.term.endAt = e'.term.endAt) ∧
    (e.LabelFree → e'.LabelFree → (e.fingerprint = e'.fingerprint ↔
      e.planName = e'.planName ∧ e.planId = e'.planId ∧ e.subscriptionId = e'.subscriptionId ∧
        e.owner = e'.owner ∧ e.term.startAt = e'.term.startAt ∧ e.term.endAt = e'.term.endAt)) := by
  have hidentity : e.fingerprint = e'.fingerprint ↔
      e.names = e'.names ∧ e.owner = e'.owner ∧ e.term.startAt = e'.term.startAt ∧
        e.term.endAt = e'.term.endAt := by
    rw [← identity_eq_iff]
    constructor
    · intro h
      have hdigits := congrArg String.toList h
      rw [toList_fingerprint, toList_fingerprint] at hdigits
      exact Text.toUTF8_injective (hcollision (Text.hex_injective hdigits))
    · exact fingerprint_congr
  refine ⟨hidentity, fun hfree hfree' => ?_⟩
  rw [hidentity]
  constructor
  · rintro ⟨hnames, howner, hstart, hend⟩
    obtain ⟨hplanName, hplanId, hsubscriptionId⟩ := hfree.names_inj hfree' hnames
    exact ⟨hplanName, hplanId, hsubscriptionId, howner, hstart, hend⟩
  · rintro ⟨hplanName, hplanId, hsubscriptionId, howner, hstart, hend⟩
    refine ⟨?_, howner, hstart, hend⟩
    unfold names
    rw [hplanName, hplanId, hsubscriptionId]

/-- An entitlement with a label in a name has a double: another one with the same fingerprint. -/
theorem exists_double {e : Entitlement} (h : ¬ e.LabelFree) :
    ∃ e' : Entitlement, e'.fingerprint = e.fingerprint ∧ e'.planId ≠ e.planId := by
  have hsame : ∀ {e' : Entitlement}, e'.names = e.names → e'.owner = e.owner → e'.term = e.term →
      e'.fingerprint = e.fingerprint := by
    intro e' hnames howner hterm
    apply fingerprint_congr
    rw [identity_eq_iff, hterm]
    exact ⟨hnames, howner, rfl, rfl⟩
  by_cases hplan : planLabel <:+: e.planName.toList
  · -- What stands behind the label may as well belong to the next name.
    obtain ⟨front, back, hname⟩ := hplan
    refine ⟨{ e with
      planName := String.ofList front
      planId := String.ofList (back ++ planLabel) ++ e.planId },
      hsame ?_ rfl rfl, ?_⟩
    · rw [← String.toList_inj, toList_names, toList_names, ← hname]
      simp
    · intro heq
      have hlength := congrArg (fun s => s.toList.length) heq
      have hpos : 0 < planLabel.length := by decide
      simp only [String.toList_append, String.toList_ofList, List.length_append] at hlength
      omega
  · have hid : subscriptionLabel <:+: e.planId.toList := by
      by_contra hid
      exact h ⟨hplan, hid⟩
    obtain ⟨front, back, hid⟩ := hid
    refine ⟨{ e with
      planId := String.ofList front
      subscriptionId := String.ofList (back ++ subscriptionLabel) ++ e.subscriptionId },
      hsame ?_ rfl rfl, ?_⟩
    · rw [← String.toList_inj, toList_names, toList_names, ← hid]
      simp
    · intro heq
      have hlength := congrArg (fun s => s.toList.length) heq
      have hpos : 0 < subscriptionLabel.length := by decide
      simp only [String.toList_ofList, ← hid, List.length_append] at hlength
      omega

/-- Two entitlements of one plan, which have different fingerprints. -/
theorem fingerprint_eq_iff_plan : late.fingerprint = early.fingerprint ↔
    late.planName = early.planName ∧ late.planId = early.planId ∧
      late.subscriptionId = early.subscriptionId ∧ late.owner = early.owner ∧
      late.term.startAt = early.term.startAt ∧ late.term.endAt = early.term.endAt := by
  have hcollision : Digest.sha256 late.identityBytes = Digest.sha256 early.identityBytes →
      late.identityBytes = early.identityBytes := by
    intro hdigest
    have hsame : late.fingerprint = early.fingerprint :=
      congrArg (fun bytes => String.ofList (Text.hex bytes)) hdigest
    exact absurd hsame late_ne_early
  have hlate : late.LabelFree := ⟨by decide, by decide⟩
  have hearly : early.LabelFree := ⟨by decide, by decide⟩
  exact (fingerprint_eq_iff hcollision).2 hlate hearly

/-- An entitlement of a plan of that name and identifier. -/
def shifted (planName planId : String) : Entitlement :=
  { shelved "s1" "deployed" ⟨40, 40, 2000⟩ with planName := planName, planId := planId }

/-- The selection of an entitlement that is gone leads to one of another plan. -/
theorem shifted_confused :
    (shifted "a|plan_id=b" "c").planName ≠ (shifted "a" "b|plan_id=c").planName ∧
      (shifted "a|plan_id=b" "c").fingerprint = (shifted "a" "b|plan_id=c").fingerprint ∧
      Document.locate? ⟨[shifted "a" "b|plan_id=c"], 0⟩ (.of (shifted "a|plan_id=b" "c") 0) =
        some 0 := by
  have hidentity : (shifted "a|plan_id=b" "c").identity = (shifted "a" "b|plan_id=c").identity := by
    rw [identity_eq_iff]
    exact ⟨rfl, rfl, rfl, rfl⟩
  have hsame := fingerprint_congr hidentity
  refine ⟨by decide, hsame, ?_⟩
  exact Document.locate?_hinted rfl hsame (by decide)

end Entitlement

end Subscription

end Turnstile
