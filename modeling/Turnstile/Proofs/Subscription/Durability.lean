import Turnstile.Proofs.Run
import Turnstile.Proofs.Subscription.FirstFit

/-!
# What the ledger stores can be read again

The ledger stores only documents that it made of one that it read, and making it can neither take
an integer out of its range nor let a member nest deeper.  So a text that was read from the present
form is followed only by texts that can be read, whatever is asked of the ledger and in whatever
order.  A text of the older form may be one level too deep: it can be read, but what is stored for
it cannot.

* `reserveIn_sound`, `adjustIn_sound`, `resetIn_sound` — one change of a stored text;
* `resetIn_older` — when a text of the older form survives being stored in the present one;
* `LedgerCall.run_readable` — any calls on a sound store.
-/

set_option autoImplicit false

namespace Turnstile.Subscription

open StoreAdmin (books)
open Json (depthMembers)

/-! ## Changes of a stored text -/

/-- The text can be read, and what it holds can be stored. -/
def Lasting (raw : String) : Prop :=
  ∃ d older, Document.read raw = .ok (d, older) ∧ d.Canonical

/-- A change that was able to read the text, and stores a document that can be read. -/
structure Sound {α : Type} (r : Except LedgerError (RowChange α)) : Prop where
  readable : ∀ x, r ≠ .error (.decode x)
  written : ∀ text a, r = .ok (some text, a) → ∃ d : Document, d.Canonical ∧ text = d.write

/-- Of the documents that can be read, those that nest no deeper than a text may can be stored. -/
theorem lasting_of_read {raw : String} {d : Document} {older : Bool}
    (hread : Document.read raw = .ok (d, older))
    (hdepth : older = true → d.toJson.depth ≤ Json.maxDepth) : Lasting raw := by
  refine ⟨d, older, hread, ?_⟩
  cases older with
  | false => exact Document.canonical_of_read hread
  | true => exact (Document.canonicalWithin_of_read hread).canonical (hdepth rfl)

/-- What is written for a canonical document lasts. -/
theorem lasting_write {d : Document} (h : d.Canonical) : Lasting d.write :=
  ⟨d.echo, false, Document.read_write h, Document.canonical_echo h⟩

theorem Entitlement.canonical_adjust {e e' : Entitlement} {delta : Int} (h : e.Canonical)
    (hadjust : e.adjust delta = .ok e') : e'.Canonical := by
  have hmin : ∀ {a b : Int}, Word.InRange a → Word.InRange b → Word.InRange (min a b) := by
    intro a b ha hb
    unfold Word.InRange at *
    omega
  have hleft : ∀ w : Window, w.InRange → Word.InRange
      (if delta < 0 then min (Word.sub w.available delta) w.total
        else Word.sub w.available delta) := by
    intro w hw
    split
    · exact hmin (Word.inRange_saturate _) hw.total
    · exact Word.inRange_saturate _
  unfold adjust at hadjust
  dsimp only at hadjust
  split at hadjust
  · cases hadjust
  · cases hadjust
    exact ⟨⟨h.short.total, hleft e.short h.short, h.short.resetAt⟩,
      ⟨h.long.total, hleft e.long h.long, h.long.resetAt⟩, h.term, h.owner, h.extra⟩

variable {raw : String} {now amount : Int}

theorem reserveIn_sound (h : Lasting raw) (hnow : Word.InRange now) (hamount : 0 ≤ amount) :
    Sound (reserveIn now amount raw) := by
  obtain ⟨d, older, hread, hd⟩ := h
  rcases reserveIn_of_read hread now hamount with ⟨hrefused, -⟩ | ⟨i, e, hfirst, hgranted⟩
  · rw [hrefused]
    exact ⟨nofun, nofun⟩
  · rw [hgranted]
    constructor
    · exact nofun
    · intro text a hstored
      split at hstored
      · cases hstored
        have hpruned := hd.pruned hnow
        have he := hpruned.items e (List.mem_of_getElem? hfirst.item)
        exact ⟨_, Document.canonical_put hpruned (hfirst.eligible.canonical he hamount), rfl⟩
      · cases hstored

theorem adjustIn_sound (h : Lasting raw) (selection : Selection) (delta : Int) :
    Sound (adjustIn selection delta raw) := by
  obtain ⟨d, older, hread, hd⟩ := h
  rcases adjustIn_of_read hread selection delta with
    ⟨-, hmissing⟩ | ⟨i, e, -, hi, ⟨-, hexhausted⟩ | ⟨e', hadjust, hstored⟩⟩
  · rw [hmissing]
    exact ⟨nofun, nofun⟩
  · rw [hexhausted]
    exact ⟨nofun, nofun⟩
  · rw [hstored]
    constructor
    · exact nofun
    · intro text a heq
      cases heq
      have he := Entitlement.canonical_adjust (hd.items e (List.mem_of_getElem? hi)) hadjust
      exact ⟨_, Document.canonical_put hd he, rfl⟩

theorem resetIn_sound (h : Lasting raw) (hnow : Word.InRange now) : Sound (resetIn now raw) := by
  obtain ⟨d, older, hread, hd⟩ := h
  unfold resetIn
  rw [hread]
  dsimp only
  split
  · constructor
    · exact nofun
    · intro text a hstored
      cases hstored
      exact ⟨_, hd.pruned hnow, rfl⟩
  · exact ⟨nofun, nofun⟩

/-- A document in the older form is always stored anew by a reset; what is stored can be read
exactly if no member of a deployed entitlement is too deep for the present form. -/
theorem resetIn_older {d : Document} (hread : Document.read raw = .ok (d, true))
    (hnow : Word.InRange now) :
    resetIn now raw = .ok (some (d.pruned now).write, true) ∧
      ((∃ r, Document.read (d.pruned now).write = .ok r) ↔
        ∀ e ∈ d.items, e.deployed = true → depthMembers e.extra ≤ 124) := by
  constructor
  · unfold resetIn
    rw [hread]
    rfl
  · rw [Document.read_write_iff ((Document.canonicalWithin_of_read hread).pruned hnow),
      Document.depth_toJson_le]
    constructor
    · intro h e he hdeployed
      exact h (e.rollOver now) (Document.mem_pruned.mpr ⟨e, he, hdeployed, rfl⟩)
    · intro h e he
      obtain ⟨e', he', hdeployed, rfl⟩ := Document.mem_pruned.mp he
      exact h e' he' hdeployed

theorem resetIn_unreadable (h : ¬ ∃ r, Document.read raw = .ok r) (now : Int) :
    ∃ x, resetIn now raw = .error (.decode x) := by
  unfold resetIn
  cases hread : Document.read raw with
  | error x => exact ⟨x, rfl⟩
  | ok r => exact absurd ⟨r, hread⟩ h

/-! ## Calls on a store -/

/-- A text that may stand in a row where `raw` stood: the same, or what was written for a document
that can be read. -/
def Follows (raw text : String) : Prop := text = raw ∨ ∃ d : Document, d.Canonical ∧ text = d.write

theorem Follows.trans {raw text text' : String} (h : Follows raw text) (h' : Follows text text') :
    Follows raw text' := by
  rcases h' with rfl | hwritten
  · exact h
  · exact .inr hwritten

theorem Follows.lasting {raw text : String} (h : Follows raw text) (hraw : Lasting raw) :
    Lasting text := by
  rcases h with rfl | ⟨d, hd, rfl⟩
  · exact hraw
  · exact lasting_write hd

variable {σ : Type} [UserStore σ] [StoreAdmin σ]

/-- The user has the balance, and a text that may stand where `raw` stood. -/
def Stands (user balance : Int) (raw : String) (s : σ) : Prop :=
  ∃ text, (books s).account user = some (balance, text) ∧ Follows raw text

/-- A sound change of one row: it does not fail to read the text that stands there, and it changes
the text of no other user. -/
theorem stands_update [LawfulStore σ] {α : Type} {user k balance : Int} {raw : String} {s : σ}
    (haccount : (books s).account user = some (balance, raw))
    (f : String → Except LedgerError (RowChange α)) (hsound : k = user → Sound (f raw)) :
    Stands user balance raw (UserStore.update k f s).2 ∧
      (k = user → ∀ x, (UserStore.update k f s).1 ≠ .error (.decode x)) := by
  have hsame : Stands user balance raw s := ⟨raw, haccount, .inl rfl⟩
  cases hk : (books s).account k with
  | none =>
    rw [LawfulStore.update_missing hk]
    exact ⟨hsame, fun _ => nofun⟩
  | some a =>
    have ha : k = user → a = (balance, raw) := by
      rintro rfl
      rw [haccount] at hk
      exact (Option.some.inj hk).symm
    cases hf : f a.2 with
    | error e =>
      rw [LawfulStore.update_refused hk hf]
      refine ⟨hsame, fun hself x hx => ?_⟩
      cases hx
      rw [ha hself] at hf
      exact (hsound hself).readable x hf
    | ok change =>
      obtain ⟨text?, x⟩ := change
      cases text? with
      | none =>
        rw [LawfulStore.update_kept hk hf]
        exact ⟨hsame, fun _ => nofun⟩
      | some text =>
        obtain ⟨s', hupdate, hbooks⟩ := LawfulStore.update_written hk hf
        rw [hupdate]
        refine ⟨?_, fun _ => nofun⟩
        by_cases hself : k = user
        · rw [ha hself] at hf
          obtain ⟨d, hd, htext⟩ := (hsound hself).written text x hf
          refine ⟨text, ?_, .inr ⟨d, hd, htext⟩⟩
          rw [hbooks, Books.account_write, if_pos hself.symm, haccount]
          rfl
        · refine ⟨raw, ?_, .inl rfl⟩
          rw [hbooks, Books.account_write, if_neg (Ne.symm hself)]
          exact haccount

/-- What may be asked of the ledger about one user. -/
inductive LedgerCall where
  | reserve (user now amount : Int)
  | adjust (user : Int) (selection : Selection) (delta : Int)
  | reset (user now : Int)

namespace LedgerCall

/-- The user whose document is changed. -/
def user : LedgerCall → Int
  | .reserve user _ _ => user
  | .adjust user _ _ => user
  | .reset user _ => user

/-- The clock, where it is read, shows a signed 64-bit word. -/
def Timed : LedgerCall → Prop
  | .reserve _ now _ => Word.InRange now
  | .adjust _ _ _ => True
  | .reset _ now => Word.InRange now

instance : (c : LedgerCall) → Decidable c.Timed
  | .reserve _ now _ => inferInstanceAs (Decidable (Word.InRange now))
  | .adjust _ _ _ => inferInstanceAs (Decidable True)
  | .reset _ now => inferInstanceAs (Decidable (Word.InRange now))

/-- Carries out a call. Of its result only the failure is looked at. -/
def make (c : LedgerCall) (s : σ) : Except LedgerError Unit × σ :=
  match c with
  | .reserve user now amount =>
    let p := Subscription.reserve user now amount s
    (p.1.map fun _ => (), p.2)
  | .adjust user selection delta => Subscription.adjust user selection delta s
  | .reset user now =>
    let p := resetUser user now s
    (p.1.map fun _ => (), p.2)

/-- The store after some calls, one after the other. -/
def run (calls : List LedgerCall) (s : σ) : σ := calls.foldl (fun s c => (c.make s).2) s

theorem map_ne_decode {α : Type} {r : Except LedgerError α} (h : ∀ x, r ≠ .error (.decode x))
    (x : Json.DecodeError) : (r.map fun _ => ()) ≠ .error (.decode x) := by
  cases r with
  | ok a => exact nofun
  | error e =>
    intro hmap
    cases hmap
    exact h x rfl

variable [LawfulStore σ] {user balance : Int} {raw : String} {s : σ}

theorem stands_reserve (haccount : (books s).account user = some (balance, raw))
    (hraw : Lasting raw) {now : Int} (hnow : Word.InRange now) (k amount : Int) :
    Stands user balance raw (Subscription.reserve k now amount s).2 ∧
      (k = user → ∀ x, (Subscription.reserve k now amount s).1 ≠ .error (.decode x)) := by
  have hsame : Stands user balance raw s := ⟨raw, haccount, .inl rfl⟩
  unfold Subscription.reserve
  split
  · exact ⟨hsame, fun _ => nofun⟩
  · split
    · exact ⟨hsame, fun _ => nofun⟩
    · rename_i hamount
      exact stands_update haccount _ fun _ => reserveIn_sound hraw hnow (Int.not_lt.mp hamount)

theorem stands_adjust (haccount : (books s).account user = some (balance, raw))
    (hraw : Lasting raw) (k : Int) (selection : Selection) (delta : Int) :
    Stands user balance raw (Subscription.adjust k selection delta s).2 ∧
      (k = user → ∀ x, (Subscription.adjust k selection delta s).1 ≠ .error (.decode x)) := by
  have hsame : Stands user balance raw s := ⟨raw, haccount, .inl rfl⟩
  unfold Subscription.adjust
  split
  · exact ⟨hsame, fun _ => nofun⟩
  · split
    · exact ⟨hsame, fun _ => nofun⟩
    · split
      · exact ⟨hsame, fun _ => nofun⟩
      · exact stands_update haccount _ fun _ => adjustIn_sound hraw selection delta

/-- A call does not fail to read a text that lasts, and leaves one that may stand in its place. -/
theorem stands_make {c : LedgerCall} (haccount : (books s).account user = some (balance, raw))
    (hraw : Lasting raw) (htimed : c.Timed) :
    Stands user balance raw (c.make s).2 ∧
      (c.user = user → ∀ x, (c.make s).1 ≠ .error (.decode x)) := by
  cases c with
  | reserve k now amount =>
    obtain ⟨hstands, hread⟩ := stands_reserve haccount hraw htimed k amount
    exact ⟨hstands, fun hself => map_ne_decode (hread hself)⟩
  | adjust k selection delta => exact stands_adjust haccount hraw k selection delta
  | reset k now =>
    obtain ⟨hstands, hread⟩ := stands_update haccount (resetIn now)
      fun (_ : k = user) => resetIn_sound hraw htimed
    exact ⟨hstands, fun hself => map_ne_decode (hread hself)⟩

theorem stands_run (hraw : Lasting raw) (calls : List LedgerCall) (htimed : ∀ c ∈ calls, c.Timed)
    (h : Stands user balance raw s) : Stands user balance raw (run calls s) := by
  refine Run.induction (fun s c hs hc => ?_) calls s h (Run.along_of_forall htimed s)
  obtain ⟨text, haccount, hfollows⟩ := hs
  obtain ⟨⟨text', haccount', hfollows'⟩, -⟩ := stands_make haccount (hfollows.lasting hraw) hc
  exact ⟨text', haccount', hfollows.trans hfollows'⟩

/-- Of a text in the present form, and of one in the older form that is not too deep for the
present one, any calls make only texts that can be read: the text is the same as before, or it is
one that was written and is read as what was written, but for its doubles; and the next call does
not fail to read it. -/
theorem run_readable {d : Document} {older : Bool}
    (haccount : (books s).account user = some (balance, raw))
    (hread : Document.read raw = .ok (d, older))
    (hdepth : older = true → d.toJson.depth ≤ Json.maxDepth)
    (calls : List LedgerCall) (htimed : ∀ c ∈ calls, c.Timed) :
    ∃ text, (books (run calls s)).account user = some (balance, text) ∧
      (text = raw ∨ ∃ d' : Document, text = d'.write ∧ Document.read text = .ok (d'.echo, false) ∧
        (d'.Storable → d'.echo = d')) ∧
      ∀ c : LedgerCall, c.Timed → c.user = user →
        ∀ x, (c.make (run calls s)).1 ≠ .error (.decode x) := by
  have hraw := lasting_of_read hread hdepth
  obtain ⟨text, htext, hfollows⟩ := stands_run hraw calls htimed ⟨raw, haccount, .inl rfl⟩
  refine ⟨text, htext, ?_, fun c hc => (stands_make htext (hfollows.lasting hraw) hc).2⟩
  rcases hfollows with hsame | ⟨d', hd', rfl⟩
  · exact .inl hsame
  · right
    refine ⟨d', rfl, Document.read_write hd', fun hstorable => ?_⟩
    exact Document.echo_of_plain (Document.storable_iff.mp hstorable)

/-- `null` in as many arrays. -/
def nested : Nat → Json
  | 0 => .null
  | n + 1 => .array [nested n]

theorem depth_nested (n : Nat) : (nested n).depth = n := by
  induction n with
  | zero => rfl
  | succ n ih => simp [nested, Json.depth, Json.depthItems, ih]

theorem canonical_nested (n : Nat) : (nested n).Canonical n := by
  induction n with
  | zero => trivial
  | succ n ih => exact ⟨Nat.zero_lt_succ n, ih, trivial⟩

theorem plain_nested (n : Nat) : (nested n).Plain n := by
  induction n with
  | zero => trivial
  | succ n ih => exact ⟨Nat.zero_lt_succ n, ih, trivial⟩

/-- An entitlement with a note of that depth. -/
def noted (n : Nat) : Entitlement :=
  { shelved "s1" "deployed" ⟨40, 40, 2000⟩ with extra := [("note", nested n)] }

theorem canonical_noted (n : Nat) : (noted n).CanonicalWithin n := by
  have hshelved : (shelved "s1" "deployed" ⟨40, 40, 2000⟩).Canonical :=
    canonical_shelved ⟨by decide, by decide, by decide⟩
  refine ⟨hshelved.short, hshelved.long, hshelved.term, hshelved.owner, ?_, ?_, ?_⟩
  · intro m hm
    rw [List.mem_singleton.mp hm]
    show "note" ∉ Entitlement.knownKeys
    decide
  · exact List.pairwise_singleton _ _
  · exact ⟨canonical_nested n, trivial⟩

theorem depth_noted (n : Nat) : depthMembers (noted n).extra = n := by
  simp [noted, depthMembers, depth_nested]

theorem echo_noted (n : Nat) : (noted n).echo = noted n := by
  unfold Entitlement.echo
  rw [Json.echoMembers_of_plain (noted n).extra n ⟨plain_nested n, trivial⟩]

/-- The text of such an entitlement, in the older form. -/
def notedText (n : Nat) : String := (Json.array [(noted n).toJson]).render

theorem read_notedText {n : Nat} (h : n ≤ 125) :
    Document.read (notedText n) = .ok (⟨[noted n], 0⟩, true) := by
  have hcanonical : ∀ e ∈ [noted n], e.CanonicalWithin 125 := by
    rw [List.forall_mem_singleton]
    apply (canonical_noted n).of_depth
    rw [depth_noted]
    exact h
  have hread := Document.read_older hcanonical
  rw [List.map_singleton, List.map_singleton, echo_noted] at hread
  exact hread

def notedStore (n : Nat) : MemoryStore := ⟨[(7, ⟨"subscription", 100, notedText n⟩)], []⟩

/-- A reset, a charge and a refund. -/
def notedCalls : List LedgerCall := [.reset 7 1000, .reserve 7 1000 5, .adjust 7 ⟨"fp:x|i:0"⟩ (-5)]

/-- Any calls on a note that is as deep as the present form allows. -/
theorem run_readable_note :
    ∃ text, (books (run notedCalls (notedStore 124))).account 7 = some (100, text) ∧
      (∃ r, Document.read text = .ok r) ∧
      ∀ x, ((reset 7 2500).make (run notedCalls (notedStore 124))).1 ≠ .error (.decode x) := by
  have hread := read_notedText (n := 124) (by decide)
  have hdepth : (Document.toJson ⟨[noted 124], 0⟩).depth ≤ Json.maxDepth := by
    rw [Document.depth_toJson_le]
    simp [depth_noted]
  have haccount : (books (notedStore 124)).account 7 = some (100, notedText 124) := rfl
  obtain ⟨text, htext, hfollows, hnext⟩ :=
    run_readable haccount hread (fun _ => hdepth) notedCalls (by decide)
  refine ⟨text, htext, ?_, hnext _ (by decide) rfl⟩
  rcases hfollows with rfl | ⟨d', -, hread', -⟩
  · exact ⟨_, hread⟩
  · exact ⟨_, hread'⟩

/-- One level more: the text can be read, a reset succeeds, and the next one cannot read what the
first one stored. -/
theorem reset_unreadable :
    ∃ d s' x, Document.read (notedText 125) = .ok (d, true) ∧
      resetUser 7 1000 (notedStore 125) = (.ok true, s') ∧
      resetUser 7 1000 s' = (.error (.decode x), s') := by
  have hread := read_notedText (n := 125) (by decide)
  have hnow : Word.InRange 1000 := by decide
  obtain ⟨hreset, hlasts⟩ := resetIn_older hread hnow
  generalize (Document.pruned ⟨[noted 125], 0⟩ 1000).write = text at hreset hlasts
  have haccount : (books (notedStore 125)).account 7 = some (100, notedText 125) := rfl
  obtain ⟨s', hupdate, hbooks⟩ := LawfulStore.update_written haccount hreset
  have haccount' : (books s').account 7 = some (100, text) := by
    rw [hbooks, Books.account_write, if_pos rfl, haccount]
    rfl
  have hdeep : ¬ ∃ r, Document.read text = .ok r := by
    intro hread'
    have hdepth := hlasts.mp hread' (noted 125) List.mem_cons_self rfl
    rw [depth_noted] at hdepth
    omega
  obtain ⟨x, hrefused⟩ := resetIn_unreadable hdeep 1000
  have hfirst : resetUser 7 1000 (notedStore 125) = (.ok true, s') := by
    rw [resetUser, hupdate]
  have hsecond : resetUser 7 1000 s' = (.error (.decode x), s') := by
    rw [resetUser]
    exact LawfulStore.update_refused haccount' hrefused
  exact ⟨_, s', x, hread, hfirst, hsecond⟩

end LedgerCall

end Turnstile.Subscription
