import Turnstile.Proofs.Run
import Turnstile.Proofs.Store.Laws
import Turnstile.Proofs.Subscription.Ledger
import Turnstile.Proofs.Subscription.StoredForm

/-!
# A reservation goes to the first entitlement that can bear it

Whatever text stands in a user's row: it is read, what is not deployed is dropped, what is stale is
rolled over, and the first entitlement that is eligible is charged.  What is stored then is read
back as exactly that document, with nothing else changed, and the selection that is returned leads
to the entitlement that was charged.  Where nothing is eligible, or the text cannot be read, the
row stays as it is.

* `Document.pruned_eq_iff` — pruning changes a document exactly if something asks for it;
* `reserveIn_cases` — one stored text;
* `reserve_first_fit` — the row of a store.
-/

set_option autoImplicit false

namespace Turnstile.Subscription

open StoreAdmin (books)

/-! ## Pruning -/

/-- A stale window is filled until after `now`. -/
theorem lt_advance {resetAt now period : Int} (hnow : Word.InRange now) (hperiod : 0 < period)
    (hstale : resetAt < inUnitOf resetAt now) : resetAt < advance resetAt now period := by
  have hat : inUnitOf resetAt now ≤ Word.greatest := by
    unfold inUnitOf
    split
    · exact (Word.inRange_saturate _).2
    · exact hnow.2
  have hstep : 0 < inUnitOf resetAt period := by
    unfold inUnitOf Word.mul Word.saturate Word.least Word.greatest
    split <;> omega
  unfold advance
  rw [if_neg (Int.not_le.mpr hperiod)]
  generalize inUnitOf resetAt now = at_ at hstale hat
  generalize inUnitOf resetAt period = step at hstep
  dsimp only
  split
  · unfold Word.add Word.saturate Word.least
    omega
  · rw [if_neg (by omega)]
    have hperiods : 0 ≤ (at_ - resetAt) / step := Int.ediv_nonneg (by omega) (by omega)
    have hproduct : 0 < ((at_ - resetAt) / step + 1) * step := Int.mul_pos (by omega) hstep
    unfold Word.add Word.mul Word.saturate Word.least at *
    omega

/-- When the windows of an entitlement are filled again. -/
def Entitlement.resets (e : Entitlement) : Int × Int := (e.short.resetAt, e.long.resetAt)

theorem Window.resetAt_rollOver {w : Window} {now period : Int} (hnow : Word.InRange now)
    (hperiod : 0 < period) (h : (w.rollOver now period).resetAt = w.resetAt) :
    w.stale now = false := by
  cases hstale : w.stale now with
  | false => rfl
  | true =>
    unfold rollOver at h
    rw [if_pos hstale] at h
    have hlt := lt_advance hnow hperiod (of_decide_eq_true hstale)
    dsimp only at h
    omega

/-- Where pruning moves no end of a window, there is nothing to prune. -/
theorem Document.needsPruning_of_resets {d : Document} {now : Int} (hnow : Word.InRange now)
    (h : (d.pruned now).items.map Entitlement.resets = d.items.map Entitlement.resets) :
    d.needsPruning now = false := by
  have hlength := congrArg List.length h
  unfold Document.pruned at h hlength
  simp only [List.length_map, List.map_map] at h hlength
  have hdeployed : ∀ e ∈ d.items, e.deployed = true := List.length_filter_eq_length_iff.mp hlength
  rw [List.filter_eq_self.mpr hdeployed] at h
  have hresets := List.map_inj_left.mp h
  refine (Document.pruned_eq hdeployed ?_).2
  intro e he
  have hsame := hresets e he
  simp only [Function.comp, Entitlement.resets, Entitlement.rollOver, Prod.mk.injEq] at hsame
  unfold Entitlement.stale
  rw [Window.resetAt_rollOver hnow (by decide) hsame.1,
    Window.resetAt_rollOver hnow (by decide) hsame.2]
  rfl

/-- Pruning changes a document exactly if something asks for it. -/
theorem Document.pruned_eq_iff {d : Document} {now : Int} (hnow : Word.InRange now) :
    d.pruned now = d ↔ d.needsPruning now = false := by
  constructor
  · intro h
    exact Document.needsPruning_of_resets hnow (by rw [h])
  · intro h
    unfold Document.needsPruning at h
    have hall := List.any_eq_false.mp h
    refine (Document.pruned_eq ?_ ?_).1
    · intro e he
      have hitem := hall e he
      simp only [Bool.or_eq_true, Bool.not_eq_true', not_or, Bool.not_eq_false] at hitem
      exact hitem.1
    · intro e he
      have hitem := hall e he
      simp only [Bool.or_eq_true, Bool.not_eq_true', not_or, Bool.not_eq_true] at hitem
      exact hitem.2

theorem inRange_advance {resetAt period : Int} (h : Word.InRange resetAt) (now : Int) :
    Word.InRange (advance resetAt now period) := by
  unfold advance
  dsimp only
  split
  · exact h
  · split
    · exact Word.inRange_saturate _
    · split
      · exact h
      · exact Word.inRange_saturate _

theorem Window.inRange_rollOver {w : Window} (h : w.InRange) (now period : Int) :
    (w.rollOver now period).InRange := by
  unfold rollOver
  split
  · exact ⟨h.total, h.total, inRange_advance h.resetAt now⟩
  · exact h

/-- What is left by pruning was deployed, and is rolled over. -/
theorem Document.mem_pruned {d : Document} {now : Int} {e : Entitlement} :
    e ∈ (d.pruned now).items ↔ ∃ e' ∈ d.items, e'.deployed = true ∧ e'.rollOver now = e := by
  simp [Document.pruned, and_assoc]

/-- Pruning lets no window leave the words, and no member nest deeper. -/
theorem Document.CanonicalWithin.pruned {levels : Nat} {d : Document} {now : Int}
    (h : d.CanonicalWithin levels) (hnow : Word.InRange now) :
    (d.pruned now).CanonicalWithin levels := by
  constructor
  · intro e he
    obtain ⟨e', he', -, rfl⟩ := Document.mem_pruned.mp he
    have hitem := h.items e' he'
    exact ⟨Window.inRange_rollOver hitem.short now fiveHours,
      Window.inRange_rollOver hitem.long now sevenDays, hitem.term, hitem.owner, hitem.extra⟩
  · unfold Document.pruned
    dsimp only
    split
    · exact hnow
    · exact h.lastResetAt

theorem Document.Canonical.pruned {d : Document} {now : Int} (h : d.Canonical)
    (hnow : Word.InRange now) : (d.pruned now).Canonical :=
  Document.canonicalWithin_iff.mp ((Document.canonicalWithin_iff.mpr h).pruned hnow)

/-- Pruning keeps a document faithful. -/
theorem Document.Faithful.pruned {d : Document} {now : Int} (h : d.Faithful)
    (hnow : Word.InRange now) : (d.pruned now).Faithful := by
  refine ⟨h.canonical.pruned hnow, fun e he => ?_⟩
  obtain ⟨e', he', -, rfl⟩ := Document.mem_pruned.mp he
  exact h.plain e' he'

/-! ## A charge to the first eligible entitlement -/

/-- What an eligible entitlement is charged brings no window below zero. -/
theorem Entitlement.Eligible.canonical {e : Entitlement} {now amount : Int}
    (h : e.Eligible now amount) (hcanonical : e.Canonical) (hamount : 0 ≤ amount) :
    (e.debit amount).Canonical := by
  obtain ⟨-, hshort, hlong, -, -⟩ := h
  refine Entitlement.canonical_debit hcanonical ?_ ?_
  · have hrange := hcanonical.short.available
    unfold Word.InRange Word.least at *
    omega
  · have hrange := hcanonical.long.available
    unfold Word.InRange Word.least at *
    omega

/-- There is no more than one first. -/
theorem Document.FirstEligible.unique {d : Document} {now amount : Int} {i j : Nat}
    {e e' : Entitlement} (h : d.FirstEligible now amount i e)
    (h' : d.FirstEligible now amount j e') : i = j ∧ e = e' := by
  have hij : i = j := by
    rcases Nat.lt_trichotomy i j with hlt | heq | hgt
    · exact absurd h.eligible (h'.earlier i e hlt h.item)
    · exact heq
    · exact absurd h'.eligible (h.earlier j e' hgt h'.item)
  subst hij
  exact ⟨rfl, Option.some.inj (h.item.symm.trans h'.item)⟩

/-- What does not tell two entitlements apart is the same after one was put in the place of the
other. -/
theorem Document.map_put {α : Type} {f : Entitlement → α} {d : Document} {i : Nat}
    {e e' : Entitlement} (hi : d.items[i]? = some e) (h : f e' = f e) :
    (d.put i e').items.map f = d.items.map f :=
  Run.map_set_same hi h

namespace Document.FirstEligible

variable {d c : Document} {now amount : Int} {i : Nat} {e : Entitlement}

/-- The document is still faithful after the charge. -/
theorem faithful (h : c.FirstEligible now amount i e) (hc : c.Faithful) (hamount : 0 ≤ amount) :
    (c.put i (e.debit amount)).Faithful := by
  have hmem := List.mem_of_getElem? h.item
  have hitem := h.eligible.canonical (hc.canonical.items e hmem) hamount
  refine ⟨Document.canonical_put hc.canonical hitem, fun e' he' => ?_⟩
  rcases List.mem_or_eq_of_mem_set he' with he' | rfl
  · exact hc.plain e' he'
  · exact hc.plain e hmem

/-- The selection leads to the entitlement that was charged, at any place that is a word. -/
theorem locate?_put (h : c.FirstEligible now amount i e) (hplace : i ≤ Word.greatestUnsigned) :
    (c.put i (e.debit amount)).locate? (.of e i) = some i := by
  obtain ⟨hlt, -⟩ := List.getElem?_eq_some_iff.mp h.item
  have hcharged : (c.put i (e.debit amount)).items[i]? = some (e.debit amount) :=
    List.getElem?_set_self hlt
  exact Document.locate?_hinted hcharged rfl hplace

/-- Pruning and charging leave a document as it was exactly if there was nothing to prune and
nothing was charged. -/
theorem put_eq_iff (h : (d.pruned now).FirstEligible now amount i e) (hnow : Word.InRange now) :
    (d.pruned now).put i (e.debit amount) = d ↔ amount = 0 ∧ d.pruned now = d := by
  obtain ⟨hlt, hget⟩ := List.getElem?_eq_some_iff.mp h.item
  constructor
  · intro hsame
    -- A charge moves no end of a window, so nothing was rolled over or dropped.
    have hresets := Document.map_put (f := Entitlement.resets) h.item
      (rfl : (e.debit amount).resets = e.resets)
    rw [hsame] at hresets
    have hpruned := (Document.pruned_eq_iff hnow).mpr
      (Document.needsPruning_of_resets hnow hresets.symm)
    refine ⟨?_, hpruned⟩
    have hitems := congrArg (fun d => (Document.items d)[i]?) hsame
    dsimp only [Document.put] at hitems
    rw [List.getElem?_set_self hlt, ← hpruned, h.item] at hitems
    have havailable := congrArg (fun e => e.short.available) (Option.some.inj hitems)
    dsimp only [Entitlement.debit] at havailable
    omega
  · rintro ⟨rfl, hpruned⟩
    rw [Entitlement.debit_zero, ← hget]
    unfold Document.put
    rw [List.set_getElem_self]
    exact hpruned

end Document.FirstEligible

/-! ## Reservations -/

/-- A reservation in a stored text that can be read. -/
theorem reserveIn_cases {raw : String} {d : Document} {older : Bool} {now amount : Int}
    (hread : Document.read raw = .ok (d, older)) (hstorable : d.Storable) (hamount : 0 ≤ amount)
    (hnow : Word.InRange now) :
    (reserveIn now amount raw = .error .exhausted ∧
      ∀ e ∈ (d.pruned now).items, ¬ e.Eligible now amount) ∨
    ∃ i e text?, (d.pruned now).FirstEligible now amount i e ∧
      reserveIn now amount raw = .ok (text?, .of e i) ∧
      Document.read (text?.getD raw) = .ok ((d.pruned now).put i (e.debit amount), false) ∧
      (text?.getD raw = raw ↔ amount = 0 ∧ older = false ∧ d.pruned now = d) := by
  have hfaithful := (Document.faithful_of_read hread hstorable).pruned hnow
  rcases reserveIn_of_read hread now hamount with hrefused | ⟨i, e, hfirst, hgranted⟩
  · exact .inl hrefused
  · right
    refine ⟨i, e, _, hfirst, hgranted, ?_⟩
    have hput := hfirst.put_eq_iff hnow
    by_cases hchanged : (older || d.needsPruning now || decide (0 < amount)) = true
    · have hafter := Document.read_write_faithful (hfirst.faithful hfaithful hamount)
      rw [if_pos hchanged]
      refine ⟨hafter, fun hsame => ?_, ?_⟩
      · -- The text that was written is the one that was read, so both are one document.
        rw [Option.getD_some] at hsame
        rw [hsame, hread] at hafter
        obtain ⟨hdocument, hform⟩ := Prod.mk.inj (Except.ok.inj hafter)
        obtain ⟨hzero, hpruned⟩ := hput.mp hdocument.symm
        exact ⟨hzero, hform, hpruned⟩
      · rintro ⟨rfl, rfl, hpruned⟩
        rw [(Document.pruned_eq_iff hnow).mp hpruned] at hchanged
        cases hchanged
    · rw [if_neg hchanged]
      simp only [Bool.or_eq_true, decide_eq_true_eq, not_or, Bool.not_eq_true] at hchanged
      obtain ⟨⟨hform, hneeds⟩, hnothing⟩ := hchanged
      have hkept : amount = 0 ∧ d.pruned now = d :=
        ⟨by omega, (Document.pruned_eq_iff hnow).mpr hneeds⟩
      refine ⟨?_, fun _ => ⟨hkept.1, hform, hkept.2⟩, fun _ => rfl⟩
      rw [hput.mpr hkept, ← hform]
      exact hread

variable {σ : Type} [UserStore σ] [StoreAdmin σ] [LawfulStore σ]

/-- A reservation charges the first eligible entitlement of the pruned document, and nothing but
that document is stored; where there is none, or no document, the store stays as it is.  The text
is the same as before only if it was in the present form and nothing was pruned or charged.  The
selection leads to the entitlement that was charged, at any place that is a word. -/
theorem reserve_first_fit {user now amount balance : Int} {raw : String} {s : σ} (huser : 0 < user)
    (hamount : 0 ≤ amount) (hnow : Word.InRange now)
    (haccount : (books s).account user = some (balance, raw))
    (hstorable : ∀ d older, Document.read raw = .ok (d, older) → d.Storable) :
    match Document.read raw with
    | .error e => reserve user now amount s = (.error (.decode e), s)
    | .ok (d, older) =>
      ((∃ e ∈ (d.pruned now).items, e.Eligible now amount) →
        ∃ i e s' text, (d.pruned now).FirstEligible now amount i e ∧
          reserve user now amount s = (.ok (.of e i), s') ∧
          books s' = (books s).write user text ∧
          Document.read text = .ok ((d.pruned now).put i (e.debit amount), false) ∧
          (text = raw ↔ amount = 0 ∧ older = false ∧ d.pruned now = d) ∧
          (i ≤ Word.greatestUnsigned →
            ((d.pruned now).put i (e.debit amount)).locate? (.of e i) = some i)) ∧
      ((∀ e ∈ (d.pruned now).items, ¬ e.Eligible now amount) →
        reserve user now amount s = (.error .exhausted, s)) := by
  have hasked : reserve user now amount s = UserStore.update user (reserveIn now amount) s := by
    unfold reserve
    rw [if_neg (Int.not_le.mpr huser), if_neg (Int.not_lt.mpr hamount)]
  rw [hasked]
  split
  · rename_i e hread
    have hrefused : reserveIn now amount raw = .error (.decode e) := by
      unfold reserveIn
      rw [hread]
    exact LawfulStore.update_refused haccount hrefused
  · rename_i d older hread
    have hd := hstorable d older hread
    rcases reserveIn_cases hread hd hamount hnow with
      ⟨hrefused, hnone⟩ | ⟨i, e, text?, hfirst, hgranted, hafter, hsame⟩
    · refine ⟨?_, fun _ => LawfulStore.update_refused haccount hrefused⟩
      rintro ⟨e, he, heligible⟩
      exact absurd heligible (hnone e he)
    · refine ⟨fun _ => ?_, fun hnone => ?_⟩
      · have hfound : i ≤ Word.greatestUnsigned →
            ((d.pruned now).put i (e.debit amount)).locate? (.of e i) = some i :=
          hfirst.locate?_put
        cases text? with
        | none =>
          refine ⟨i, e, s, raw, hfirst, LawfulStore.update_kept haccount hgranted, ?_, hafter,
            hsame, hfound⟩
          exact (Books.write_self haccount).symm
        | some text =>
          obtain ⟨s', hupdate, hbooks⟩ := LawfulStore.update_written haccount hgranted
          exact ⟨i, e, s', text, hfirst, hupdate, hbooks, hafter, hsame, hfound⟩
      · exact absurd hfirst.eligible (hnone e (List.mem_of_getElem? hfirst.item))

/-- An entitlement of a user. -/
def shelved (subscriptionId status : String) (short : Window) : Entitlement :=
  { planName := "basic", planId := "p1", subscriptionId := subscriptionId, short := short
    long := ⟨200, 150, 9000⟩, term := ⟨1, 9000, false⟩, owner := 7, status := status
    extra := [("note", .text "renewed")] }

/-- One entitlement that is no longer in force, one with too little left, and one whose short
window is used up but stale. -/
def shelfDocument : Document :=
  ⟨[shelved "s1" "cancelled" ⟨40, 40, 2000⟩, shelved "s2" "deployed" ⟨40, 5, 2000⟩,
    shelved "s3" "deployed" ⟨40, 0, 900⟩], 0⟩

/-- The last one after it was rolled over. -/
def shelfChoice : Entitlement := shelved "s3" "deployed" ⟨40, 40, 18900⟩

def shelfStore : MemoryStore := ⟨[(7, ⟨"subscription", 100, shelfDocument.write⟩)], []⟩

theorem canonical_shelved {subscriptionId status : String} {short : Window}
    (h : short.InRange) : (shelved subscriptionId status short).Canonical := by
  have hlong : (⟨200, 150, 9000⟩ : Window).InRange := ⟨by decide, by decide, by decide⟩
  have hterm : (⟨1, 9000, false⟩ : Term).InRange := ⟨by decide, by decide⟩
  have howner : Word.InRange 7 := by decide
  refine ⟨h, hlong, hterm, howner, ?_, ?_, ?_⟩
  · intro m hm
    rw [List.mem_singleton.mp hm]
    decide
  · exact List.pairwise_singleton _ _
  · exact ⟨trivial, trivial⟩

theorem faithful_shelfDocument : shelfDocument.Faithful := by
  refine ⟨⟨?_, by decide⟩, ?_⟩
  · simp only [shelfDocument, List.forall_mem_cons]
    refine ⟨canonical_shelved ?_, canonical_shelved ?_, canonical_shelved ?_,
      List.forall_mem_nil _⟩
    · exact ⟨by decide, by decide, by decide⟩
    · exact ⟨by decide, by decide, by decide⟩
    · exact ⟨by decide, by decide, by decide⟩
  · simp only [shelfDocument, List.forall_mem_cons]
    exact ⟨⟨trivial, trivial⟩, ⟨trivial, trivial⟩, ⟨trivial, trivial⟩, List.forall_mem_nil _⟩

theorem firstEligible_shelfChoice :
    (shelfDocument.pruned 1000).FirstEligible 1000 20 1 shelfChoice := by
  refine ⟨rfl, ⟨rfl, by decide, by decide, by decide, by decide⟩, fun j e hj he heligible => ?_⟩
  have hzero : j = 0 := by omega
  subst hzero
  cases he
  exact absurd heligible.short.2 (by decide)

theorem reserve_first_fit_shelf :
    ∃ s' text d, reserve 7 1000 20 shelfStore = (.ok (.of shelfChoice 1), s') ∧
      books s' = (books shelfStore).write 7 text ∧ Document.read text = .ok (d, false) ∧
      d.items.map (·.short.available) = [5, 20] ∧ d.lastResetAt = 1000 ∧
      d.locate? (.of shelfChoice 1) = some 1 := by
  have hread := Document.read_write_faithful faithful_shelfDocument
  have hstorable : ∀ d older, Document.read shelfDocument.write = .ok (d, older) → d.Storable := by
    intro d older h
    rw [hread] at h
    cases h
    exact Document.storable_iff.mpr faithful_shelfDocument.plain
  have hfit := @reserve_first_fit MemoryStore _ _ _ 7 1000 20 100 shelfDocument.write shelfStore
    (by decide) (by decide) (by decide) rfl hstorable
  rw [hread] at hfit
  have hchoice := firstEligible_shelfChoice
  obtain ⟨i, e, s', text, hfirst, hreserve, hbooks, hafter, -, hlocate⟩ :=
    hfit.1 ⟨shelfChoice, List.mem_of_getElem? hchoice.item, hchoice.eligible⟩
  obtain ⟨rfl, rfl⟩ := hfirst.unique hchoice
  exact ⟨s', text, _, hreserve, hbooks, hafter, rfl, rfl, hlocate (by decide)⟩

end Turnstile.Subscription
