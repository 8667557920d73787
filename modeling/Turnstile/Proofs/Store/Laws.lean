import Turnstile.Store.Faulty
import Turnstile.Store.Memory
import Turnstile.Store.Table

/-!
# Laws of user stores

What can be seen of a store are its books: balance and document of every user, and what is left
of every token.  `LawfulStore` says what each operation does to the books of a sound store, in
terms of `Books.charge` and `Books.write` alone; the store in memory and the tables both satisfy
it, so whatever follows from it holds of either.  `FramedStore` says less, and a store on which
calls fail on demand satisfies it too: a call that fails changes nothing, and one that succeeds
changes only the row and the counter that it names.

* `MemoryStore.lawful`, `TableStore.lawful` — the two stores obey the laws;
* `MemoryStore.framed`, `TableStore.framed`, `FaultyStore.framed` — and keep to their frames.
-/

set_option autoImplicit false

namespace Turnstile

/-- What can be seen of a store: balance and document of each user, what is left of each token. -/
@[ext]
structure Books where
  account : Int → Option (Int × String)
  remain : Int → Option Int

namespace Books

/-- `delta` charged to a spender: to the wallet, and to the token unless it is unlimited. -/
def charge (who : Spender) (delta : Int) (b : Books) : Books where
  account k := if k = who.user then (b.account k).map fun a => (a.1 - delta, a.2) else b.account k
  remain k :=
    if who.unlimited = false ∧ k = who.token then (b.remain k).map (· - delta) else b.remain k

/-- Another document for a user. -/
def write (user : Int) (text : String) (b : Books) : Books where
  account k := if k = user then (b.account k).map fun a => (a.1, text) else b.account k
  remain := b.remain

/-- What stands against debiting a wallet that holds `balance`: the token first, then the wallet.
A token without a counter has nothing left. -/
def shortage? (who : Spender) (amount balance : Int) (b : Books) : Option StoreError :=
  let remain := (b.remain who.token).getD 0
  if !who.unlimited && remain < amount then some (.insufficientToken who.token remain amount)
  else if balance < amount then some (.insufficientWallet who.user balance amount)
  else none

/-- Charging `delta` to a spender stays within signed 64-bit words. -/
structure Fits (who : Spender) (delta : Int) (b : Books) : Prop where
  amount : Word.InRange delta
  wallet : ∀ a, b.account who.user = some a → Word.InRange (a.1 - delta)
  token : who.unlimited = false → ∀ n, b.remain who.token = some n → Word.InRange (n - delta)

/-- A charge on counters that are known fits if both stay words. -/
theorem Fits.of_known {who : Spender} {delta : Int} {b : Books} {a : Int × String} {n : Int}
    (hdelta : Word.InRange delta) (ha : b.account who.user = some a)
    (hn : b.remain who.token = some n) (hwallet : Word.InRange (a.1 - delta))
    (htoken : Word.InRange (n - delta)) : b.Fits who delta := by
  refine ⟨hdelta, ?_, ?_⟩
  · intro a' ha'
    rw [ha] at ha'
    cases ha'
    exact hwallet
  · intro _ n' hn'
    rw [hn] at hn'
    cases hn'
    exact htoken

/-- The wallet, and the token unless it is unlimited, hold as much. -/
structure Affords (who : Spender) (amount : Int) (b : Books) : Prop where
  wallet : ∀ a, b.account who.user = some a → amount ≤ a.1
  token : who.unlimited = false → ∀ n, b.remain who.token = some n → amount ≤ n

/-- What nothing stands against is there. -/
theorem affords_of_shortage {who : Spender} {amount : Int} {b : Books} {a : Int × String}
    (ha : b.account who.user = some a)
    (h : b.shortage? who amount a.1 = none) : b.Affords who amount := by
  unfold shortage? at h
  dsimp only at h
  split at h
  · cases h
  · rename_i htoken
    split at h
    · cases h
    · rename_i hwallet
      constructor
      · intro a' ha'
        rw [ha] at ha'
        cases ha'
        exact Int.not_lt.mp hwallet
      · intro hlimited n hn
        simp [hlimited, hn] at htoken
        exact htoken

/-- Nothing differs but the row of a user and the counter of a token. -/
structure SameBeyond (user token : Int) (b b' : Books) : Prop where
  account : ∀ k, k ≠ user → b'.account k = b.account k
  remain : ∀ k, k ≠ token → b'.remain k = b.remain k

theorem SameBeyond.refl (user token : Int) (b : Books) : SameBeyond user token b b :=
  ⟨fun _ _ => rfl, fun _ _ => rfl⟩

theorem SameBeyond.trans {user token : Int} {b b' b'' : Books} (h : b.SameBeyond user token b')
    (h' : b'.SameBeyond user token b'') : b.SameBeyond user token b'' :=
  ⟨fun k hk => (h'.account k hk).trans (h.account k hk),
    fun k hk => (h'.remain k hk).trans (h.remain k hk)⟩

theorem account_charge (who : Spender) (delta : Int) (b : Books) (k : Int) :
    (b.charge who delta).account k =
      if k = who.user then (b.account k).map fun a => (a.1 - delta, a.2) else b.account k := rfl

theorem remain_charge (who : Spender) (delta : Int) (b : Books) (k : Int) :
    (b.charge who delta).remain k =
      if who.unlimited = false ∧ k = who.token then (b.remain k).map (· - delta)
      else b.remain k := rfl

theorem account_write (user : Int) (text : String) (b : Books) (k : Int) :
    (b.write user text).account k =
      if k = user then (b.account k).map fun a => (a.1, text) else b.account k := rfl

/-- Charging nothing changes nothing. -/
theorem charge_zero (who : Spender) (b : Books) : b.charge who 0 = b := by
  ext1
  · funext k
    rw [account_charge]
    split
    · cases b.account k <;> simp
    · rfl
  · funext k
    rw [remain_charge]
    split
    · cases b.remain k <;> simp
    · rfl

/-- Writing the document that stands there changes nothing. -/
theorem write_self {user balance : Int} {text : String} {b : Books}
    (h : b.account user = some (balance, text)) : b.write user text = b := by
  ext1
  · funext k
    rw [account_write]
    split
    · rename_i hk
      rw [hk, h]
      rfl
    · rfl
  · rfl

theorem sameBeyond_charge (who : Spender) (delta : Int) (b : Books) :
    b.SameBeyond who.user who.token (b.charge who delta) := by
  refine ⟨fun k hk => ?_, fun k hk => ?_⟩
  · rw [account_charge, if_neg hk]
  · rw [remain_charge, if_neg fun h => hk h.2]

theorem sameBeyond_write (user token : Int) (text : String) (b : Books) :
    b.SameBeyond user token (b.write user text) := by
  refine ⟨fun k hk => ?_, fun _ _ => rfl⟩
  rw [account_write, if_neg hk]

end Books

/-- The books of a store. -/
def StoreAdmin.books {σ : Type} [StoreAdmin σ] (s : σ) : Books where
  account user := StoreAdmin.account? user s
  remain token := StoreAdmin.remain? token s

open StoreAdmin (books)

/-- A sound store: its operations answer and work as its books say. -/
class LawfulStore (σ : Type) [UserStore σ] [StoreAdmin σ] : Prop where
  balance_eq (user : Int) (s : σ) : UserStore.balance user s =
    (match (books s).account user with
      | none => .error (.userNotFound user)
      | some a => .ok a.1, s)
  /-- A positive amount is not debited if something stands against it, -/
  debit_short {who : Spender} {amount : Int} {s : σ} {a : Int × String} {e : StoreError} :
    0 < amount → (books s).account who.user = some a →
    (books s).shortage? who amount a.1 = some e → UserStore.debit who amount s = (.error e, s)
  /-- and is debited if nothing does. -/
  debit_paid {who : Spender} {amount : Int} {s : σ} {a : Int × String} :
    0 < amount → (books s).account who.user = some a →
    (books s).shortage? who amount a.1 = none →
    ∃ s', UserStore.debit who amount s = (.ok (), s') ∧ books s' = (books s).charge who amount
  charge_eq {who : Spender} {delta : Int} {s : σ} {a : Int × String} :
    (books s).account who.user = some a → (books s).Fits who delta →
    ∃ s', UserStore.charge who delta s = (.ok (), s') ∧ books s' = (books s).charge who delta
  update_missing {α : Type} {user : Int} {f : String → Except LedgerError (Option String × α)}
    {s : σ} : (books s).account user = none →
    UserStore.update user f s = (.error (.store (.userNotFound user)), s)
  update_refused {α : Type} {user : Int} {f : String → Except LedgerError (Option String × α)}
    {s : σ} {a : Int × String} {e : LedgerError} :
    (books s).account user = some a → f a.2 = .error e → UserStore.update user f s = (.error e, s)
  update_kept {α : Type} {user : Int} {f : String → Except LedgerError (Option String × α)}
    {s : σ} {a : Int × String} {x : α} :
    (books s).account user = some a → f a.2 = .ok (none, x) → UserStore.update user f s = (.ok x, s)
  update_written {α : Type} {user : Int} {f : String → Except LedgerError (Option String × α)}
    {s : σ} {a : Int × String} {text : String} {x : α} :
    (books s).account user = some a → f a.2 = .ok (some text, x) →
    ∃ s', UserStore.update user f s = (.ok x, s') ∧ books s' = (books s).write user text

/-- A store that keeps to its frames: a failed call changes nothing to be seen, any other one
only the row and the counter that it names. -/
class FramedStore (σ : Type) [UserStore σ] [StoreAdmin σ] : Prop where
  balance_same {user : Int} {s s' : σ} {r : Except StoreError Int} :
    UserStore.balance user s = (r, s') → books s' = books s
  debit_error {who : Spender} {amount : Int} {s s' : σ} {e : StoreError} :
    UserStore.debit who amount s = (.error e, s') → books s' = books s
  debit_ok {who : Spender} {amount : Int} {s s' : σ} :
    UserStore.debit who amount s = (.ok (), s') →
      (books s).SameBeyond who.user who.token (books s')
  update_error {α : Type} {user : Int} {f : String → Except LedgerError (Option String × α)}
    {s s' : σ} {e : LedgerError} :
    UserStore.update user f s = (.error e, s') → books s' = books s
  update_ok {α : Type} {user token : Int} {f : String → Except LedgerError (Option String × α)}
    {s s' : σ} {x : α} :
    UserStore.update user f s = (.ok x, s') → (books s).SameBeyond user token (books s')

/-! ## The store in memory -/

namespace MemoryStore

theorem account_books (s : MemoryStore) (k : Int) :
    (books s).account k = (s.users.find? k).map fun a => (a.balance, a.document) := rfl

theorem remain_books (s : MemoryStore) (k : Int) : (books s).remain k = s.tokens.find? k := rfl

/-- The tables after both counters of a spender were changed, seen as books. -/
theorem books_modify (s : MemoryStore) (who : Spender) (delta : Int) (f : Int → Int)
    (hwallet : ∀ a, s.users.find? who.user = some a → f a.balance = a.balance - delta)
    (htoken : who.unlimited = false → ∀ n, s.tokens.find? who.token = some n → f n = n - delta) :
    books (⟨s.users.modify who.user fun a => { a with balance := f a.balance },
      if who.unlimited then s.tokens else s.tokens.modify who.token f⟩ : MemoryStore) =
      (books s).charge who delta := by
  ext1
  · funext k
    rw [Books.account_charge, account_books, account_books, Rows.find?_modify]
    by_cases hk : k = who.user
    · subst hk
      rw [if_pos rfl, if_pos rfl]
      cases hrow : s.users.find? who.user with
      | none => rfl
      | some a => simp [hwallet a hrow]
    · rw [if_neg hk, if_neg hk]
  · funext k
    rw [Books.remain_charge, remain_books, remain_books]
    cases hu : who.unlimited with
    | true => simp
    | false =>
      simp only [Bool.false_eq_true, if_false, true_and, Rows.find?_modify]
      by_cases hk : k = who.token
      · subst hk
        rw [if_pos rfl, if_pos rfl]
        cases hrow : s.tokens.find? who.token with
        | none => rfl
        | some n => simp [htoken hu n hrow]
      · rw [if_neg hk, if_neg hk]

theorem books_write (s : MemoryStore) (user : Int) (text : String) :
    books ({ s with users := s.users.modify user fun a => { a with document := text } } :
      MemoryStore) = (books s).write user text := by
  ext1
  · funext k
    rw [Books.account_write, account_books, account_books, Rows.find?_modify]
    by_cases hk : k = user
    · rw [if_pos hk, if_pos hk]
      cases s.users.find? k <;> rfl
    · rw [if_neg hk, if_neg hk]
  · rfl

/-- A debit from an existing user fails by what stands against it, and by nothing else. -/
theorem debit_eq {s : MemoryStore} {who : Spender} {row : Account} {amount : Int}
    (hrow : s.users.find? who.user = some row) :
    s.debit who amount = match (books s).shortage? who amount row.balance with
      | some e => .error e
      | none => .ok ⟨s.users.modify who.user fun a => { a with balance := a.balance - amount },
          if who.unlimited then s.tokens else s.tokens.modify who.token (· - amount)⟩ := by
  unfold MemoryStore.debit Books.shortage?
  rw [hrow]
  dsimp only
  rw [← remain_books s who.token]
  by_cases ht :
      (!who.unlimited && decide (((books s).remain who.token).getD 0 < amount)) = true
  · rw [if_pos ht, if_pos ht]
  · rw [if_neg ht, if_neg ht]
    by_cases hw : row.balance < amount
    · rw [if_pos hw, if_pos hw]
    · rw [if_neg hw, if_neg hw]

instance lawful : LawfulStore MemoryStore where
  balance_eq user s := by
    show (s.balance user, s) = _
    rw [account_books]
    unfold MemoryStore.balance
    cases s.users.find? user <;> rfl
  debit_short {who amount s a e} _ ha hs := by
    rw [account_books] at ha
    obtain ⟨row, hrow, rfl⟩ := Option.map_eq_some_iff.mp ha
    simp only [UserStore.debit, debit_eq hrow, hs]
  debit_paid {who amount s a} _ ha hs := by
    rw [account_books] at ha
    obtain ⟨row, hrow, rfl⟩ := Option.map_eq_some_iff.mp ha
    simp only [UserStore.debit, debit_eq hrow, hs]
    exact ⟨_, rfl, books_modify s who amount (· - amount) (fun _ _ => rfl) fun _ _ _ => rfl⟩
  charge_eq {who delta s a} ha hfit := by
    have ha' := ha
    rw [account_books] at ha'
    obtain ⟨row, hrow, rfl⟩ := Option.map_eq_some_iff.mp ha'
    simp only [UserStore.charge, MemoryStore.charge, hrow]
    refine ⟨_, rfl, books_modify s who delta (Word.sub · delta) ?_ ?_⟩
    · intro b hb
      exact Word.saturate_of_inRange (hfit.wallet (b.balance, b.document)
        (by rw [account_books, hb]; rfl))
    · intro hu n hn
      exact Word.saturate_of_inRange (hfit.token hu n hn)
  update_missing {α user f s} h := by
    rw [account_books, Option.map_eq_none_iff] at h
    simp [UserStore.update, MemoryStore.update, h]
  update_refused {α user f s a e} ha hf := by
    rw [account_books] at ha
    obtain ⟨row, hrow, rfl⟩ := Option.map_eq_some_iff.mp ha
    simp [UserStore.update, MemoryStore.update, hrow, hf]
  update_kept {α user f s a x} ha hf := by
    rw [account_books] at ha
    obtain ⟨row, hrow, rfl⟩ := Option.map_eq_some_iff.mp ha
    simp [UserStore.update, MemoryStore.update, hrow, hf]
  update_written {α user f s a text x} ha hf := by
    rw [account_books] at ha
    obtain ⟨row, hrow, rfl⟩ := Option.map_eq_some_iff.mp ha
    simp only [UserStore.update, MemoryStore.update, hrow, hf]
    exact ⟨_, rfl, books_write s user text⟩

instance framed : FramedStore MemoryStore where
  balance_same h := by cases h; rfl
  debit_error {who amount s s' e} h := by
    simp only [UserStore.debit] at h
    split at h <;> cases h
    rfl
  debit_ok {who amount s s'} h := by
    simp only [UserStore.debit] at h
    split at h
    · rename_i s'' hd
      cases h
      cases hrow : s.users.find? who.user with
      | none => simp [MemoryStore.debit, hrow] at hd
      | some row =>
        rw [debit_eq hrow] at hd
        split at hd <;> cases hd
        rw [books_modify s who amount (· - amount) (fun _ _ => rfl) fun _ _ _ => rfl]
        exact Books.sameBeyond_charge who amount (books s)
    · cases h
  update_error {α user f s s' e} h := by
    simp only [UserStore.update] at h
    split at h <;> cases h
    rfl
  update_ok {α user token f s s' x} h := by
    simp only [UserStore.update] at h
    split at h
    · rename_i y s'' hu
      cases h
      unfold MemoryStore.update at hu
      split at hu
      · cases hu
      · split at hu
        · cases hu
        · cases hu
          exact .refl user token (books s)
        · cases hu
          rw [books_write]
          exact Books.sameBeyond_write user token _ (books s)
    · cases h

end MemoryStore

/-! ## The tables -/

namespace TableStore

theorem account_books (s : TableStore) (k : Int) :
    (books s).account k = (s.users.find? k).map fun r => (r.balance, r.document.getD "") := rfl

theorem remain_books (s : TableStore) (k : Int) :
    (books s).remain k = (s.tokens.find? k).map (·.remain) := rfl

/-- The tables after both counters of a spender were lowered, seen as books. -/
theorem books_modify (s : TableStore) (who : Spender) (delta : Int) :
    books (⟨s.users.modify who.user fun r => { r with balance := r.balance - delta },
      if who.unlimited then s.tokens
      else s.tokens.modify who.token fun r => { r with remain := r.remain - delta }⟩ :
      TableStore) = (books s).charge who delta := by
  ext1
  · funext k
    rw [Books.account_charge, account_books, account_books, Rows.find?_modify]
    by_cases hk : k = who.user
    · rw [if_pos hk, if_pos hk]
      cases s.users.find? k <;> rfl
    · rw [if_neg hk, if_neg hk]
  · funext k
    rw [Books.remain_charge, remain_books, remain_books]
    cases hu : who.unlimited with
    | true => simp
    | false =>
      simp only [Bool.false_eq_true, if_false, true_and, Rows.find?_modify]
      by_cases hk : k = who.token
      · rw [if_pos hk, if_pos hk]
        cases s.tokens.find? k <;> rfl
      · rw [if_neg hk, if_neg hk]

theorem books_write (s : TableStore) (user : Int) (text : String) :
    books ({ s with users := s.users.modify user fun r => { r with document := some text } } :
      TableStore) = (books s).write user text := by
  ext1
  · funext k
    rw [Books.account_write, account_books, account_books, Rows.find?_modify]
    by_cases hk : k = user
    · rw [if_pos hk, if_pos hk]
      cases s.users.find? k <;> rfl
    · rw [if_neg hk, if_neg hk]
  · rfl

/-- The wallet of an existing user is debited if it holds as much, and stays as it is if not. -/
theorem debitUser_eq {users : Rows UserRow} {tokens : Rows TokenRow} {user amount : Int}
    {row : UserRow} (hrow : users.find? user = some row) :
    debitUser user amount ⟨users, tokens⟩ =
      if amount ≤ row.balance then
        (⟨users.modify user fun r => { r with balance := r.balance - amount }, tokens⟩, true)
      else (⟨users, tokens⟩, false) := by
  unfold debitUser Rows.modifyIf
  rw [hrow]
  by_cases hle : amount ≤ row.balance
  · simp [hle]
  · simp [hle]

/-- A positive amount is taken off a token that has as much left; a token without a row has
nothing left. -/
theorem debitToken_eq {t : TableStore} {token amount : Int} (hpos : 0 < amount) :
    t.debitToken token amount =
      if ((books t).remain token).getD 0 < amount then (t, false)
      else ({ t with tokens :=
        t.tokens.modify token fun r => { r with remain := r.remain - amount } }, true) := by
  unfold debitToken Rows.modifyIf
  rw [remain_books]
  cases htoken : t.tokens.find? token with
  | none => simp [hpos]
  | some r =>
    by_cases hle : amount ≤ r.remain
    · have : ¬ r.remain < amount := by omega
      simp [hle, this]
    · have : r.remain < amount := by omega
      simp [hle, this]

/-- A debit of a positive amount from an existing user fails by what stands against it, and by
nothing else: the tables are rolled back before it is said what was missing. -/
theorem debit_eq {s : TableStore} {who : Spender} {row : UserRow} {amount : Int}
    (hpos : 0 < amount) (hrow : s.users.find? who.user = some row) :
    s.debit who amount = match (books s).shortage? who amount row.balance with
      | some e => .error e
      | none => .ok ⟨s.users.modify who.user fun r => { r with balance := r.balance - amount },
          if who.unlimited then s.tokens
          else s.tokens.modify who.token fun r => { r with remain := r.remain - amount }⟩ := by
  have hshort : ∀ t : TableStore, t.users = s.users →
      t.walletShortage who.user amount = .insufficientWallet who.user row.balance amount := by
    intro t ht
    unfold walletShortage TableStore.balance
    rw [ht, hrow]
  unfold TableStore.debit Books.shortage?
  cases hu : who.unlimited with
  | true =>
    simp only [if_true, Bool.not_true, Bool.false_and, Bool.false_eq_true, if_false]
    rw [debitUser_eq hrow]
    by_cases hw : row.balance < amount
    · rw [if_neg (by omega), if_pos hw]
      exact congrArg Except.error (hshort s rfl)
    · rw [if_pos (by omega), if_neg hw]
  | false =>
    simp only [Bool.false_eq_true, if_false, Bool.not_false, Bool.true_and, decide_eq_true_eq]
    rw [debitToken_eq hpos]
    by_cases ht : ((books s).remain who.token).getD 0 < amount
    · rw [if_pos ht, if_pos ht]
      rfl
    · rw [if_neg ht, if_neg ht]
      simp only [Bool.not_true, Bool.false_eq_true, if_false]
      rw [debitUser_eq hrow]
      by_cases hw : row.balance < amount
      · rw [if_neg (by omega), if_pos hw]
        exact congrArg Except.error (hshort _ rfl)
      · rw [if_pos (by omega), if_neg hw]

instance lawful : LawfulStore TableStore where
  balance_eq user s := by
    show (s.balance user, s) = _
    rw [account_books]
    unfold TableStore.balance
    cases s.users.find? user <;> rfl
  debit_short {who amount s a e} hpos ha hs := by
    rw [account_books] at ha
    obtain ⟨row, hrow, rfl⟩ := Option.map_eq_some_iff.mp ha
    simp only [UserStore.debit, debit_eq hpos hrow, hs]
  debit_paid {who amount s a} hpos ha hs := by
    rw [account_books] at ha
    obtain ⟨row, hrow, rfl⟩ := Option.map_eq_some_iff.mp ha
    simp only [UserStore.debit, debit_eq hpos hrow, hs]
    exact ⟨_, rfl, books_modify s who amount⟩
  charge_eq {who delta s a} ha _ := by
    rw [account_books] at ha
    obtain ⟨row, hrow, rfl⟩ := Option.map_eq_some_iff.mp ha
    simp only [UserStore.charge, TableStore.charge, Rows.modifyIf, hrow, if_true]
    exact ⟨_, rfl, books_modify s who delta⟩
  update_missing {α user f s} h := by
    rw [account_books, Option.map_eq_none_iff] at h
    simp [UserStore.update, TableStore.update, TableStore.document, h]
  update_refused {α user f s a e} ha hf := by
    rw [account_books] at ha
    obtain ⟨row, hrow, rfl⟩ := Option.map_eq_some_iff.mp ha
    simp [UserStore.update, TableStore.update, TableStore.document, hrow, hf]
  update_kept {α user f s a x} ha hf := by
    rw [account_books] at ha
    obtain ⟨row, hrow, rfl⟩ := Option.map_eq_some_iff.mp ha
    simp [UserStore.update, TableStore.update, TableStore.document, hrow, hf]
  update_written {α user f s a text x} ha hf := by
    rw [account_books] at ha
    obtain ⟨row, hrow, rfl⟩ := Option.map_eq_some_iff.mp ha
    simp only [UserStore.update, TableStore.update, TableStore.document, hrow, hf]
    exact ⟨_, rfl, books_write s user text⟩

/-- The wallet's part of a debit touches only the wallet, -/
theorem sameBeyond_debitUser (t : TableStore) (user token amount : Int) :
    (books t).SameBeyond user token (books (t.debitUser user amount).1) := by
  unfold debitUser Rows.modifyIf
  cases t.users.find? user with
  | none => exact .refl user token (books t)
  | some row =>
    dsimp only
    split
    · refine ⟨fun k hk => ?_, fun _ _ => rfl⟩
      rw [account_books, account_books, Rows.find?_modify, if_neg hk]
    · exact .refl user token (books t)

/-- and the token's part only the token. -/
theorem sameBeyond_debitToken (t : TableStore) (user token amount : Int) :
    (books t).SameBeyond user token (books (t.debitToken token amount).1) := by
  unfold debitToken Rows.modifyIf
  cases t.tokens.find? token with
  | none => exact .refl user token (books t)
  | some row =>
    dsimp only
    split
    · refine ⟨fun _ _ => rfl, fun k hk => ?_⟩
      rw [remain_books, remain_books, Rows.find?_modify, if_neg hk]
    · exact .refl user token (books t)

/-- A debit that succeeds leaves every other user and token alone, whatever its amount. -/
theorem sameBeyond_debit {s s' : TableStore} {who : Spender} {amount : Int}
    (h : s.debit who amount = .ok s') : (books s).SameBeyond who.user who.token (books s') := by
  unfold TableStore.debit at h
  cases hu : who.unlimited with
  | true =>
    simp only [hu, if_true, Bool.not_true, Bool.false_eq_true, if_false] at h
    split at h
    · rename_i after hafter
      cases h
      have hsame := sameBeyond_debitUser s who.user who.token amount
      rw [hafter] at hsame
      exact hsame
    · cases h
  | false =>
    simp only [hu, Bool.false_eq_true, if_false] at h
    split at h
    · cases h
    · split at h
      · rename_i after hafter
        cases h
        have hsame := sameBeyond_debitUser (s.debitToken who.token amount).1 who.user who.token amount
        rw [hafter] at hsame
        exact (sameBeyond_debitToken s who.user who.token amount).trans hsame
      · cases h

instance framed : FramedStore TableStore where
  balance_same h := by cases h; rfl
  debit_error {who amount s s' e} h := by
    simp only [UserStore.debit] at h
    split at h <;> cases h
    rfl
  debit_ok {who amount s s'} h := by
    simp only [UserStore.debit] at h
    split at h
    · rename_i s'' hd
      cases h
      exact sameBeyond_debit hd
    · cases h
  update_error {α user f s s' e} h := by
    simp only [UserStore.update] at h
    split at h <;> cases h
    rfl
  update_ok {α user token f s s' x} h := by
    simp only [UserStore.update] at h
    split at h
    · rename_i y s'' hu
      cases h
      unfold TableStore.update at hu
      split at hu
      · cases hu
      · split at hu
        · cases hu
        · cases hu
          exact .refl user token (books s)
        · cases hu
          rw [books_write]
          exact Books.sameBeyond_write user token _ (books s)
    · cases h

end TableStore

/-! ## Stores that fail on demand -/

namespace FaultyStore

variable {σ : Type}

theorem books_store [StoreAdmin σ] (s : FaultyStore σ) : books s = books s.store := rfl

theorem store_takeFault? {call : StoreCall} {s s' : FaultyStore σ} {e : StoreError}
    (h : s.takeFault? call = some (e, s')) : s'.store = s.store := by
  unfold takeFault? at h
  split at h <;> cases h
  rfl

/-- A call either fails with a fault before the store is asked, or is the store's own. -/
theorem passOn_cases {ε α : Type} {call : StoreCall} {fault : StoreError → ε}
    {ask : σ → Except ε α × σ} {s s' : FaultyStore σ} {r : Except ε α}
    (h : passOn call fault ask s = (r, s')) :
    (∃ e, r = .error (fault e) ∧ s'.store = s.store) ∨ ask s.store = (r, s'.store) := by
  unfold passOn at h
  split at h
  · rename_i e s'' ht
    cases h
    exact .inl ⟨e, rfl, store_takeFault? ht⟩
  · cases h
    exact .inr rfl

instance framed [UserStore σ] [StoreAdmin σ] [FramedStore σ] : FramedStore (FaultyStore σ) where
  balance_same {user s s' r} h := by
    rw [books_store, books_store]
    rcases passOn_cases h with ⟨_, _, hs⟩ | hs
    · rw [hs]
    · exact FramedStore.balance_same hs
  debit_error {who amount s s' e} h := by
    rw [books_store, books_store]
    rcases passOn_cases h with ⟨_, _, hs⟩ | hs
    · rw [hs]
    · exact FramedStore.debit_error hs
  debit_ok {who amount s s'} h := by
    rw [books_store, books_store]
    rcases passOn_cases h with ⟨_, hr, _⟩ | hs
    · cases hr
    · exact FramedStore.debit_ok hs
  update_error {α user f s s' e} h := by
    rw [books_store, books_store]
    rcases passOn_cases h with ⟨_, _, hs⟩ | hs
    · rw [hs]
    · exact FramedStore.update_error hs
  update_ok {α user token f s s' x} h := by
    rw [books_store, books_store]
    rcases passOn_cases h with ⟨_, hr, _⟩ | hs
    · cases hr
    · exact FramedStore.update_ok hs

end FaultyStore

end Turnstile
