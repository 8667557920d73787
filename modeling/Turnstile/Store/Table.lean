import Turnstile.Store.Basic

/-!
# A store of tables changed by conditional updates

Here a debit does not look before it writes: it changes the row of the token where enough is left
there, then that of the user where enough is left there, and a statement that changed no row says
that the debit failed. What had been changed by then is rolled back, and only then is it asked what
was missing. The text of a document may be absent, which reads as empty.
-/

namespace Turnstile

/-- A user's row. -/
structure UserRow where
  group : String
  balance : Int
  document : Option String
  deriving DecidableEq, Repr

/-- A token's row. -/
structure TokenRow where
  user : Int
  remain : Int
  unlimited : Bool
  deriving DecidableEq, Repr

/-- The tables. -/
structure TableStore where
  users : Rows UserRow := []
  tokens : Rows TokenRow := []

namespace TableStore

/-- Puts a user in, in place of one of the same number. -/
def insertUser (id : Int) (row : UserRow) (s : TableStore) : TableStore :=
  { s with users := s.users.put id row }

/-- Puts a token in, in place of one of the same number. -/
def insertToken (id : Int) (row : TokenRow) (s : TableStore) : TableStore :=
  { s with tokens := s.tokens.put id row }

/-- The balance of a user. -/
def balance (user : Int) (s : TableStore) : Except StoreError Int :=
  match s.users.find? user with
  | none => .error (.userNotFound user)
  | some r => .ok r.balance

/-- The stored text of a user's document. -/
def document (user : Int) (s : TableStore) : Except StoreError String :=
  match s.users.find? user with
  | none => .error (.userNotFound user)
  | some r => .ok (r.document.getD "")

/-- Takes an amount off a token that has as much left; the flag tells whether it did. -/
def debitToken (token amount : Int) (s : TableStore) : TableStore × Bool :=
  match s.tokens.modifyIf token (amount ≤ ·.remain)
    (fun r => { r with remain := r.remain - amount }) with
  | (tokens, changed) => ({ s with tokens := tokens }, changed)

/-- Takes an amount off a wallet that has as much left; the flag tells whether it did. -/
def debitUser (user amount : Int) (s : TableStore) : TableStore × Bool :=
  match s.users.modifyIf user (amount ≤ ·.balance)
    (fun r => { r with balance := r.balance - amount }) with
  | (users, changed) => ({ s with users := users }, changed)

/-- Why a wallet could not be debited. -/
def walletShortage (user amount : Int) (s : TableStore) : StoreError :=
  match s.balance user with
  | .error e => e
  | .ok balance => .insufficientWallet user balance amount

/-- Debits the token, then the wallet. -/
def debit (who : Spender) (amount : Int) (s : TableStore) : Except StoreError TableStore :=
  let (afterToken, paid) := if who.unlimited then (s, true) else s.debitToken who.token amount
  if !paid then
    let remain := ((s.tokens.find? who.token).map (·.remain)).getD 0
    .error (.insufficientToken who.token remain amount)
  else match afterToken.debitUser who.user amount with
    | (afterBoth, true) => .ok afterBoth
    | (_, false) => .error (afterToken.walletShortage who.user amount)

/-- Charges the token, then the wallet. -/
def charge (who : Spender) (delta : Int) (s : TableStore) : Except StoreError TableStore :=
  let tokens :=
    if who.unlimited then s.tokens
    else s.tokens.modify who.token fun r => { r with remain := r.remain - delta }
  match s.users.modifyIf who.user (fun _ => true)
    (fun r => { r with balance := r.balance - delta }) with
  | (users, true) => .ok ⟨users, tokens⟩
  | (_, false) => .error (.userNotFound who.user)

/-- Hands the document of a user to `f` and stores what it answers. -/
def update {α : Type} (user : Int) (f : String → Except LedgerError (Option String × α))
    (s : TableStore) : Except LedgerError (α × TableStore) :=
  match s.document user with
  | .error e => .error (.store e)
  | .ok text => match f text with
    | .error e => .error e
    | .ok (none, x) => .ok (x, s)
    | .ok (some text, x) =>
      .ok (x, { s with users := s.users.modify user fun r => { r with document := some text } })

/-- The users of a group. -/
def members (group : String) (s : TableStore) : List Int :=
  s.users.numbers fun r => r.group == group

instance : UserStore TableStore where
  balance user s := (s.balance user, s)
  debit who amount s := match s.debit who amount with
    | .ok s' => (.ok (), s')
    | .error e => (.error e, s)
  charge who delta s := match s.charge who delta with
    | .ok s' => (.ok (), s')
    | .error e => (.error e, s)
  update user f s := match s.update user f with
    | .ok (x, s') => (.ok x, s')
    | .error e => (.error e, s)
  members group s := (.ok (s.members group), s)

instance : StoreAdmin TableStore where
  account? user s := (s.users.find? user).map fun r => (r.balance, r.document.getD "")
  remain? token s := (s.tokens.find? token).map (·.remain)
  document user s := (s.document user).map some
  putUser user group balance document s := s.insertUser user ⟨group, balance, document⟩
  putToken who remain s := s.insertToken who.token ⟨who.user, remain, who.unlimited⟩

end TableStore

end Turnstile
