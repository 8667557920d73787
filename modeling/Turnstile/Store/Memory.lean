import Turnstile.Word
import Turnstile.Store.Basic

/-!
# A store in memory

Users and tokens in two tables. A debit looks at the user first, then at the token, then at the
wallet, and writes when all three are in order. A token without a row has nothing left to spend,
and nothing is written for it.
-/

namespace Turnstile

/-- A user's row. -/
structure Account where
  group : String
  balance : Int
  document : String
  deriving DecidableEq, Repr

/-- The tables of a store in memory. -/
structure MemoryStore where
  users : Rows Account := []
  tokens : Rows Int := []

namespace MemoryStore

/-- Puts a user in, in place of one of the same number. -/
def insertUser (id : Int) (account : Account) (s : MemoryStore) : MemoryStore :=
  { s with users := s.users.put id account }

/-- Puts a token in, in place of one of the same number. -/
def insertToken (id remain : Int) (s : MemoryStore) : MemoryStore :=
  { s with tokens := s.tokens.put id remain }

/-- The balance of a user. -/
def balance (user : Int) (s : MemoryStore) : Except StoreError Int :=
  match s.users.find? user with
  | none => .error (.userNotFound user)
  | some a => .ok a.balance

/-- Checks user, token and wallet, then takes the amount off both counters. -/
def debit (who : Spender) (amount : Int) (s : MemoryStore) : Except StoreError MemoryStore :=
  match s.users.find? who.user with
  | none => .error (.userNotFound who.user)
  | some a =>
    let remain := (s.tokens.find? who.token).getD 0
    if !who.unlimited && remain < amount then
      .error (.insufficientToken who.token remain amount)
    else if a.balance < amount then
      .error (.insufficientWallet who.user a.balance amount)
    else .ok
      { users := s.users.modify who.user fun a => { a with balance := a.balance - amount }
        tokens := if who.unlimited then s.tokens else s.tokens.modify who.token (· - amount) }

/-- Charges both counters, each saturating at the ends of its range. -/
def charge (who : Spender) (delta : Int) (s : MemoryStore) : Except StoreError MemoryStore :=
  match s.users.find? who.user with
  | none => .error (.userNotFound who.user)
  | some _ => .ok
    { users := s.users.modify who.user fun a => { a with balance := Word.sub a.balance delta }
      tokens := if who.unlimited then s.tokens else s.tokens.modify who.token (Word.sub · delta) }

/-- Hands the document of a user to `f` and stores what it answers. -/
def update {α : Type} (user : Int) (f : String → Except LedgerError (Option String × α))
    (s : MemoryStore) : Except LedgerError (α × MemoryStore) :=
  match s.users.find? user with
  | none => .error (.store (.userNotFound user))
  | some a => match f a.document with
    | .error e => .error e
    | .ok (none, x) => .ok (x, s)
    | .ok (some text, x) =>
      .ok (x, { s with users := s.users.modify user fun a => { a with document := text } })

/-- The users of a group. -/
def members (group : String) (s : MemoryStore) : List Int :=
  s.users.numbers fun a => a.group == group

instance : UserStore MemoryStore where
  balance user s := (s.balance user, s)
  debit who amount s := match s.debit who amount with
    | .ok s' => (.ok (), s')
    | .error e => (.error e, s)
  charge who delta s := match s.charge who delta with
    | .ok s' => (.ok (), s')
    | .error e => (.error e, s)
  update user f s := match s.update user f with
    | .ok (x, s') => (.ok x, s')
    | .error e => (.error e, s)
  members group s := (.ok (s.members group), s)

instance : StoreAdmin MemoryStore where
  account? user s := (s.users.find? user).map fun a => (a.balance, a.document)
  remain? token s := s.tokens.find? token
  document user s := .ok ((s.users.find? user).map (·.document))
  putUser user group balance document s := s.insertUser user ⟨group, balance, document.getD ""⟩
  putToken who remain s := s.insertToken who.token remain

end MemoryStore

end Turnstile
