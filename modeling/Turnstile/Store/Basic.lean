import Turnstile.Rows
import Turnstile.Decimal.Integer
import Turnstile.Json.Decode

/-!
# User stores

A store keeps for each user a wallet balance, a group and the text of the entitlement document,
and for each access token what may still be spent with it. `UserStore` is what the quota logic asks
of a store; every operation answers with a result and the store after it, so that a store may fail
and change of its own accord.

A user's document is changed in one step: the store hands the stored text to a function, which
answers with the text to store, if any, and a result, or with an error, after which the store is
as before.
-/

namespace Turnstile

/-- Why a store refused. -/
inductive StoreError where
  | userNotFound (user : Int)
  | insufficientToken (token remain required : Int)
  | insufficientWallet (user balance required : Int)
  deriving DecidableEq, Repr

/-- What is said of a refusal. -/
def StoreError.message : StoreError → String
  | .userNotFound user => "user " ++ Decimal.int user ++ " not found"
  | .insufficientToken token remain required =>
    "token " ++ Decimal.int token ++ " quota insufficient: remain=" ++ Decimal.int remain ++
      " required=" ++ Decimal.int required
  | .insufficientWallet user balance required =>
    "user " ++ Decimal.int user ++ " quota insufficient: balance=" ++ Decimal.int balance ++
      " required=" ++ Decimal.int required

/-- Why the ledger of entitlements refused. -/
inductive LedgerError where
  | exhausted
  | itemNotFound
  | invalidToken (text : String)
  | invalidArgument (reason : String)
  | decode (cause : Json.DecodeError)
  | store (cause : StoreError)

/-- What is said of a refusal. -/
def LedgerError.message : LedgerError → String
  | .exhausted => "subscription quota exhausted"
  | .itemNotFound => "subscription item not found for selection token"
  | .invalidToken text => "invalid selection token: " ++ text
  | .invalidArgument reason => "invalid ledger argument: " ++ reason
  | .decode cause => "invalid subscription data: " ++ cause.message
  | .store cause => cause.message

/-- The token with which a request is made, and whether anything counts against it. -/
structure Spender where
  user : Int
  token : Int
  unlimited : Bool
  deriving DecidableEq, Repr

/-- What the quota logic asks of a store. -/
class UserStore (σ : Type) where
  /-- The wallet balance of a user. -/
  balance (user : Int) (s : σ) : Except StoreError Int × σ
  /-- Takes an amount off the token, if it is limited, and off the wallet; both or neither. -/
  debit (who : Spender) (amount : Int) (s : σ) : Except StoreError Unit × σ
  /-- Charges token and wallet without looking at what is left; a negative amount gives back. -/
  charge (who : Spender) (delta : Int) (s : σ) : Except StoreError Unit × σ
  /-- Changes the document of a user in one step. -/
  update {α : Type} (user : Int) (f : String → Except LedgerError (Option String × α)) (s : σ) :
    Except LedgerError α × σ
  /-- The users of a group, in ascending order. -/
  members (group : String) (s : σ) : Except StoreError (List Int) × σ

/-- What may be seen of a store from outside, and how rows get into it. -/
class StoreAdmin (σ : Type) where
  /-- Balance and document text of a user. -/
  account? (user : Int) (s : σ) : Option (Int × String)
  /-- What may still be spent with a token. -/
  remain? (token : Int) (s : σ) : Option Int
  /-- The document text of a user, as the store gives it when asked. -/
  document (user : Int) (s : σ) : Except StoreError (Option String)
  /-- Puts a user in, in place of one of the same number. -/
  putUser (user : Int) (group : String) (balance : Int) (document : Option String) (s : σ) : σ
  /-- Puts a token in, in place of one of the same number. -/
  putToken (who : Spender) (remain : Int) (s : σ) : σ

end Turnstile
