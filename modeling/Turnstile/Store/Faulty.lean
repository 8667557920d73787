import Turnstile.Store.Basic

/-!
# A store that fails on demand

`FaultyStore` passes every call on to a store, unless a fault has been set for calls of that kind:
then the call fails with it, the store is not asked, and the fault is used up. With it the paths
that a sound store never takes can be walked.
-/

namespace Turnstile

/-- The kinds of calls of a store. -/
inductive StoreCall where
  | balance
  | debit
  | charge
  | update
  | members
  deriving DecidableEq, Repr

/-- A store and the faults set for it. -/
structure FaultyStore (σ : Type) where
  store : σ
  faults : List (StoreCall × StoreError) := []

namespace FaultyStore

variable {σ : Type}

/-- Sets the fault of the next call of a kind, in place of one that was set before. -/
def setFault (call : StoreCall) (e : StoreError) (s : FaultyStore σ) : FaultyStore σ :=
  { s with faults := (call, e) :: s.faults.filter fun f => f.1 ≠ call }

/-- The fault of a call, and the store without it. -/
def takeFault? (call : StoreCall) (s : FaultyStore σ) : Option (StoreError × FaultyStore σ) :=
  match s.faults.find? fun f => f.1 = call with
  | none => none
  | some (_, e) => some (e, { s with faults := s.faults.filter fun f => f.1 ≠ call })

/-- Passes a call on, unless a fault is set for it. -/
def passOn {ε α : Type} (call : StoreCall) (fault : StoreError → ε)
    (ask : σ → Except ε α × σ) (s : FaultyStore σ) : Except ε α × FaultyStore σ :=
  match s.takeFault? call with
  | some (e, s') => (.error (fault e), s')
  | none => match ask s.store with
    | (r, store) => (r, { s with store := store })

instance [UserStore σ] : UserStore (FaultyStore σ) where
  balance user := passOn .balance id (UserStore.balance user)
  debit who amount := passOn .debit id (UserStore.debit who amount)
  charge who delta := passOn .charge id (UserStore.charge who delta)
  update user f := passOn .update .store (UserStore.update user f)
  members group := passOn .members id (UserStore.members group)

instance [StoreAdmin σ] : StoreAdmin (FaultyStore σ) where
  account? user s := StoreAdmin.account? user s.store
  remain? token s := StoreAdmin.remain? token s.store
  document user s := StoreAdmin.document user s.store
  putUser user group balance document s :=
    { s with store := StoreAdmin.putUser user group balance document s.store }
  putToken who remain s := { s with store := StoreAdmin.putToken who remain s.store }

end FaultyStore

end Turnstile
