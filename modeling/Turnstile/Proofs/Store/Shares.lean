import Mathlib.Algebra.Order.BigOperators.Group.List
import Mathlib.Algebra.Order.Group.Int
import Turnstile.Proofs.Run
import Turnstile.Proofs.Store.Laws

/-!
# Books charged with shares

Several parties may each have been charged a share.  In which order does not matter: the wallet of
a user lacks the sum of the shares of the user's parties, the counter of a token that of the
parties that count against it.

* `Books.account_chargeAll`, `Books.remain_chargeAll` — what is missing;
* `Books.chargeAll_set` — changing one share charges its spender with the change.
-/

set_option autoImplicit false

namespace Turnstile.Books

/-- Two charges of one spender are one. -/
theorem charge_charge (who : Spender) (delta delta' : Int) (b : Books) :
    (b.charge who delta).charge who delta' = b.charge who (delta + delta') := by
  ext1
  · funext k
    simp only [account_charge]
    split
    · cases b.account k with
      | none => rfl
      | some a => simp [Int.sub_sub]
    · rfl
  · funext k
    simp only [remain_charge]
    split
    · cases b.remain k with
      | none => rfl
      | some n => simp [Int.sub_sub]
    · rfl

/-- Every share charged to its spender. -/
def chargeAll (shares : List (Spender × Int)) (b : Books) : Books :=
  shares.foldl (fun b share => b.charge share.1 share.2) b

/-- The shares that the wallet of a user bears. -/
def fromWallet (user : Int) (shares : List (Spender × Int)) : Int :=
  (shares.map fun share => if user = share.1.user then share.2 else 0).sum

/-- The shares that count against a token. -/
def fromToken (token : Int) (shares : List (Spender × Int)) : Int :=
  (shares.map fun share =>
    if share.1.unlimited = false ∧ token = share.1.token then share.2 else 0).sum

variable {b : Books} {shares : List (Spender × Int)}

theorem account_chargeAll (shares : List (Spender × Int)) (b : Books) (user : Int) :
    (b.chargeAll shares).account user =
      (b.account user).map fun a => (a.1 - fromWallet user shares, a.2) := by
  induction shares generalizing b with
  | nil => cases h : b.account user <;> simp [chargeAll, fromWallet, h]
  | cons share rest ih =>
    have hsum : fromWallet user (share :: rest) =
        (if user = share.1.user then share.2 else 0) + fromWallet user rest := rfl
    show ((b.charge share.1 share.2).chargeAll rest).account user = _
    rw [ih, account_charge, hsum]
    cases b.account user with
    | none => simp
    | some a => split <;> simp [Int.sub_sub]

theorem remain_chargeAll (shares : List (Spender × Int)) (b : Books) (token : Int) :
    (b.chargeAll shares).remain token =
      (b.remain token).map fun n => n - fromToken token shares := by
  induction shares generalizing b with
  | nil => cases h : b.remain token <;> simp [chargeAll, fromToken, h]
  | cons share rest ih =>
    have hsum : fromToken token (share :: rest) =
        (if share.1.unlimited = false ∧ token = share.1.token then share.2 else 0) +
          fromToken token rest := rfl
    show ((b.charge share.1 share.2).chargeAll rest).remain token = _
    rw [ih, remain_charge, hsum]
    cases b.remain token with
    | none => simp
    | some n => split <;> simp [Int.sub_sub]

variable {i : Nat} {who : Spender} {amount : Int}

theorem fromWallet_set (user amount' : Int) (h : shares[i]? = some (who, amount)) :
    fromWallet user (shares.set i (who, amount')) =
      fromWallet user shares + if user = who.user then amount' - amount else 0 := by
  unfold fromWallet
  rw [Run.sum_map_set _ (who, amount') h]
  split <;> simp

theorem fromToken_set (token amount' : Int) (h : shares[i]? = some (who, amount)) :
    fromToken token (shares.set i (who, amount')) = fromToken token shares +
      if who.unlimited = false ∧ token = who.token then amount' - amount else 0 := by
  unfold fromToken
  rw [Run.sum_map_set _ (who, amount') h]
  split <;> simp

theorem summand_nonneg (p : Spender → Prop) [DecidablePred p]
    (hnonneg : ∀ share ∈ shares, 0 ≤ share.2) :
    ∀ x ∈ shares.map fun share => if p share.1 then share.2 else 0, 0 ≤ x := by
  intro x hx
  obtain ⟨share, hshare, rfl⟩ := List.mem_map.mp hx
  split
  · exact hnonneg share hshare
  · exact Int.le_refl 0

theorem fromWallet_nonneg (user : Int) (hnonneg : ∀ share ∈ shares, 0 ≤ share.2) :
    0 ≤ fromWallet user shares :=
  List.sum_nonneg (summand_nonneg (fun who => user = who.user) hnonneg)

theorem fromToken_nonneg (token : Int) (hnonneg : ∀ share ∈ shares, 0 ≤ share.2) :
    0 ≤ fromToken token shares :=
  List.sum_nonneg (summand_nonneg (fun who => who.unlimited = false ∧ token = who.token) hnonneg)

/-- Where no share is negative, a wallet bears at least each share of its user, -/
theorem le_fromWallet (hnonneg : ∀ share ∈ shares, 0 ≤ share.2) (h : (who, amount) ∈ shares) :
    amount ≤ fromWallet who.user shares := by
  apply List.single_le_sum (summand_nonneg (fun other => who.user = other.user) hnonneg)
  exact List.mem_map.mpr ⟨(who, amount), h, if_pos rfl⟩

/-- and a token at least each share that counts against it. -/
theorem le_fromToken (hnonneg : ∀ share ∈ shares, 0 ≤ share.2) (h : (who, amount) ∈ shares)
    (hlimited : who.unlimited = false) : amount ≤ fromToken who.token shares := by
  apply List.single_le_sum
    (summand_nonneg (fun other => other.unlimited = false ∧ who.token = other.token) hnonneg)
  exact List.mem_map.mpr ⟨(who, amount), h, if_pos ⟨hlimited, rfl⟩⟩

/-- A user none of whose parties has a share lacks nothing. -/
theorem fromWallet_eq_zero {user : Int} (h : ∀ share ∈ shares, user = share.1.user → share.2 = 0) :
    fromWallet user shares = 0 := by
  apply List.sum_eq_zero
  intro x hx
  obtain ⟨share, hshare, rfl⟩ := List.mem_map.mp hx
  split
  · rename_i huser
    exact h share hshare huser
  · rfl

theorem fromToken_eq_zero {token : Int} (h : ∀ share ∈ shares, share.2 = 0) :
    fromToken token shares = 0 := by
  apply List.sum_eq_zero
  intro x hx
  obtain ⟨share, hshare, rfl⟩ := List.mem_map.mp hx
  simp [h share hshare]

/-- Changing a share charges its spender with the change. -/
theorem chargeAll_set (amount' : Int) (h : shares[i]? = some (who, amount)) :
    b.chargeAll (shares.set i (who, amount')) =
      (b.chargeAll shares).charge who (amount' - amount) := by
  ext1
  · funext k
    rw [account_charge, account_chargeAll, account_chargeAll, fromWallet_set k amount' h]
    cases b.account k with
    | none => simp
    | some a => split <;> simp [Int.sub_sub]
  · funext k
    rw [remain_charge, remain_chargeAll, remain_chargeAll, fromToken_set k amount' h]
    cases b.remain k with
    | none => simp
    | some n => split <;> simp [Int.sub_sub]

/-- Shares of nothing leave the books as they are. -/
theorem chargeAll_zero (h : ∀ share ∈ shares, share.2 = 0) : b.chargeAll shares = b := by
  induction shares with
  | nil => rfl
  | cons share rest ih =>
    show (b.charge share.1 share.2).chargeAll rest = b
    rw [h share List.mem_cons_self, charge_zero]
    exact ih fun share' hshare' => h share' (List.mem_cons_of_mem share hshare')

end Turnstile.Books
