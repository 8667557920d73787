import Turnstile.Admission.Pipeline
import Turnstile.Moderation.Scripted
import Turnstile.Proofs.Store.Laws

/-!
# What an admission leaves alone

A request that is refused has cost nobody anything: the books are as before, and so is what the
context says of reservation and settlement, whichever of the gate, the dispatch and the quota
refused.  A request that is admitted may have changed the row of its user and the counter of its
token.  This holds of every store that keeps to its frames, so also of one whose calls fail.

* `Quota.reserve_refused`, `Quota.reserve_granted` — the quota logic alone;
* `Gateway.accept_frame` — the whole admission.
-/

set_option autoImplicit false

namespace Turnstile

open StoreAdmin (books)

/-- The same of reservation, selection and settlement. -/
structure Context.SameQuota (ctx ctx' : Context) : Prop where
  reserved : ctx'.reserved = ctx.reserved
  selection : ctx'.selection = ctx.selection
  settled : ctx'.settled = ctx.settled

theorem Context.SameQuota.refl (ctx : Context) : ctx.SameQuota ctx := ⟨rfl, rfl, rfl⟩

theorem Context.SameQuota.trans {ctx ctx' ctx'' : Context} (h : ctx.SameQuota ctx')
    (h' : ctx'.SameQuota ctx'') : ctx.SameQuota ctx'' :=
  ⟨h'.reserved.trans h.reserved, h'.selection.trans h.selection, h'.settled.trans h.settled⟩

/-! ## The quota -/

namespace Quota

variable {σ : Type} [UserStore σ] [StoreAdmin σ] [FramedStore σ] {config : QuotaConfig}
  {ctx ctx' : Context} {s s' : State σ} {refusal : Refusal}

theorem carryOut_refused {p : Plan} (h : carryOut p ctx s = (.error refusal, ctx', s')) :
    books s'.store = books s.store ∧ ctx.SameQuota ctx' := by
  unfold carryOut at h
  split at h
  · cases h
  · dsimp only at h
    split at h
    · cases h
    · split at h
      · cases h
      · rename_i hd
        cases h
        exact ⟨FramedStore.debit_error hd, rfl, rfl, rfl⟩
      · rename_i hd
        cases h
        exact ⟨FramedStore.debit_error hd, rfl, rfl, rfl⟩

theorem carryOut_granted {p : Plan} (h : carryOut p ctx s = (.ok (), ctx', s')) :
    (books s.store).SameBeyond ctx.user ctx.token (books s'.store) := by
  unfold carryOut at h
  split at h
  · cases h
    exact .refl ctx.user ctx.token (books s.store)
  · dsimp only at h
    split at h
    · cases h
      exact .refl ctx.user ctx.token (books s.store)
    · split at h
      · rename_i hd
        cases h
        exact FramedStore.debit_ok hd
      · cases h
      · cases h

theorem reserveFromWallet_refused {amount : Int}
    (h : reserveFromWallet config amount ctx s = (.error refusal, ctx', s')) :
    books s'.store = books s.store ∧ ctx.SameQuota ctx' := by
  unfold reserveFromWallet at h
  split at h
  · rename_i hbalance
    cases h
    exact ⟨FramedStore.balance_same hbalance, .refl ctx⟩
  · rename_i hbalance
    have hlook := FramedStore.balance_same hbalance
    dsimp only at h
    split at h
    · cases h
      exact ⟨hlook, .refl ctx⟩
    · obtain ⟨hbooks, hctx⟩ := carryOut_refused h
      exact ⟨hbooks.trans hlook, hctx⟩

theorem reserveFromWallet_granted {amount : Int}
    (h : reserveFromWallet config amount ctx s = (.ok (), ctx', s')) :
    (books s.store).SameBeyond ctx.user ctx.token (books s'.store) := by
  unfold reserveFromWallet at h
  split at h
  · cases h
  · rename_i hbalance
    dsimp only at h
    split at h
    · cases h
    · rw [← FramedStore.balance_same hbalance]
      exact carryOut_granted h

theorem subscriptionReserve_error {user now amount : Int} {st st' : σ} {e : LedgerError}
    (h : Subscription.reserve user now amount st = (.error e, st')) : books st' = books st := by
  unfold Subscription.reserve at h
  split at h
  · cases h
    rfl
  · split at h
    · cases h
      rfl
    · exact FramedStore.update_error h

theorem subscriptionReserve_ok {user now amount : Int} {st st' : σ}
    {selection : Subscription.Selection} (token : Int)
    (h : Subscription.reserve user now amount st = (.ok selection, st')) :
    (books st).SameBeyond user token (books st') := by
  unfold Subscription.reserve at h
  split at h
  · cases h
  · split at h
    · cases h
    · exact FramedStore.update_ok h

/-- A refused reservation changes nothing, -/
theorem reserve_refused {now estimate : Int}
    (h : reserve config now estimate ctx s = (.error refusal, ctx', s')) :
    books s'.store = books s.store ∧ ctx.SameQuota ctx' := by
  unfold reserve at h
  dsimp only at h
  split at h
  · unfold reserveFromSubscription at h
    split at h
    · cases h
    · rename_i hr
      cases h
      exact ⟨subscriptionReserve_error hr, .refl ctx⟩
    · rename_i hr
      cases h
      exact ⟨subscriptionReserve_error hr, .refl ctx⟩
  · exact reserveFromWallet_refused h

/-- and one that is granted only the row of the user and the counter of the token. -/
theorem reserve_granted {now estimate : Int}
    (h : reserve config now estimate ctx s = (.ok (), ctx', s')) :
    (books s.store).SameBeyond ctx.user ctx.token (books s'.store) := by
  unfold reserve at h
  dsimp only at h
  split at h
  · unfold reserveFromSubscription at h
    split at h
    · rename_i hr
      cases h
      exact subscriptionReserve_ok ctx.token hr
    · cases h
    · cases h
  · exact reserveFromWallet_granted h

end Quota

/-! ## Gate and dispatch -/

namespace Gateway

variable {σ κ π : Type} {g : Gateway κ π} {t : Moment} {request : RelayRequest}
  {counted : Option String} {inbound : Inbound} {s s' : GatewayState σ κ π} {jobs : List Job}

/-- The gate has no part in the store, and leaves nothing to the background but deliveries. -/
theorem enforce_frame {mode : RelayMode} {format : RelayFormat} {r : Except Refusal Unit}
    (h : g.enforce t mode format request counted inbound s = (r, jobs, s')) :
    s'.quota.store = s.quota.store ∧ ∀ job ∈ jobs, ∃ url report, job = .deliver url report := by
  unfold enforce at h
  dsimp only at h
  split at h
  all_goals
    cases h
    refine ⟨rfl, fun job hjob => ?_⟩
    split at hjob
    · rw [List.mem_singleton.mp hjob]
      exact ⟨_, _, rfl⟩
    · cases hjob

theorem dispatch_frame {group model : String} {retry : Nat} {ctx ctx' : Context}
    {d d' : Dispatch.State κ} {r : Except DispatchError Selected}
    (h : g.dispatch t group model retry ctx d = (r, ctx', d')) :
    ctx.SameQuota ctx' ∧ ctx'.user = ctx.user ∧ ctx'.token = ctx.token := by
  unfold dispatch at h
  split at h
  · cases h
    exact ⟨.refl ctx, rfl, rfl⟩
  · dsimp only at h
    cases h
    split
    · exact ⟨⟨rfl, rfl, rfl⟩, rfl, rfl⟩
    · exact ⟨.refl ctx, rfl, rfl⟩

theorem route_frame {retry : Nat} {ctx ctx' : Context} {r : Except Refusal Admission}
    (h : g.route t request retry ctx s = (r, ctx', s')) :
    s'.quota.store = s.quota.store ∧ ctx.SameQuota ctx' ∧ ctx'.user = ctx.user ∧
      ctx'.token = ctx.token := by
  unfold route at h
  dsimp only at h
  split at h
  · rename_i hd
    split at h
    · cases h
      exact ⟨rfl, dispatch_frame hd⟩
    · cases h
      exact ⟨rfl, dispatch_frame hd⟩
  · rename_i hd
    cases h
    exact ⟨rfl, dispatch_frame hd⟩
  · rename_i hd
    cases h
    exact ⟨rfl, dispatch_frame hd⟩

variable [UserStore σ] [StoreAdmin σ] [FramedStore σ]

/-- An admission that fails leaves every balance, document and token counter as it was, and so
what the context says of reservation and settlement; one that succeeds changes no row but that of
its user and no counter but that of its token.  What it leaves to the background touches none of
them. -/
theorem accept_frame (g : Gateway κ π) (t : Moment) (request : RelayRequest)
    (counted : Option String) (inbound : Inbound) (estimate : Int) (retry : Nat) (ctx : Context)
    (s : GatewayState σ κ π) :
    match g.accept t request counted inbound estimate retry ctx s with
    | (.error _, jobs, ctx', s') =>
      books s'.quota.store = books s.quota.store ∧ ctx.SameQuota ctx' ∧
        ∀ job ∈ jobs, ∃ url report, job = .deliver url report
    | (.ok _, jobs, _, s') =>
      (books s.quota.store).SameBeyond ctx.user ctx.token (books s'.quota.store) ∧
        ∀ job ∈ jobs, ∃ url report, job = .deliver url report := by
  unfold accept
  cases henforce : g.enforce t ctx.mode ctx.format request counted inbound s with
  | mk verdict rest =>
    obtain ⟨jobs, s₁⟩ := rest
    obtain ⟨hstore₁, hjobs⟩ := enforce_frame henforce
    cases verdict with
    | error refusal => exact ⟨congrArg books hstore₁, .refl ctx, hjobs⟩
    | ok u =>
      dsimp only
      cases hroute : g.route t request retry ctx s₁ with
      | mk routed rest =>
        obtain ⟨ctx₂, s₂⟩ := rest
        obtain ⟨hstore₂, hctx₂, huser, htoken⟩ := route_frame hroute
        have hbooks : books s₂.quota.store = books s.quota.store :=
          congrArg books (hstore₂.trans hstore₁)
        cases routed with
        | error refusal => exact ⟨hbooks, hctx₂, hjobs⟩
        | ok admission =>
          dsimp only
          cases hreserve : Quota.reserve g.config.quota t.seconds estimate ctx₂ s₂.quota with
          | mk reserved rest =>
            obtain ⟨ctx₃, quota⟩ := rest
            cases reserved with
            | error refusal =>
              obtain ⟨hsame, hctx₃⟩ := Quota.reserve_refused hreserve
              exact ⟨hsame.trans hbooks, hctx₂.trans hctx₃, hjobs⟩
            | ok u =>
              have hbeyond := Quota.reserve_granted hreserve
              rw [huser, htoken, hbooks] at hbeyond
              exact ⟨hbeyond, hjobs⟩

/-- A gateway that has its channels from a script and does not moderate user 7. -/
def plain : Gateway (List Proposal) Moderation.Scripts where
  config := {}
  gate := ⟨[7], "", Moderation.Scripts.primaryProvider "eden",
    Moderation.Scripts.fallbackProvider "openai"⟩
  satisfier := Dispatch.fromScript
  redactor := ⟨"", [], [], [], []⟩

/-- One channel to propose, a wallet of 100 and a token of 80. -/
def plainState : GatewayState TableStore (List Proposal) Moderation.Scripts where
  quota := ⟨⟨[(7, ⟨"default", 100, none⟩)], [(3, ⟨7, 80, false⟩)]⟩, {}⟩
  dispatch := ⟨[.channel ⟨1, "a", "default", ["m"], "k"⟩], []⟩
  moderation := ⟨{}, {}, { name := "eden" }, { name := "openai" }, {}⟩

/-- User 7 asks for what is estimated at 90. -/
def plainAccept : Except Refusal Admission × List Job × Context ×
    GatewayState TableStore (List Proposal) Moderation.Scripts :=
  plain.accept ⟨0, 0⟩ (.chat ⟨"m", [], none, []⟩) none { user := 7 } 90 0
    { user := 7, token := 3, usingGroup := "default" } plainState

theorem accept_frame_short_token :
    (∃ reason, plainAccept.1 = .error (.tokenQuota reason)) ∧
      (books plainAccept.2.2.2.quota.store).account 7 = some (100, "") ∧
      (books plainAccept.2.2.2.quota.store).remain 3 = some 80 := by
  obtain ⟨h, -⟩ : _ ∧ _ := accept_frame plain ⟨0, 0⟩ (.chat ⟨"m", [], none, []⟩) none
    { user := 7 } 90 0 { user := 7, token := 3, usingGroup := "default" } plainState
  exact ⟨⟨_, rfl⟩, congrArg (fun b => b.account 7) h, congrArg (fun b => b.remain 3) h⟩

end Gateway

end Turnstile
