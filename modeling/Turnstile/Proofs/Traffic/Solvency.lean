import Turnstile.Proofs.Admission.Charges
import Turnstile.Proofs.Store.Shares

/-!
# Reservations that race for a wallet

Any number of contexts reserve from the wallets of one store, each as often as it likes.  The look
at the wallet and the debit are two steps, so the balance that led to a plan may be gone by the
time the plan is carried out; that the debit is conditional on both counters is all that protects
them.  A reservation is given back in the background whenever its turn comes, and a settlement
charges at most what is reserved.

What a context has been granted and not been given back is its share.  The books are at every
point the first ones with each share charged to its spender (`Race.Solvent.books`), no share is
negative, and the shares that a wallet or a token bears never exceed what it held at first.

* `Lane.debit_look` — without others in between, the two steps are `Quota.reserve`;
* `Lane.act_kept` — one step of one context;
* `Race.run_solvent` — no race drives a counter below zero.
-/

set_option autoImplicit false

namespace Turnstile

open StoreAdmin (books)

/-- A context, and what has been done with it. -/
structure Lane where
  ctx : Context
  /-- What the look at the wallet led to, until it is carried out. -/
  plan? : Option Quota.Plan := none
  /-- Refunds that wait in the background. -/
  waiting : List Job := []
  /-- All that was ever reserved. -/
  granted : Int := 0
  /-- All that was ever given back. -/
  returned : Int := 0

/-- The steps that are taken with a context. -/
inductive Turn where
  /-- Looks at the wallet. -/
  | look (estimate : Int)
  /-- Carries out what the look led to. -/
  | debit
  /-- Leaves the reservation to be given back in the background. -/
  | release
  | settle (outcome : Outcome)
  /-- Does the `k`th piece of the work in the background. -/
  | work (k : Nat)

namespace Lane

/-- What was granted and not given back. -/
def share (l : Lane) : Int := l.granted - l.returned

/-- What waits to be given back. -/
def refunds (l : Lane) : Int := (l.waiting.map Job.refund).sum

/-- What a settlement gives back at once. -/
def rebate (l : Lane) : Outcome → Int
  | .failed => 0
  | .succeeded cost => if l.ctx.settled then 0 else l.ctx.reserved - cost

/-- No settlement costs less than nothing or more than what is reserved. -/
def Modest (l : Lane) : Turn → Prop
  | .settle (.succeeded cost) => l.ctx.settled = false → 0 ≤ cost ∧ cost ≤ l.ctx.reserved
  | _ => True

variable {σ : Type} [UserStore σ]

/-- Looks at the wallet. -/
def look (config : QuotaConfig) (estimate : Int) (l : Lane) (s : Quota.State σ) :
    Lane × Quota.State σ :=
  match l.plan? with
  | some _ => (l, s)
  | none => match UserStore.balance l.ctx.user s.store with
    | (.error _, store) => (l, { s with store := store })
    | (.ok balance, store) =>
      let s := { s with store := store }
      match Quota.plan config l.ctx (max estimate 0) balance with
      | .error _ => (l, s.record .quotaRejected)
      | .ok p => ({ l with plan? := some p }, s)

/-- Carries out what the look led to. -/
def debit (l : Lane) (s : Quota.State σ) : Lane × Quota.State σ :=
  match l.plan? with
  | none => (l, s)
  | some p => match Quota.carryOut p l.ctx s with
    | (.ok (), ctx, s) => ({ l with ctx := ctx, plan? := none, granted := l.granted + p.amount }, s)
    | (.error _, ctx, s) => ({ l with ctx := ctx, plan? := none }, s)

/-- Leaves the reservation to be given back. -/
def release (config : QuotaConfig) (l : Lane) (s : Quota.State σ) : Lane × Quota.State σ :=
  match l.plan? with
  | some _ => (l, s)
  | none => match Quota.release config l.ctx s.counters with
    | (job, ctx, counters) =>
      ({ l with ctx := ctx, waiting := l.waiting ++ job.toList }, { s with counters := counters })

/-- A settlement. -/
def settle (config : QuotaConfig) (outcome : Outcome) (l : Lane) (s : Quota.State σ) :
    Lane × Quota.State σ :=
  match l.plan? with
  | some _ => (l, s)
  | none => match Gateway.settle config outcome l.ctx s with
    | (.ok job, ctx, s) =>
      ({ l with
          ctx := ctx, waiting := l.waiting ++ job.toList
          returned := l.returned + l.rebate outcome }, s)
    | (.error _, ctx, s) => ({ l with ctx := ctx }, s)

/-- A piece of the work in the background. -/
def work (k : Nat) (l : Lane) (s : Quota.State σ) : Lane × Quota.State σ :=
  match l.waiting[k]? with
  | none => (l, s)
  | some job =>
    ({ l with waiting := l.waiting.eraseIdx k, returned := l.returned + job.refund },
      (Gateway.runJob Http.unreachable job s ()).1)

/-- One step, with what it does to the store.  As long as a plan is under way the context is
neither used to look again nor released or settled. -/
def act (config : QuotaConfig) (l : Lane) (s : Quota.State σ) : Turn → Lane × Quota.State σ
  | .look estimate => l.look config estimate s
  | .debit => l.debit s
  | .release => l.release config s
  | .settle outcome => l.settle config outcome s
  | .work k => l.work k s

/-- Looking at the wallet and carrying out the plan at once is reserving. -/
theorem debit_look (config : QuotaConfig) (now estimate : Int) (l : Lane) (s : Quota.State σ)
    (hwallet : Quota.usesSubscription config l.ctx = false) (hidle : l.plan? = none) :
    let reserved := Quota.reserve config now estimate l.ctx s
    let looked := l.look config estimate s
    let done := looked.1.debit looked.2
    done.1.ctx = reserved.2.1 ∧ done.2 = reserved.2.2 ∧ done.1.plan? = none ∧
      done.1.granted = l.granted + match reserved.1 with
        | .ok () => reserved.2.1.reserved
        | .error _ => 0 := by
  intro reserved looked done
  simp only [reserved, looked, done, Quota.reserve, Quota.reserveFromWallet, hwallet, look, hidle,
    Bool.false_eq_true, if_false]
  cases hb : UserStore.balance l.ctx.user s.store with
  | mk r store =>
    cases r with
    | error e => simp [debit, hidle]
    | ok balance =>
      dsimp only
      cases hp : Quota.plan config l.ctx (max estimate 0) balance with
      | error refusal => simp [debit, hidle]
      | ok p =>
        dsimp only [debit]
        cases hc : Quota.carryOut p l.ctx { s with store := store } with
        | mk r rest =>
          cases r with
          | error e => simp
          | ok u => simp [Quota.reserved_carryOut hc]

end Lane

/-! ## What a debit needs and what a refund needs -/

namespace Books

/-- Every counter is a signed 64-bit word, and none is negative. -/
structure Funded (b : Books) : Prop where
  wallet : ∀ user a, b.account user = some a → 0 ≤ a.1 ∧ a.1 ≤ Word.greatest
  token : ∀ token n, b.remain token = some n → 0 ≤ n ∧ n ≤ Word.greatest

/-- No counter is negative, and giving back up to `amount` stays within signed 64-bit words. -/
structure Room (who : Spender) (amount : Int) (b : Books) : Prop where
  wallet : ∀ a, b.account who.user = some a → 0 ≤ a.1 ∧ a.1 + amount ≤ Word.greatest
  token : who.unlimited = false → ∀ n, b.remain who.token = some n →
    0 ≤ n ∧ n + amount ≤ Word.greatest

variable {b : Books} {who : Spender} {amount : Int} {a : Int × String}

/-- A refund for which there is room fits. -/
theorem Room.fits (h : b.Room who amount) (ha : b.account who.user = some a) {back : Int}
    (hnonneg : 0 ≤ back) (hle : back ≤ amount) : b.Fits who (-back) := by
  have hwallet := h.wallet a ha
  constructor
  · unfold Word.InRange Word.least
    unfold Word.greatest at hwallet ⊢
    omega
  · intro a' ha'
    have := h.wallet a' ha'
    unfold Word.InRange Word.least
    omega
  · intro hlimited n hn
    have := h.token hlimited n hn
    unfold Word.InRange Word.least
    omega

end Books

namespace Lane

/-! ## One step of one context -/

/-- What is always true of a context that is paid for from a wallet. -/
structure Sound (config : QuotaConfig) (l : Lane) : Prop where
  wallet : Quota.usesSubscription config l.ctx = false
  reserved : 0 ≤ l.ctx.reserved
  planned : ∀ p, l.plan? = some p → 0 ≤ p.amount
  waiting : ∀ job ∈ l.waiting, ∃ amount, 0 ≤ amount ∧ job = .refundWallet l.ctx.spender amount
  /-- What is reserved or waits to be given back was granted and has not been given back. -/
  covered : l.ctx.reserved + l.refunds ≤ l.share

/-- Nothing was granted, and nothing is under way. -/
structure Idle (l : Lane) : Prop where
  plan? : l.plan? = none
  reserved : l.ctx.reserved = 0
  waiting : l.waiting = []
  share : l.share = 0

/-- A step charges the spender with the change of the share, and takes only what is there. -/
structure Kept (config : QuotaConfig) (l l' : Lane) (b b' : Books) : Prop where
  sound : l'.Sound config
  bare : l'.ctx.bare = l.ctx.bare
  books : b' = b.charge l.ctx.spender (l'.share - l.share)
  afforded : l.share < l'.share → b.Affords l.ctx.spender (l'.share - l.share)

theorem Sound.refund_nonneg {config : QuotaConfig} {l : Lane} (h : l.Sound config) :
    ∀ x ∈ l.waiting.map Job.refund, 0 ≤ x := by
  intro x hx
  obtain ⟨job, hjob, rfl⟩ := List.mem_map.mp hx
  obtain ⟨amount, hamount, rfl⟩ := h.waiting job hjob
  exact hamount

theorem Sound.refunds_nonneg {config : QuotaConfig} {l : Lane} (h : l.Sound config) :
    0 ≤ l.refunds := List.sum_nonneg h.refund_nonneg

theorem Sound.share_nonneg {config : QuotaConfig} {l : Lane} (h : l.Sound config) :
    0 ≤ l.share := by
  have hrefunds := h.refunds_nonneg
  have hreserved := h.reserved
  have hcovered := h.covered
  omega

/-- A step that changes neither the books nor the share. -/
theorem Kept.of_same {config : QuotaConfig} {l l' : Lane} {b b' : Books} (h : l'.Sound config)
    (hbare : l'.ctx.bare = l.ctx.bare) (hshare : l'.share = l.share) (hb : b' = b) :
    Kept config l l' b b' := by
  refine ⟨h, hbare, ?_, fun hlt => absurd hlt (by omega)⟩
  rw [hshare, Int.sub_self, Books.charge_zero, hb]

/-! Only the context and what waits may change with a step; its spender stays. -/

section Steps

variable {σ : Type} [UserStore σ] [StoreAdmin σ] [LawfulStore σ] {config : QuotaConfig}
  {l : Lane} {s : Quota.State σ} {a : Int × String}

theorem look_kept (h : l.Sound config) (ha : (books s.store).account l.ctx.user = some a)
    (estimate : Int) :
    Kept config l (l.look config estimate s).1 (books s.store)
      (books (l.look config estimate s).2.store) := by
  unfold look
  split
  · exact .of_same h rfl rfl rfl
  · simp only [LawfulStore.balance_eq, ha]
    split
    · exact .of_same h rfl rfl rfl
    · rename_i p hp
      refine .of_same ⟨h.wallet, h.reserved, ?_, h.waiting, h.covered⟩ rfl rfl rfl
      intro q hq
      cases hq
      exact Quota.amount_nonneg_of_plan (Int.le_max_right estimate 0) hp

theorem debit_kept (h : l.Sound config) (ha : (books s.store).account l.ctx.user = some a) :
    Kept config l (l.debit s).1 (books s.store) (books (l.debit s).2.store) := by
  unfold debit
  split
  · exact .of_same h rfl rfl rfl
  · rename_i p hplan
    have hamount := h.planned p hplan
    rcases Quota.carryOut_cases ha hamount with
      ⟨ctx', s', hok, hbare, -, hreserved, hafford, hb⟩ |
      ⟨refusal, ctx', s', herror, hbare, -, hkept, hb⟩
    · have hspender := Context.spender_of_bare hbare
      have hwallet := (Quota.usesSubscription_of_bare config hbare).trans h.wallet
      have hshare : l.granted + p.amount - l.returned - l.share = p.amount := by
        unfold share
        omega
      rw [hok]
      refine ⟨⟨hwallet, ?_, nofun, ?_, ?_⟩, hbare, ?_, ?_⟩
      · rw [hreserved]
        exact hamount
      · rw [hspender]
        exact h.waiting
      · have hrefunds := h.reserved
        have hcovered := h.covered
        unfold share refunds at *
        dsimp only
        omega
      · show _ = (books s.store).charge l.ctx.spender (l.granted + p.amount - l.returned - l.share)
        rw [hshare]
        exact hb
      · intro hlt
        show (books s.store).Affords l.ctx.spender (l.granted + p.amount - l.returned - l.share)
        rw [hshare]
        apply hafford
        unfold share at hlt
        dsimp only at hlt
        omega
    · have hspender := Context.spender_of_bare hbare
      have hwallet := (Quota.usesSubscription_of_bare config hbare).trans h.wallet
      rw [herror]
      refine .of_same ⟨hwallet, ?_, nofun, ?_, ?_⟩ hbare rfl hb
      · rw [hkept]
        exact h.reserved
      · rw [hspender]
        exact h.waiting
      · rw [hkept]
        exact h.covered

omit [UserStore σ] [StoreAdmin σ] [LawfulStore σ] in
/-- What was reserved waits to be given back. -/
theorem Sound.setAside (h : l.Sound config) (ctx : Context) (hbare : ctx.bare = l.ctx.bare)
    (hreserved : ctx.reserved = 0) :
    Sound config
      { l with ctx := ctx, waiting := l.waiting ++ (Quota.setAside l.ctx).toList } := by
  have hspender := Context.spender_of_bare hbare
  have hcovered := h.covered
  refine ⟨(Quota.usesSubscription_of_bare config hbare).trans h.wallet, ?_, h.planned, ?_, ?_⟩
  · rw [hreserved]
  · intro job hjob
    rw [hspender]
    rcases List.mem_append.mp hjob with hold | hnew
    · exact h.waiting job hold
    · exact ⟨l.ctx.reserved, h.reserved, Quota.mem_setAside hnew⟩
  · have hrefunds := Quota.sum_setAside l.ctx
    unfold refunds share at *
    simp only [List.map_append, List.sum_append]
    omega

omit [UserStore σ] [LawfulStore σ] in
theorem release_kept (h : l.Sound config) :
    Kept config l (l.release config s).1 (books s.store)
      (books (l.release config s).2.store) := by
  unfold release
  split
  · exact .of_same h rfl rfl rfl
  · rw [Quota.release_wallet h.wallet]
    exact .of_same (h.setAside { l.ctx with reserved := 0 } rfl rfl) rfl rfl rfl

theorem settle_kept (h : l.Sound config) (ha : (books s.store).account l.ctx.user = some a)
    (hroom : (books s.store).Room l.ctx.spender l.share) (outcome : Outcome)
    (hmodest : l.Modest (.settle outcome)) :
    Kept config l (l.settle config outcome s).1 (books s.store)
      (books (l.settle config outcome s).2.store) := by
  unfold settle
  split
  · exact .of_same h rfl rfl rfl
  · cases hsettled : l.ctx.settled with
    | true =>
      rw [Gateway.settle_again config hsettled]
      refine .of_same ⟨h.wallet, h.reserved, h.planned, ?_, ?_⟩ rfl ?_ rfl
      · simpa using h.waiting
      · have hrebate : l.rebate outcome = 0 := by
          cases outcome <;> simp [rebate, hsettled]
        have hcovered := h.covered
        unfold share refunds at *
        simp only [Option.toList_none, List.append_nil]
        omega
      · cases outcome <;> simp [share, rebate, hsettled]
    | false =>
      cases outcome with
      | failed =>
        rw [Gateway.settle_failed h.wallet hsettled]
        have hsound := h.setAside { l.ctx with settled := true, reserved := 0 } rfl rfl
        refine .of_same ⟨hsound.wallet, hsound.reserved, hsound.planned, hsound.waiting, ?_⟩ rfl ?_ rfl
        · have hcovered := hsound.covered
          unfold share refunds rebate at *
          dsimp only at *
          omega
        · simp [share, rebate]
      | succeeded cost =>
        obtain ⟨hcost, hle⟩ := hmodest hsettled
        have hcovered := h.covered
        have hrefunds := h.refunds_nonneg
        have hdelta : cost - l.ctx.reserved = -(l.ctx.reserved - cost) := by omega
        have hfits : (books s.store).Fits l.ctx.spender (cost - l.ctx.reserved) := by
          rw [hdelta]
          exact hroom.fits ha (by omega) (by omega)
        obtain ⟨store, hc, hb⟩ := Gateway.settle_succeeded h.wallet hsettled ha hfits
        rw [hc]
        have hrebate : l.rebate (.succeeded cost) = l.ctx.reserved - cost := by
          simp [rebate, hsettled]
        have hshare : l.granted - (l.returned + l.rebate (.succeeded cost)) - l.share =
            cost - l.ctx.reserved := by
          unfold share
          omega
        refine ⟨⟨h.wallet, Int.le_refl 0, h.planned, ?_, ?_⟩, rfl, ?_, ?_⟩
        · intro job hjob
          simp only [Option.toList_none, List.append_nil] at hjob
          exact h.waiting job hjob
        · unfold share refunds at *
          simp only [Option.toList_none, List.append_nil]
          omega
        · show _ = (books s.store).charge l.ctx.spender
            (l.granted - (l.returned + l.rebate (.succeeded cost)) - l.share)
          rw [hshare]
          exact hb
        · intro hlt
          unfold share at hlt
          dsimp only at hlt
          omega

theorem work_kept (h : l.Sound config) (ha : (books s.store).account l.ctx.user = some a)
    (hroom : (books s.store).Room l.ctx.spender l.share) (k : Nat) :
    Kept config l (l.work k s).1 (books s.store) (books (l.work k s).2.store) := by
  unfold work
  cases hjob : l.waiting[k]? with
  | none => exact .of_same h rfl rfl rfl
  | some job =>
    have hmem := List.mem_of_getElem? hjob
    obtain ⟨amount, hamount, rfl⟩ := h.waiting job hmem
    have hcovered := h.covered
    have hreserved := h.reserved
    have hle : amount ≤ l.refunds :=
      List.single_le_sum h.refund_nonneg amount (List.mem_map_of_mem hmem)
    have hrest := Run.sum_map_eraseIdx Job.refund hjob
    have hshare : l.granted - (l.returned + amount) - l.share = -amount := by
      unfold share
      omega
    have ha' : (books s.store).account l.ctx.spender.user = some a := ha
    refine ⟨⟨h.wallet, hreserved, h.planned, ?_, ?_⟩, rfl, ?_, ?_⟩
    · intro job' hjob'
      exact h.waiting job' (List.mem_of_mem_eraseIdx hjob')
    · unfold share refunds at *
      dsimp only [Job.refund] at *
      omega
    · show books (Quota.refundWallet l.ctx.spender amount s).store =
        (books s.store).charge l.ctx.spender (l.granted - (l.returned + amount) - l.share)
      rw [hshare]
      exact Quota.books_refundWallet ha' (hroom.fits ha hamount (by omega))
    · intro hlt
      unfold share at hlt
      dsimp only [Job.refund] at hlt
      omega

/-- Every step charges the spender with the change of the share, and takes only what is there. -/
theorem act_kept (h : l.Sound config) (ha : (books s.store).account l.ctx.user = some a)
    (hroom : (books s.store).Room l.ctx.spender l.share) (turn : Turn) (hmodest : l.Modest turn) :
    Kept config l (l.act config s turn).1 (books s.store)
      (books (l.act config s turn).2.store) := by
  cases turn with
  | look estimate => exact look_kept h ha estimate
  | debit => exact debit_kept h ha
  | release => exact release_kept h
  | settle outcome => exact settle_kept h ha hroom outcome hmodest
  | work k => exact work_kept h ha hroom k

omit [StoreAdmin σ] [LawfulStore σ] in
/-- Where nothing is reserved and nothing was spent, a settlement does nothing to the store. -/
theorem settle_free (hwallet : Quota.usesSubscription config l.ctx = false)
    (hreserved : l.ctx.reserved = 0) (outcome : Outcome) (hmodest : l.Modest (.settle outcome)) :
    ∃ ctx, Gateway.settle config outcome l.ctx s = (.ok none, ctx, s) ∧
      ctx.bare = l.ctx.bare ∧ ctx.reserved = 0 := by
  cases hsettled : l.ctx.settled with
  | true => exact ⟨l.ctx, Gateway.settle_again config hsettled outcome s, rfl, hreserved⟩
  | false =>
    cases outcome with
    | failed =>
      have hfailed := Gateway.settle_failed (s := s) hwallet hsettled
      unfold Quota.setAside at hfailed
      rw [if_pos hreserved] at hfailed
      exact ⟨_, hfailed, rfl, rfl⟩
    | succeeded cost =>
      have hcost := hmodest hsettled
      have hdelta : cost - l.ctx.reserved = 0 := by omega
      refine ⟨{ l.ctx with settled := true, reserved := 0, selection := none }, ?_, rfl, rfl⟩
      simp [Gateway.settle, Quota.charge, hsettled, hdelta]

/-- Where the user is not known to the store, a context stays idle and the store as it is. -/
theorem act_idle (h : l.Sound config) (hidle : l.Idle)
    (hunknown : (books s.store).account l.ctx.user = none) (turn : Turn)
    (hmodest : l.Modest turn) :
    (l.act config s turn).1.Idle ∧
      Kept config l (l.act config s turn).1 (books s.store)
        (books (l.act config s turn).2.store) := by
  obtain ⟨hplan, hreserved, hwaiting, hshare⟩ := hidle
  cases turn with
  | look estimate =>
    simp only [act, look, hplan, LawfulStore.balance_eq, hunknown]
    exact ⟨⟨hplan, hreserved, hwaiting, hshare⟩, .of_same h rfl rfl rfl⟩
  | debit =>
    simp only [act, debit, hplan]
    exact ⟨⟨hplan, hreserved, hwaiting, hshare⟩, .of_same h rfl rfl rfl⟩
  | work k =>
    simp only [act, work, hwaiting, List.getElem?_nil]
    exact ⟨⟨hplan, hreserved, hwaiting, hshare⟩, .of_same h rfl rfl rfl⟩
  | release =>
    refine ⟨?_, release_kept h⟩
    simp only [act, release, hplan, Quota.release_wallet h.wallet, Quota.setAside, hreserved, if_true]
    exact ⟨rfl, rfl, by simp [hwaiting], hshare⟩
  | settle outcome =>
    obtain ⟨ctx, hsettle, hbare, hfree⟩ := settle_free (s := s) h.wallet hreserved outcome hmodest
    have hrebate : l.rebate outcome = 0 := by
      cases outcome with
      | failed => rfl
      | succeeded cost =>
        cases hsettled : l.ctx.settled with
        | true => simp [rebate, hsettled]
        | false =>
          have hcost := hmodest hsettled
          simp only [rebate, hsettled, Bool.false_eq_true, if_false]
          omega
    have hshare' : l.granted - (l.returned + l.rebate outcome) = l.share := by
      unfold share
      omega
    simp only [act, settle, hplan, hsettle, Option.toList_none, List.append_nil]
    refine ⟨⟨rfl, hfree, hwaiting, hshare'.trans hshare⟩, .of_same ⟨?_, ?_, nofun, ?_, ?_⟩ hbare
      hshare' rfl⟩
    · exact (Quota.usesSubscription_of_bare config hbare).trans h.wallet
    · rw [hfree]
    · rw [Context.spender_of_bare hbare]
      exact h.waiting
    · have hcovered := h.covered
      unfold share refunds at *
      dsimp only
      omega

end Steps

end Lane

/-! ## The race -/

/-- Contexts at work over one store. -/
structure Race (σ : Type) where
  quota : Quota.State σ
  lanes : List Lane

namespace Race

variable {σ : Type}

/-- The start: no context has been used. -/
def opened (quota : Quota.State σ) (ctxs : List Context) : Race σ :=
  ⟨quota, ctxs.map fun ctx => { ctx := ctx }⟩

/-- The spenders and what each has been granted and not been given back. -/
def shares (r : Race σ) : List (Spender × Int) := r.lanes.map fun l => (l.ctx.spender, l.share)

/-- What the contexts of a user have been granted and not been given back. -/
def outstanding (user : Int) (r : Race σ) : Int := Books.fromWallet user r.shares

/-- No settlement costs less than nothing or more than what is reserved. -/
def Modest (r : Race σ) (turn : Nat × Turn) : Prop :=
  ∀ l, r.lanes[turn.1]? = some l → l.Modest turn.2

/-- Gives a context its turn. -/
def step [UserStore σ] (config : QuotaConfig) (r : Race σ) (turn : Nat × Turn) : Race σ :=
  match Run.turn (Lane.act config) r.quota r.lanes turn with
  | (quota, lanes) => ⟨quota, lanes⟩

/-- Gives contexts their turns in the order of a list. -/
def run [UserStore σ] (config : QuotaConfig) (turns : List (Nat × Turn)) (r : Race σ) : Race σ :=
  turns.foldl (step config) r

variable [StoreAdmin σ]

/-- The books are the first ones with each share charged, and no wallet or token bears more than it
held. -/
structure Solvent (config : QuotaConfig) (b : Books) (r : Race σ) : Prop where
  sound : ∀ l ∈ r.lanes, l.Sound config
  known : ∀ l ∈ r.lanes, b.account l.ctx.user = none → l.Idle
  books : books r.quota.store = b.chargeAll r.shares
  wallet : ∀ user a, b.account user = some a → Books.fromWallet user r.shares ≤ a.1
  token : ∀ token n, b.remain token = some n → Books.fromToken token r.shares ≤ n

variable {config : QuotaConfig} {b : Books} {r : Race σ}

/-- Before the first step no context has a share. -/
theorem solvent_opened {ctxs : List Context} {quota : Quota.State σ}
    (hfresh : ∀ ctx ∈ ctxs, ctx.reserved = 0)
    (hwallet : ∀ ctx ∈ ctxs, Quota.usesSubscription config ctx = false)
    (hfunded : (books quota.store).Funded) :
    Solvent config (books quota.store) (opened quota ctxs) := by
  have hzero : ∀ share ∈ (opened quota ctxs).shares, share.2 = 0 := by
    intro share hshare
    obtain ⟨l, hl, rfl⟩ := List.mem_map.mp hshare
    obtain ⟨ctx, -, rfl⟩ := List.mem_map.mp hl
    rfl
  refine ⟨?_, ?_, ?_, ?_, ?_⟩
  · intro l hl
    obtain ⟨ctx, hctx, rfl⟩ := List.mem_map.mp hl
    have hreserved := hfresh ctx hctx
    refine ⟨hwallet ctx hctx, by simp [hreserved], nofun, nofun, ?_⟩
    simp [hreserved, Lane.refunds, Lane.share]
  · intro l hl _
    obtain ⟨ctx, hctx, rfl⟩ := List.mem_map.mp hl
    exact ⟨rfl, hfresh ctx hctx, rfl, rfl⟩
  · exact (Books.chargeAll_zero hzero).symm
  · intro user a ha
    rw [Books.fromWallet_eq_zero fun share hshare _ => hzero share hshare]
    exact (hfunded.wallet user a ha).1
  · intro token n hn
    rw [Books.fromToken_eq_zero hzero]
    exact (hfunded.token token n hn).1

theorem Solvent.share_nonneg (h : r.Solvent config b) : ∀ share ∈ r.shares, 0 ≤ share.2 := by
  intro share hshare
  obtain ⟨l, hl, rfl⟩ := List.mem_map.mp hshare
  exact (h.sound l hl).share_nonneg

/-- No counter is negative, and each has room for what its contexts may give back. -/
theorem Solvent.room (h : r.Solvent config b) (hfunded : b.Funded) {l : Lane} (hl : l ∈ r.lanes) :
    (StoreAdmin.books r.quota.store).Room l.ctx.spender l.share := by
  have hmem : (l.ctx.spender, l.share) ∈ r.shares := List.mem_map_of_mem hl
  rw [h.books]
  constructor
  · intro a ha
    rw [Books.account_chargeAll] at ha
    obtain ⟨a₀, ha₀, rfl⟩ := Option.map_eq_some_iff.mp ha
    have hbound := h.wallet _ a₀ ha₀
    have hshare := Books.le_fromWallet h.share_nonneg hmem
    have hword := (hfunded.wallet _ a₀ ha₀).2
    dsimp only
    omega
  · intro hlimited n hn
    rw [Books.remain_chargeAll] at hn
    obtain ⟨n₀, hn₀, rfl⟩ := Option.map_eq_some_iff.mp hn
    have hbound := h.token _ n₀ hn₀
    have hshare := Books.le_fromToken h.share_nonneg hmem hlimited
    have hword := (hfunded.token _ n₀ hn₀).2
    omega

/-- After a step that charges the spender with the change of the share and takes only what is
there, the race is still solvent. -/
theorem Solvent.set (h : r.Solvent config b) {i : Nat} {l l' : Lane} {quota : Quota.State σ}
    (hl : r.lanes[i]? = some l)
    (hkept : Lane.Kept config l l' (StoreAdmin.books r.quota.store) (StoreAdmin.books quota.store))
    (hidle : b.account l.ctx.user = none → l'.Idle) :
    Solvent config b ⟨quota, r.lanes.set i l'⟩ := by
  have hspender : l'.ctx.spender = l.ctx.spender := Context.spender_of_bare hkept.bare
  have hshares : shares ⟨quota, r.lanes.set i l'⟩ = r.shares.set i (l.ctx.spender, l'.share) := by
    unfold shares
    rw [List.map_set, hspender]
  have hi : r.shares[i]? = some (l.ctx.spender, l.share) := by
    unfold shares
    rw [List.getElem?_map, hl]
    rfl
  refine ⟨?_, ?_, ?_, ?_, ?_⟩
  · intro g hg
    rcases List.mem_or_eq_of_mem_set hg with hg | rfl
    · exact h.sound g hg
    · exact hkept.sound
  · intro g hg hnone
    rcases List.mem_or_eq_of_mem_set hg with hg | rfl
    · exact h.known g hg hnone
    · have huser : g.ctx.user = l.ctx.user := congrArg Spender.user hspender
      exact hidle (huser ▸ hnone)
  · rw [hshares, Books.chargeAll_set l'.share hi, ← h.books]
    exact hkept.books
  · intro user a ha
    have hold := h.wallet user a ha
    rw [hshares, Books.fromWallet_set user l'.share hi]
    split
    · rename_i huser
      by_cases hgrows : l.share < l'.share
      · have hafford := (hkept.afforded hgrows).wallet (a.1 - Books.fromWallet user r.shares, a.2)
          (by rw [h.books, Books.account_chargeAll, ← huser, ha]; rfl)
        dsimp only at hafford
        omega
      · omega
    · omega
  · intro token n hn
    have hold := h.token token n hn
    rw [hshares, Books.fromToken_set token l'.share hi]
    split
    · rename_i htoken
      by_cases hgrows : l.share < l'.share
      · have hafford := (hkept.afforded hgrows).token htoken.1 (n - Books.fromToken token r.shares)
          (by rw [h.books, Books.remain_chargeAll, ← htoken.2, hn]; rfl)
        omega
      · omega
    · omega

variable [UserStore σ] [LawfulStore σ]

/-- Every turn keeps a race solvent. -/
theorem Solvent.step (h : r.Solvent config b) (hfunded : b.Funded) {turn : Nat × Turn}
    (hmodest : r.Modest turn) : (r.step config turn).Solvent config b := by
  unfold Race.step
  rcases Run.turn_cases (Lane.act config) r.quota r.lanes turn with hnone | ⟨l, hl, hturn⟩
  · rw [hnone]
    exact h
  · rw [hturn]
    have hmem := List.mem_of_getElem? hl
    have hsound := h.sound l hmem
    cases hb : b.account l.ctx.user with
    | none =>
      have hunknown : (StoreAdmin.books r.quota.store).account l.ctx.user = none := by
        rw [h.books, Books.account_chargeAll, hb]
        rfl
      obtain ⟨hidle, hkept⟩ :=
        Lane.act_idle hsound (h.known l hmem hb) hunknown turn.2 (hmodest l hl)
      exact h.set hl hkept fun _ => hidle
    | some a₀ =>
      have ha : (StoreAdmin.books r.quota.store).account l.ctx.user =
          some (a₀.1 - Books.fromWallet l.ctx.user r.shares, a₀.2) := by
        rw [h.books, Books.account_chargeAll, hb]
        rfl
      refine h.set hl (Lane.act_kept hsound ha (h.room hfunded hmem) turn.2 (hmodest l hl)) ?_
      intro hnone
      rw [hb] at hnone
      cases hnone

/-- No race drives a counter below zero.  However the looks, debits, refunds and settlements of
any number of contexts interleave: a wallet holds at every point what it held at first less what
the contexts of its user were granted and not given back, which is never more than that, and no
balance and no token counter is negative. -/
theorem run_solvent {ctxs : List Context} {quota : Quota.State σ} {turns : List (Nat × Turn)}
    (hfresh : ∀ ctx ∈ ctxs, ctx.reserved = 0)
    (hwallet : ∀ ctx ∈ ctxs, Quota.usesSubscription config ctx = false)
    (hfunded : (books quota.store).Funded)
    (hmodest : Run.Along (step config) Modest turns (opened quota ctxs)) :
    let r := (opened quota ctxs).run config turns
    (books r.quota.store).Funded ∧
    (∀ user balance text, (books quota.store).account user = some (balance, text) →
      r.outstanding user ≤ balance ∧
        (books r.quota.store).account user = some (balance - r.outstanding user, text)) ∧
    ∀ user, (books quota.store).account user = none →
      r.outstanding user = 0 ∧ (books r.quota.store).account user = none := by
  intro r
  have hsolvent : r.Solvent config (books quota.store) :=
    Run.induction (fun _ _ h hx => h.step hfunded hx) turns _
      (solvent_opened hfresh hwallet hfunded) hmodest
  refine ⟨⟨?_, ?_⟩, ?_, ?_⟩
  · intro user a ha
    rw [hsolvent.books, Books.account_chargeAll] at ha
    obtain ⟨a₀, ha₀, rfl⟩ := Option.map_eq_some_iff.mp ha
    have hbound := hsolvent.wallet user a₀ ha₀
    have hword := (hfunded.wallet user a₀ ha₀).2
    have hnonneg := Books.fromWallet_nonneg user hsolvent.share_nonneg
    dsimp only
    omega
  · intro token n hn
    rw [hsolvent.books, Books.remain_chargeAll] at hn
    obtain ⟨n₀, hn₀, rfl⟩ := Option.map_eq_some_iff.mp hn
    have hbound := hsolvent.token token n₀ hn₀
    have hword := (hfunded.token token n₀ hn₀).2
    have hnonneg := Books.fromToken_nonneg token hsolvent.share_nonneg
    omega
  · intro user balance text ha
    refine ⟨hsolvent.wallet user (balance, text) ha, ?_⟩
    rw [hsolvent.books, Books.account_chargeAll, ha]
    rfl
  · intro user hnone
    constructor
    · apply Books.fromWallet_eq_zero
      intro share hshare huser
      obtain ⟨l, hl, rfl⟩ := List.mem_map.mp hshare
      subst huser
      exact (hsolvent.known l hl hnone).share
    · rw [hsolvent.books, Books.account_chargeAll, hnone]
      rfl

/-- One wallet and one token of 100. -/
def contestedQuota : Quota.State TableStore :=
  ⟨⟨[(7, ⟨"default", 100, none⟩)], [(3, ⟨7, 100, false⟩)]⟩, {}⟩

/-- Two requests of one user, made with one token, and one of a user who is not known. -/
def contestedContexts : List Context :=
  [{ user := 7, token := 3 }, { user := 7, token := 3 }, { user := 8, token := 3 }]

/-- Both look at the wallet before either debits it, and only one debit goes through.  The other
request tries again with less and is settled before the first is refunded. -/
def contestedTurns : List (Nat × Turn) :=
  [(0, .look 60), (1, .look 60), (2, .look 5), (1, .debit), (0, .debit), (1, .release),
    (0, .look 30), (0, .debit), (0, .settle (.succeeded 25)), (1, .work 0)]

theorem funded_contestedQuota : (books contestedQuota.store).Funded := by
  constructor
  · intro user a ha
    rw [TableStore.account_books] at ha
    simp [contestedQuota, Rows.find?] at ha
    obtain ⟨-, rfl⟩ := ha
    decide
  · intro token n hn
    rw [TableStore.remain_books] at hn
    simp [contestedQuota, Rows.find?] at hn
    obtain ⟨-, rfl⟩ := hn
    decide

theorem modest_contestedTurns :
    Run.Along (step {}) Modest contestedTurns (opened contestedQuota contestedContexts) := by
  refine ⟨fun _ _ => trivial, fun _ _ => trivial, fun _ _ => trivial, fun _ _ => trivial,
    fun _ _ => trivial, fun _ _ => trivial, fun _ _ => trivial, fun _ _ => trivial, ?_,
    fun _ _ => trivial, trivial⟩
  intro l hl
  cases hl
  intro _
  decide

theorem run_solvent_contested :
    let r := (opened contestedQuota contestedContexts).run {} contestedTurns
    r.outstanding 7 = 25 ∧ (books r.quota.store).account 7 = some (75, "") ∧
      (books r.quota.store).Funded ∧ r.outstanding 8 = 0 := by
  intro r
  have h := @run_solvent TableStore _ {} _ _ contestedContexts contestedQuota contestedTurns
    (by decide) (by decide) funded_contestedQuota modest_contestedTurns
  obtain ⟨hfunded, hknown, hunknown⟩ := h
  have houtstanding : r.outstanding 7 = 25 := by decide
  have haccount := (hknown 7 100 "" rfl).2
  rw [houtstanding] at haccount
  exact ⟨houtstanding, haccount, hfunded, (hunknown 8 rfl).1⟩

end Race

end Turnstile
