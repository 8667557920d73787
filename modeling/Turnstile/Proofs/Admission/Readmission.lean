import Turnstile.Proofs.Admission.Charges
import Turnstile.Proofs.Admission.Frame
import Turnstile.Proofs.Store.Shares

/-!
# Contexts that are admitted again

A request that failed at one channel may be admitted once more, with the same context, and be sent
to another one.  A visit is all that is done with one context: admissions, each of which is settled
before the next one, and the work that they leave to the background.  In between others may change
channels and caches, and time goes on.

Only the first settlement of a context counts.  It gives back what the admission before it
reserved, or charges the cost; a later one does nothing, so what a later admission reserved stays
with the gateway (`Round.kept`).  A context that is admitted once is therefore charged what its
request cost, and one that is admitted again is not.

* `Gateway.accept_cases` — what an admission takes from a wallet;
* `Visit.run_kept` — what is missing from the wallet after any visit;
* `Visit.readmission_unsettled` — two admissions, two settlements, and one reservation kept.
-/

set_option autoImplicit false

namespace Turnstile

open StoreAdmin (books)

/-! ## An admission on the wallet path -/

namespace Gateway

variable {σ κ π : Type} {g : Gateway κ π} {t : Moment} {request : RelayRequest}
  {ctx ctx' : Context}

theorem bare_dispatch {group model : String} {retry : Nat} {d d' : Dispatch.State κ}
    {r : Except DispatchError Selected} (h : g.dispatch t group model retry ctx d = (r, ctx', d')) :
    ctx'.bare = ctx.bare := by
  unfold dispatch at h
  split at h
  · cases h
    rfl
  · dsimp only at h
    cases h
    split <;> rfl

theorem bare_route {retry : Nat} {s s' : GatewayState σ κ π} {r : Except Refusal Admission}
    (h : g.route t request retry ctx s = (r, ctx', s')) : ctx'.bare = ctx.bare := by
  unfold route at h
  dsimp only at h
  split at h
  · rename_i hd
    split at h <;> cases h <;> exact bare_dispatch hd
  · rename_i hd
    cases h
    exact bare_dispatch hd
  · rename_i hd
    cases h
    exact bare_dispatch hd

variable [UserStore σ] [StoreAdmin σ] [LawfulStore σ] {s : GatewayState σ κ π} {a : Int × String}

/-- An admission charges the spender with what it notes as reserved, or it is refused and changes
nothing.  What it leaves to the background gives nothing back. -/
theorem accept_cases (hwallet : Quota.usesSubscription g.config.quota ctx = false)
    (ha : (books s.quota.store).account ctx.user = some a) (t : Moment) (request : RelayRequest)
    (counted : Option String) (inbound : Inbound) (estimate : Int) (retry : Nat) :
    (∃ admission jobs ctx' s',
      g.accept t request counted inbound estimate retry ctx s = (.ok admission, jobs, ctx', s') ∧
      (∀ job ∈ jobs, ∃ url report, job = .deliver url report) ∧
      ctx'.bare = ctx.bare ∧ ctx'.settled = ctx.settled ∧
      books s'.quota.store = (books s.quota.store).charge ctx.spender ctx'.reserved) ∨
    ∃ refusal jobs ctx' s',
      g.accept t request counted inbound estimate retry ctx s = (.error refusal, jobs, ctx', s') ∧
      (∀ job ∈ jobs, ∃ url report, job = .deliver url report) ∧
      ctx'.bare = ctx.bare ∧ ctx'.settled = ctx.settled ∧ ctx'.reserved = ctx.reserved ∧
      books s'.quota.store = books s.quota.store := by
  unfold accept
  cases henforce : g.enforce t ctx.mode ctx.format request counted inbound s with
  | mk verdict rest =>
    obtain ⟨jobs, s₁⟩ := rest
    obtain ⟨hstore₁, hjobs⟩ := enforce_frame henforce
    cases verdict with
    | error refusal =>
      exact .inr ⟨refusal, jobs, ctx, s₁, rfl, hjobs, rfl, rfl, rfl, congrArg books hstore₁⟩
    | ok u =>
      dsimp only
      cases hroute : g.route t request retry ctx s₁ with
      | mk routed rest =>
        obtain ⟨ctx₂, s₂⟩ := rest
        obtain ⟨hstore₂, hctx₂, huser, -⟩ := route_frame hroute
        have hbare₂ := bare_route hroute
        have hstore := hstore₂.trans hstore₁
        cases routed with
        | error refusal =>
          exact .inr ⟨refusal, jobs, ctx₂, s₂, rfl, hjobs, hbare₂, hctx₂.settled, hctx₂.reserved,
            congrArg books hstore⟩
        | ok admission =>
          dsimp only
          have hwallet₂ := (Quota.usesSubscription_of_bare g.config.quota hbare₂).trans hwallet
          have hspender := Context.spender_of_bare hbare₂
          rw [← huser, ← hstore] at ha
          rcases Quota.reserve_wallet_cases hwallet₂ ha t.seconds estimate with
            ⟨ctx₃, quota, hok, hbare, hsettled, hb⟩ |
            ⟨refusal, ctx₃, quota, herror, hbare, hsettled, hreserved, hb⟩
          · rw [hok]
            rw [hspender, hstore] at hb
            exact .inl ⟨admission, jobs, ctx₃, _, rfl, hjobs, hbare.trans hbare₂,
              hsettled.trans hctx₂.settled, hb⟩
          · rw [herror]
            rw [hstore] at hb
            exact .inr ⟨refusal, jobs, ctx₃, _, rfl, hjobs, hbare.trans hbare₂,
              hsettled.trans hctx₂.settled, hreserved.trans hctx₂.reserved, hb⟩

end Gateway

/-! ## Rounds -/

/-- An admission that succeeded, and its settlement. -/
structure Round where
  reserved : Int
  outcome : Outcome

namespace Round

/-- What the request cost. -/
def cost (r : Round) : Int :=
  match r.outcome with
  | .failed => 0
  | .succeeded cost => cost

/-- What the requests cost together. -/
def costs (rounds : List Round) : Int := (rounds.map cost).sum

/-- What is kept of a wallet: what the first request cost, and what was reserved for the others. -/
def kept : List Round → Int
  | [] => 0
  | first :: later => first.cost + (later.map reserved).sum

theorem kept_append {rounds : List Round} (h : rounds ≠ []) (r : Round) :
    kept (rounds ++ [r]) = kept rounds + r.reserved := by
  cases rounds with
  | nil => exact absurd rfl h
  | cons first later => simp [kept, Int.add_assoc]

/-- Of one round its cost is kept. -/
theorem kept_eq_costs {rounds : List Round} (h : rounds.length ≤ 1) : kept rounds = costs rounds := by
  match rounds with
  | [] => rfl
  | [_] => rfl
  | _ :: _ :: _ => simp at h

end Round

/-! ## Visits -/

/-- All that is done with one context. -/
structure Visit (σ κ π : Type) where
  gateway : GatewayState σ κ π
  ctx : Context
  /-- Work that waits in the background. -/
  waiting : List Job := []
  /-- What an admission reserved that is still to be settled. -/
  admitted : Option Int := none
  rounds : List Round := []

namespace Visit

/-- What may happen in the course of a visit. -/
inductive Call (κ π : Type) where
  /-- A request comes to be admitted. -/
  | enter (t : Moment) (request : RelayRequest) (counted : Option String) (inbound : Inbound)
      (estimate : Int) (retry : Nat)
  | settle (outcome : Outcome)
  /-- Does the `k`th piece of the work in the background. -/
  | work (k : Nat)
  /-- Others change the channels and the caches. -/
  | elsewhere (dispatch : Dispatch.State κ) (moderation : Moderation.GateState π)

/-- What a settlement leaves to the background. -/
def leftBy : Except Refusal (Option Job) → List Job
  | .ok job => job.toList
  | .error _ => []

/-- What waits to be given back to wallets. -/
def refunds (jobs : List Job) : Int := (jobs.map Job.refund).sum

variable {σ κ π : Type}

/-- The start of a visit. -/
def opened (s : GatewayState σ κ π) (ctx : Context) : Visit σ κ π := { gateway := s, ctx := ctx }

/-- A request is admitted only when there is no other to be settled, and each is settled once. -/
def Paired (v : Visit σ κ π) : Call κ π → Prop
  | .enter .. => v.admitted = none
  | .settle _ => v.admitted.isSome
  | _ => True

/-- The charges that a call makes stay within signed 64-bit words. -/
def Exact [StoreAdmin σ] (v : Visit σ κ π) : Call κ π → Prop
  | .settle (.succeeded cost) => v.ctx.settled = false →
    (books v.gateway.quota.store).Fits v.ctx.spender (cost - v.ctx.reserved)
  | .work k => ∀ who amount, v.waiting[k]? = some (.refundWallet who amount) →
    (books v.gateway.quota.store).Fits who (-amount)
  | _ => True

/-- One call. -/
def step [UserStore σ] (g : Gateway κ π) (v : Visit σ κ π) : Call κ π → Visit σ κ π
  | .enter t request counted inbound estimate retry =>
    match g.accept t request counted inbound estimate retry v.ctx v.gateway with
    | (.ok _, jobs, ctx, s) =>
      { v with
        gateway := s, ctx := ctx, waiting := v.waiting ++ jobs, admitted := some ctx.reserved }
    | (.error _, jobs, ctx, s) => { v with gateway := s, ctx := ctx, waiting := v.waiting ++ jobs }
  | .settle outcome => match Gateway.settle g.config.quota outcome v.ctx v.gateway.quota with
    | (r, ctx, quota) =>
      { v with
        gateway := { v.gateway with quota := quota }, ctx := ctx
        waiting := v.waiting ++ leftBy r, admitted := none
        rounds := v.rounds ++ [⟨v.admitted.getD 0, outcome⟩] }
  | .work k => match v.waiting[k]? with
    | none => v
    | some job =>
      { v with
        gateway := { v.gateway with
          quota := (Gateway.runJob Http.unreachable job v.gateway.quota ()).1 }
        waiting := v.waiting.eraseIdx k }
  | .elsewhere dispatch moderation =>
    { v with gateway := { v.gateway with dispatch := dispatch, moderation := moderation } }

/-- Calls one after the other. -/
def run [UserStore σ] (g : Gateway κ π) (calls : List (Call κ π)) (v : Visit σ κ π) :
    Visit σ κ π :=
  calls.foldl (step g) v

/-! ## What is kept -/

theorem refunds_append (jobs jobs' : List Job) :
    refunds (jobs ++ jobs') = refunds jobs + refunds jobs' := by
  simp [refunds]

theorem refunds_deliveries {jobs : List Job}
    (h : ∀ job ∈ jobs, ∃ url report, job = .deliver url report) : refunds jobs = 0 := by
  apply List.sum_eq_zero
  intro x hx
  obtain ⟨job, hjob, rfl⟩ := List.mem_map.mp hx
  obtain ⟨url, report, rfl⟩ := h job hjob
  rfl

/-- A refund to the spender of the visit, or a delivery. -/
def Harmless (who : Spender) (job : Job) : Prop :=
  (∃ amount, job = .refundWallet who amount) ∨ ∃ url report, job = .deliver url report

variable [StoreAdmin σ]

/-- The spender has been charged with what is kept, what is admitted and not settled, and what
waits to be given back. -/
structure Kept (ctx : Context) (b : Books) (v : Visit σ κ π) : Prop where
  bare : v.ctx.bare = ctx.bare
  settled : v.ctx.settled = !v.rounds.isEmpty
  reserved : ∀ n, v.admitted = some n → v.ctx.reserved = n
  waiting : ∀ job ∈ v.waiting, Harmless ctx.spender job
  books : books v.gateway.quota.store = b.charge ctx.spender
    (Round.kept v.rounds + v.admitted.getD 0 + refunds v.waiting)

variable [UserStore σ] [LawfulStore σ] {g : Gateway κ π} {ctx : Context} {b : Books}
  {v : Visit σ κ π}

omit [UserStore σ] [LawfulStore σ] in
/-- The user keeps the row in the books. -/
theorem Kept.known (h : v.Kept ctx b) (hknown : (b.account ctx.user).isSome) :
    ∃ a, (StoreAdmin.books v.gateway.quota.store).account v.ctx.user = some a := by
  have huser : v.ctx.user = ctx.user := congrArg Spender.user (Context.spender_of_bare h.bare)
  obtain ⟨a, ha⟩ := Option.isSome_iff_exists.mp hknown
  rw [h.books, huser, Books.account_charge, ha]
  split
  · exact ⟨_, rfl⟩
  · exact ⟨_, rfl⟩

theorem Kept.enter (h : v.Kept ctx b) (hknown : (b.account ctx.user).isSome)
    (hwallet : Quota.usesSubscription g.config.quota ctx = false) (t : Moment)
    (request : RelayRequest) (counted : Option String) (inbound : Inbound) (estimate : Int)
    (retry : Nat) (hnone : v.admitted = none) :
    (v.step g (.enter t request counted inbound estimate retry)).Kept ctx b := by
  obtain ⟨a, ha⟩ := h.known hknown
  have hspender := Context.spender_of_bare h.bare
  have hwallet' := (Quota.usesSubscription_of_bare g.config.quota h.bare).trans hwallet
  have hdeliveries : ∀ jobs : List Job, (∀ job ∈ jobs, ∃ url report, job = .deliver url report) →
      ∀ job ∈ v.waiting ++ jobs, Harmless ctx.spender job := by
    intro jobs hjobs job hjob
    rcases List.mem_append.mp hjob with hold | hnew
    · exact h.waiting job hold
    · exact .inr (hjobs job hnew)
  rcases Gateway.accept_cases hwallet' ha t request counted inbound estimate retry with
    ⟨admission, jobs, ctx', s', hok, hjobs, hbare, hsettled, hb⟩ |
    ⟨refusal, jobs, ctx', s', herror, hjobs, hbare, hsettled, -, hb⟩
  · simp only [step, hok]
    refine ⟨hbare.trans h.bare, hsettled.trans h.settled, ?_, hdeliveries jobs hjobs, ?_⟩
    · intro n hn
      cases hn
      rfl
    · dsimp only
      rw [hb, h.books, hspender, Books.charge_charge, hnone, refunds_append,
        refunds_deliveries hjobs]
      congr 1
      simp only [Option.getD_none, Option.getD_some]
      omega
  · simp only [step, herror]
    refine ⟨hbare.trans h.bare, hsettled.trans h.settled, ?_, hdeliveries jobs hjobs, ?_⟩
    · intro n hn
      rw [hnone] at hn
      cases hn
    · dsimp only
      rw [hb, h.books, refunds_append, refunds_deliveries hjobs, Int.add_zero]

theorem Kept.work (h : v.Kept ctx b) (hknown : (b.account ctx.user).isSome) (k : Nat)
    (hexact : v.Exact (.work k)) : (v.step g (.work k)).Kept ctx b := by
  obtain ⟨a, ha⟩ := h.known hknown
  cases hjob : v.waiting[k]? with
  | none =>
    simp only [step, hjob]
    exact h
  | some job =>
    have hrest := Run.sum_map_eraseIdx Job.refund hjob
    have hwaiting : ∀ job ∈ v.waiting.eraseIdx k, Harmless ctx.spender job :=
      fun job hmem => h.waiting job (List.mem_of_mem_eraseIdx hmem)
    simp only [step, hjob]
    refine ⟨h.bare, h.settled, h.reserved, hwaiting, ?_⟩
    rcases h.waiting job (List.mem_of_getElem? hjob) with ⟨amount, rfl⟩ | ⟨url, report, rfl⟩
    · have hspender := Context.spender_of_bare h.bare
      have ha' : (StoreAdmin.books v.gateway.quota.store).account ctx.spender.user = some a := by
        rw [← hspender]
        exact ha
      have hrefund : refunds (v.waiting.eraseIdx k) = refunds v.waiting - amount := hrest
      show StoreAdmin.books (Quota.refundWallet ctx.spender amount v.gateway.quota).store = _
      rw [Quota.books_refundWallet ha' (hexact _ _ hjob), h.books, Books.charge_charge, hrefund]
      congr 1
      dsimp only
      omega
    · have hrefund : refunds (v.waiting.eraseIdx k) = refunds v.waiting := by
        have hzero : Job.refund (.deliver url report) = 0 := rfl
        unfold refunds
        omega
      show StoreAdmin.books v.gateway.quota.store = _
      rw [h.books, hrefund]

omit [StoreAdmin σ] [UserStore σ] [LawfulStore σ] in
theorem settled_append (rounds : List Round) (r : Round) :
    (!(rounds ++ [r]).isEmpty) = true := by
  cases rounds <;> rfl

theorem Kept.settle (h : v.Kept ctx b) (hknown : (b.account ctx.user).isSome)
    (hwallet : Quota.usesSubscription g.config.quota ctx = false) (outcome : Outcome)
    (hpaired : v.admitted.isSome) (hexact : v.Exact (.settle outcome)) :
    (v.step g (.settle outcome)).Kept ctx b := by
  obtain ⟨a, ha⟩ := h.known hknown
  obtain ⟨n, hn⟩ := Option.isSome_iff_exists.mp hpaired
  have hreserved := h.reserved n hn
  have hspender := Context.spender_of_bare h.bare
  have hwallet' := (Quota.usesSubscription_of_bare g.config.quota h.bare).trans hwallet
  cases hrounds : v.rounds with
  | nil =>
    -- The first settlement of the context brings the reservation in line.
    have hunsettled : v.ctx.settled = false := by rw [h.settled, hrounds]; rfl
    cases outcome with
    | failed =>
      simp only [step, Gateway.settle_failed hwallet' hunsettled, leftBy]
      refine ⟨h.bare, by rw [settled_append], nofun, ?_, ?_⟩
      · intro job hjob
        rcases List.mem_append.mp hjob with hold | hnew
        · exact h.waiting job hold
        · exact .inl ⟨v.ctx.reserved, hspender ▸ Quota.mem_setAside hnew⟩
      · have hrefund : refunds (Quota.setAside v.ctx).toList = n :=
          (Quota.sum_setAside v.ctx).trans hreserved
        rw [h.books, hrounds, hn, refunds_append, hrefund]
        congr 1
        simp [Round.kept, Round.cost]
        omega
    | succeeded cost =>
      obtain ⟨store, hc, hb⟩ := Gateway.settle_succeeded hwallet' hunsettled ha (hexact hunsettled)
      simp only [step, hc, leftBy, Option.toList_none, List.append_nil]
      refine ⟨h.bare, by rw [settled_append], nofun, h.waiting, ?_⟩
      rw [hb, h.books, hspender, Books.charge_charge, hrounds, hn, hreserved]
      congr 1
      simp [Round.kept, Round.cost]
      omega
  | cons first later =>
    have hsettled : v.ctx.settled = true := by rw [h.settled, hrounds]; rfl
    simp only [step, Gateway.settle_again g.config.quota hsettled, leftBy, Option.toList_none,
      List.append_nil]
    refine ⟨h.bare, ?_, nofun, h.waiting, ?_⟩
    · rw [settled_append, hsettled]
    · rw [h.books, Round.kept_append (by rw [hrounds]; exact nofun), hn]
      simp

/-- Every call keeps the books in line with the rounds. -/
theorem Kept.step (h : v.Kept ctx b) (hknown : (b.account ctx.user).isSome)
    (hwallet : Quota.usesSubscription g.config.quota ctx = false) {call : Call κ π}
    (hpaired : v.Paired call) (hexact : v.Exact call) : (v.step g call).Kept ctx b := by
  cases call with
  | enter t request counted inbound estimate retry =>
    exact h.enter hknown hwallet t request counted inbound estimate retry hpaired
  | settle outcome => exact h.settle hknown hwallet outcome hpaired hexact
  | work k => exact h.work hknown k hexact
  | elsewhere dispatch moderation => exact ⟨h.bare, h.settled, h.reserved, h.waiting, h.books⟩

/-- Once all is settled and no refund waits, the spender of a visit has been charged what the first
request cost and what was reserved for every later one.  A visit in which at most one admission
succeeded has been charged exactly what its request cost. -/
theorem run_kept {s : GatewayState σ κ π} {calls : List (Call κ π)}
    (hfresh : ctx.reserved = 0 ∧ ctx.settled = false)
    (hwallet : Quota.usesSubscription g.config.quota ctx = false)
    (hknown : ((books s.quota.store).account ctx.user).isSome)
    (horderly : Run.Along (step g) (fun v call => v.Paired call ∧ v.Exact call) calls
      (opened s ctx)) :
    let v := (opened s ctx).run g calls
    v.admitted = none → (∀ job ∈ v.waiting, job.refund = 0) →
    books v.gateway.quota.store = (books s.quota.store).charge ctx.spender (Round.kept v.rounds) ∧
      (v.rounds.length ≤ 1 → books v.gateway.quota.store =
        (books s.quota.store).charge ctx.spender (Round.costs v.rounds)) := by
  intro v hsettled hidle
  have hopened : Kept ctx (books s.quota.store) (opened s ctx) :=
    ⟨rfl, hfresh.2, nofun, nofun, (Books.charge_zero ctx.spender (books s.quota.store)).symm⟩
  have hkept : v.Kept ctx (books s.quota.store) :=
    Run.induction (fun _ _ h hcall => h.step hknown hwallet hcall.1 hcall.2) calls _ hopened horderly
  have hrefunds : refunds v.waiting = 0 := by
    apply List.sum_eq_zero
    intro x hx
    obtain ⟨job, hjob, rfl⟩ := List.mem_map.mp hx
    exact hidle job hjob
  have hbooks : books v.gateway.quota.store =
      (books s.quota.store).charge ctx.spender (Round.kept v.rounds) := by
    rw [hkept.books, hsettled, hrefunds]
    simp
  refine ⟨hbooks, fun hfew => ?_⟩
  rw [hbooks, Round.kept_eq_costs hfew]

/-- Two channels to propose, a wallet of 100 and a token of 80. -/
def twoChannels : GatewayState MemoryStore (List Proposal) Moderation.Scripts where
  quota := ⟨⟨[(7, ⟨"default", 100, ""⟩)], [(70, 80)]⟩, {}⟩
  dispatch := ⟨[.channel ⟨1, "a", "default", ["m"], "k"⟩, .channel ⟨2, "b", "default", ["m"], "k"⟩], []⟩
  moderation := ⟨{}, {}, { name := "eden" }, { name := "openai" }, {}⟩

/-- The request of user 7, made with token 70. -/
def retriedContext : Context := { user := 7, token := 70, tokenQuota := 80, usingGroup := "default" }

/-- The request is admitted, at an estimate of 40. -/
def attempt (retry : Nat) : Call (List Proposal) Moderation.Scripts :=
  .enter ⟨1700000000000, 0⟩ (.chat ⟨"m", [], none, []⟩) none { user := 7 } 40 retry

/-- It is settled, and then sent once more to the other channel. -/
def retried (first : Outcome) : List (Call (List Proposal) Moderation.Scripts) :=
  [attempt 0, .settle first, .work 0, attempt 1, .settle .failed]

theorem orderly_retried_failed :
    Run.Along (step Gateway.plain) (fun v call => v.Paired call ∧ v.Exact call) (retried .failed)
      (opened twoChannels retriedContext) := by
  refine ⟨⟨rfl, trivial⟩, ⟨rfl, trivial⟩, ⟨trivial, ?_⟩, ⟨rfl, trivial⟩, ⟨rfl, trivial⟩, trivial⟩
  intro who amount hjob
  cases hjob
  exact Books.Fits.of_known (by decide) rfl rfl (by decide) (by decide)

theorem orderly_retried_succeeded :
    Run.Along (step Gateway.plain) (fun v call => v.Paired call ∧ v.Exact call)
      (retried (.succeeded 35)) (opened twoChannels retriedContext) := by
  refine ⟨⟨rfl, trivial⟩, ⟨rfl, ?_⟩, ⟨trivial, ?_⟩, ⟨rfl, trivial⟩, ⟨rfl, trivial⟩, trivial⟩
  · intro _
    exact Books.Fits.of_known (by decide) rfl rfl (by decide) (by decide)
  · intro who amount hjob
    cases hjob

/-- The first attempt cost 35, and of the second what it reserved is kept. -/
theorem run_kept_retried :
    let v := (opened twoChannels retriedContext).run Gateway.plain (retried (.succeeded 35))
    (books v.gateway.quota.store).account 7 = some (25, "") ∧
      (books v.gateway.quota.store).remain 70 = some 5 := by
  intro v
  obtain ⟨hbooks, -⟩ := @run_kept MemoryStore _ _ _ _ _ Gateway.plain retriedContext twoChannels
    (retried (.succeeded 35)) ⟨rfl, rfl⟩ rfl rfl orderly_retried_succeeded rfl (by decide)
  have hkept : Round.kept v.rounds = 75 := rfl
  constructor
  · rw [hbooks, hkept]
    rfl
  · rw [hbooks, hkept]
    rfl

/-- Both attempts failed and cost nothing, each was settled, and nothing waits; yet the wallet is
not what it was. -/
theorem readmission_unsettled :
    let v := (opened twoChannels retriedContext).run Gateway.plain (retried .failed)
    (retriedContext.reserved = 0 ∧ retriedContext.settled = false) ∧
    Quota.usesSubscription Gateway.plain.config.quota retriedContext = false ∧
    Run.Along (step Gateway.plain) (fun v call => v.Paired call ∧ v.Exact call) (retried .failed)
      (opened twoChannels retriedContext) ∧
    v.admitted = none ∧ v.waiting = [] ∧ Round.costs v.rounds = 0 ∧
    (books twoChannels.quota.store).account 7 = some (100, "") ∧
    (books v.gateway.quota.store).account 7 = some (60, "") := by
  intro v
  exact ⟨⟨rfl, rfl⟩, rfl, orderly_retried_failed, rfl, rfl, rfl, rfl, rfl⟩

end Visit

end Turnstile
