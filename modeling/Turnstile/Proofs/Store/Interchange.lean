import Turnstile.Admission.Pipeline
import Turnstile.Proofs.Run
import Turnstile.Proofs.Store.Laws

/-!
# One store for the other

The tables hold more than the store in memory: whose token it is, whether it is unlimited, and
whether a document is absent or empty.  `TableStore.inMemory` forgets that.  Every operation of the
quota logic and of the ledger that is done on tables could as well be done on what they are in
memory, with the same result and the same context, provided a charge stays within signed 64-bit
words: only there do the two differ, the one saturating and the other not.  A debit differs in the
order in which it looks at user, token and wallet; that does not show for a positive amount and a
user who exists, and no other debit is ever asked for.

* `Quota.reserve_inMemory`, `Quota.charge_inMemory`, … — one operation;
* `Desk.step_inMemory` — one call of a desk that works with any number of contexts;
* `Desk.trace_load` — the same calls to a desk with either store show the same.
-/

set_option autoImplicit false

namespace Turnstile

open StoreAdmin (books)

/-! ## Rows under another reading -/

namespace Rows

variable {α β : Type}

/-- Every row as `f` reads it. -/
def mapRows (f : α → β) (t : Rows α) : Rows β := t.map fun r => (r.1, f r.2)

theorem find?_mapRows (f : α → β) (id : Int) (t : Rows α) :
    find? id (t.mapRows f) = (find? id t).map f := by
  induction t with
  | nil => rfl
  | cons r t ih =>
    by_cases h : id = r.1
    · simp [mapRows, find?, h]
    · simp only [mapRows, List.map_cons, find?, h, if_false] at ih ⊢
      exact ih

theorem mapRows_put (f : α → β) (id : Int) (a : α) (t : Rows α) :
    (t.put id a).mapRows f = (t.mapRows f).put id (f a) := by
  induction t with
  | nil => rfl
  | cons r t ih =>
    by_cases h : id = r.1
    · simp [mapRows, put, h]
    · by_cases hlt : id < r.1
      · simp [mapRows, put, h, hlt]
      · simp only [mapRows, put, h, hlt, if_false, List.map_cons] at ih ⊢
        rw [ih]

/-- A row is changed alike if the change of the row that is there is read alike. -/
theorem mapRows_modify (f : α → β) (g : α → α) (g' : β → β) {id : Int} {t : Rows α}
    (h : ∀ a, find? id t = some a → f (g a) = g' (f a)) :
    (t.modify id g).mapRows f = (t.mapRows f).modify id g' := by
  induction t with
  | nil => rfl
  | cons r t ih =>
    by_cases hid : id = r.1
    · have hrow := h r.2 (by simp [find?, hid])
      simp [mapRows, modify, hid, hrow]
    · have htail := ih fun a ha => h a (by simp [find?, hid, ha])
      simp only [mapRows, modify, hid, if_false, List.map_cons] at htail ⊢
      rw [htail]

theorem numbers_mapRows (f : α → β) (p : β → Bool) (t : Rows α) :
    numbers p (t.mapRows f) = numbers (fun a => p (f a)) t := by
  unfold numbers mapRows
  rw [List.filter_map, List.map_map]
  rfl

end Rows

/-! ## Tables in memory -/

namespace TableStore

/-- What a store in memory keeps of the tables. -/
def inMemory (t : TableStore) : MemoryStore where
  users := t.users.mapRows fun r => ⟨r.group, r.balance, r.document.getD ""⟩
  tokens := t.tokens.mapRows (·.remain)

theorem books_inMemory (t : TableStore) : books t.inMemory = books t := by
  ext1
  · funext k
    rw [MemoryStore.account_books, account_books]
    unfold inMemory
    rw [Rows.find?_mapRows, Option.map_map]
    rfl
  · funext k
    rw [MemoryStore.remain_books, remain_books]
    unfold inMemory
    rw [Rows.find?_mapRows]

theorem putUser_inMemory (user : Int) (group : String) (balance : Int) (document : Option String)
    (t : TableStore) :
    StoreAdmin.putUser user group balance document t.inMemory =
      (StoreAdmin.putUser user group balance document t).inMemory := by
  simp [StoreAdmin.putUser, MemoryStore.insertUser, TableStore.insertUser, inMemory,
    Rows.mapRows_put]

theorem putToken_inMemory (who : Spender) (remain : Int) (t : TableStore) :
    StoreAdmin.putToken who remain t.inMemory = (StoreAdmin.putToken who remain t).inMemory := by
  simp [StoreAdmin.putToken, MemoryStore.insertToken, TableStore.insertToken, inMemory,
    Rows.mapRows_put]

/-- What is done on the tables, seen as done in memory. -/
def seen {α : Type} (r : α × TableStore) : α × MemoryStore := (r.1, r.2.inMemory)

theorem balance_inMemory (user : Int) (t : TableStore) :
    UserStore.balance user t.inMemory = seen (UserStore.balance user t) := by
  rw [LawfulStore.balance_eq, LawfulStore.balance_eq, books_inMemory]
  rfl

theorem members_inMemory (group : String) (t : TableStore) :
    UserStore.members group t.inMemory = seen (UserStore.members group t) := by
  simp only [UserStore.members, MemoryStore.members, TableStore.members, inMemory,
    Rows.numbers_mapRows]
  rfl

/-- The tables after both counters of a spender were changed, in memory. -/
theorem inMemory_modify {t : TableStore} {who : Spender} {delta : Int} {f : Int → Int}
    (hwallet : ∀ a, (books t).account who.user = some a → f a.1 = a.1 - delta)
    (htoken : who.unlimited = false → ∀ n, (books t).remain who.token = some n → f n = n - delta) :
    inMemory ⟨t.users.modify who.user fun r => { r with balance := r.balance - delta },
      if who.unlimited then t.tokens
      else t.tokens.modify who.token fun r => { r with remain := r.remain - delta }⟩ =
    ⟨t.inMemory.users.modify who.user fun a => { a with balance := f a.balance },
      if who.unlimited then t.inMemory.tokens else t.inMemory.tokens.modify who.token f⟩ := by
  unfold inMemory
  congr 1
  · apply Rows.mapRows_modify
    intro r hr
    have hbalance := hwallet (r.balance, r.document.getD "") (by rw [account_books, hr]; rfl)
    simp [hbalance]
  · cases hu : who.unlimited with
    | true => rfl
    | false =>
      simp only [Bool.false_eq_true, if_false]
      apply Rows.mapRows_modify
      intro r hr
      exact (htoken hu r.remain (by rw [remain_books, hr]; rfl)).symm

/-- A debit of a positive amount from an existing user does not tell the stores apart: whatever
stands against it is looked for in another order, and the same is found. -/
theorem debit_inMemory {t : TableStore} {who : Spender} {amount : Int} (hpos : 0 < amount)
    (hknown : ((books t).account who.user).isSome) :
    UserStore.debit who amount t.inMemory = seen (UserStore.debit who amount t) := by
  obtain ⟨a, ha⟩ := Option.isSome_iff_exists.mp hknown
  rw [account_books] at ha
  obtain ⟨row, hrow, rfl⟩ := Option.map_eq_some_iff.mp ha
  have hrow' : t.inMemory.users.find? who.user =
      some ⟨row.group, row.balance, row.document.getD ""⟩ := by
    unfold inMemory
    rw [Rows.find?_mapRows, hrow]
    rfl
  simp only [UserStore.debit, MemoryStore.debit_eq hrow', debit_eq hpos hrow, books_inMemory]
  cases (books t).shortage? who amount row.balance with
  | some e => rfl
  | none =>
    show ((.ok () : Except StoreError Unit), _) = (.ok (), inMemory _)
    rw [inMemory_modify (fun _ _ => rfl) fun _ _ _ => rfl]

/-- Neither does a charge that stays within signed words, whether or not its user exists. -/
theorem charge_inMemory {t : TableStore} {who : Spender} {delta : Int}
    (hfits : (books t).Fits who delta) :
    UserStore.charge who delta t.inMemory = seen (UserStore.charge who delta t) := by
  cases hrow : t.users.find? who.user with
  | none =>
    have hrow' : t.inMemory.users.find? who.user = none := by
      unfold inMemory
      rw [Rows.find?_mapRows, hrow]
      rfl
    simp [UserStore.charge, MemoryStore.charge, TableStore.charge, Rows.modifyIf, hrow, hrow', seen]
  | some row =>
    have hrow' : t.inMemory.users.find? who.user =
        some ⟨row.group, row.balance, row.document.getD ""⟩ := by
      unfold inMemory
      rw [Rows.find?_mapRows, hrow]
      rfl
    simp only [UserStore.charge, MemoryStore.charge, TableStore.charge, Rows.modifyIf, hrow, hrow',
      if_true]
    show ((.ok () : Except StoreError Unit), _) = (.ok (), inMemory _)
    rw [inMemory_modify (fun a ha => Word.saturate_of_inRange (hfits.wallet a ha))
      fun hlimited n hn => Word.saturate_of_inRange (hfits.token hlimited n hn)]
    rfl

theorem update_inMemory {α : Type} (user : Int)
    (f : String → Except LedgerError (Option String × α)) (t : TableStore) :
    UserStore.update user f t.inMemory = seen (UserStore.update user f t) := by
  cases hrow : t.users.find? user with
  | none =>
    have hrow' : t.inMemory.users.find? user = none := by
      unfold inMemory
      rw [Rows.find?_mapRows, hrow]
      rfl
    simp [UserStore.update, MemoryStore.update, TableStore.update, TableStore.document, hrow, hrow',
      seen]
  | some row =>
    have hrow' : t.inMemory.users.find? user =
        some ⟨row.group, row.balance, row.document.getD ""⟩ := by
      unfold inMemory
      rw [Rows.find?_mapRows, hrow]
      rfl
    simp only [UserStore.update, MemoryStore.update, TableStore.update, TableStore.document, hrow,
      hrow']
    cases hf : f (row.document.getD "") with
    | error e => rfl
    | ok r =>
      obtain ⟨text?, x⟩ := r
      cases text? with
      | none => rfl
      | some text =>
        have hmodify : (t.users.modify user fun r => { r with document := some text }).mapRows
            (fun r => (⟨r.group, r.balance, r.document.getD ""⟩ : Account)) =
            t.inMemory.users.modify user fun a => { a with document := text } := by
          apply Rows.mapRows_modify
          intro r _
          rfl
        simp only [seen, inMemory] at hmodify ⊢
        rw [hmodify]

end TableStore

open TableStore (seen update_inMemory)

/-! ## The ledger -/

namespace Subscription

theorem reserve_inMemory (user now amount : Int) (t : TableStore) :
    reserve user now amount t.inMemory = seen (reserve user now amount t) := by
  unfold reserve
  split
  · rfl
  · split
    · rfl
    · exact update_inMemory user _ t

theorem adjust_inMemory (user : Int) (selection : Selection) (delta : Int) (t : TableStore) :
    adjust user selection delta t.inMemory = seen (adjust user selection delta t) := by
  unfold adjust
  split
  · rfl
  · split
    · rfl
    · split
      · rfl
      · exact update_inMemory user _ t

theorem resetUser_inMemory (user now : Int) (t : TableStore) :
    resetUser user now t.inMemory = seen (resetUser user now t) :=
  update_inMemory user _ t

theorem resetEach_inMemory (now : Int) (users : List Int) (sum : ResetSummary) (t : TableStore) :
    resetEach now users sum t.inMemory = seen (resetEach now users sum t) := by
  induction users generalizing sum t with
  | nil => rfl
  | cons user rest ih =>
    simp only [resetEach, resetUser_inMemory]
    cases hreset : resetUser user now t with
    | mk r t' =>
      cases r with
      | error e => exact ih { sum with visited := sum.visited + 1, failed := sum.failed + 1 } t'
      | ok changed =>
        cases changed with
        | false => exact ih { sum with visited := sum.visited + 1 } t'
        | true => exact ih { sum with visited := sum.visited + 1, updated := sum.updated + 1 } t'

theorem resetAll_inMemory (group : String) (now : Int) (t : TableStore) :
    resetAll group now t.inMemory = seen (resetAll group now t) := by
  unfold resetAll
  rw [TableStore.members_inMemory]
  cases hmembers : UserStore.members group t with
  | mk r t' =>
    cases r with
    | error e => rfl
    | ok users =>
      simp only [seen]
      rw [resetEach_inMemory]
      rfl

end Subscription

/-! ## The quota -/

namespace Quota

/-- The state with what a store in memory keeps of the tables. -/
def State.inMemory (s : State TableStore) : State MemoryStore := ⟨s.store.inMemory, s.counters⟩

/-- The result, the context and the state of an operation on tables, seen as done in memory. -/
def seenWith {α β : Type} (r : α × β × State TableStore) : α × β × State MemoryStore :=
  (r.1, r.2.1, r.2.2.inMemory)

variable {config : QuotaConfig} {ctx : Context} {s : State TableStore}

theorem carryOut_inMemory {p : Plan} (hknown : ((books s.store).account ctx.user).isSome) :
    carryOut p ctx s.inMemory = seenWith (carryOut p ctx s) := by
  cases p with
  | trust balance => rfl
  | reserve balance amount =>
    unfold carryOut
    dsimp only
    by_cases hzero : amount ≤ 0
    · rw [if_pos hzero, if_pos hzero]
      rfl
    · have hpos : 0 < amount := by omega
      have hstore : s.inMemory.store = s.store.inMemory := rfl
      have hspender : Context.spender { ctx with seenBalance := balance } = ctx.spender := rfl
      rw [if_neg hzero, if_neg hzero, hspender, hstore, TableStore.debit_inMemory hpos hknown]
      cases hdebit : UserStore.debit ctx.spender amount s.store with
      | mk r store =>
        cases r with
        | ok u => rfl
        | error e => cases e <;> rfl

theorem reserveFromWallet_inMemory (amount : Int) :
    reserveFromWallet config amount ctx s.inMemory =
      seenWith (reserveFromWallet config amount ctx s) := by
  unfold reserveFromWallet
  have hstore : s.inMemory.store = s.store.inMemory := rfl
  rw [hstore, TableStore.balance_inMemory, LawfulStore.balance_eq]
  cases ha : (books s.store).account ctx.user with
  | none => rfl
  | some a =>
    simp only [seen]
    cases hp : plan config ctx amount a.1 with
    | error refusal => rfl
    | ok p => exact carryOut_inMemory (by rw [ha]; rfl)

theorem reserveFromSubscription_inMemory (now amount : Int) :
    reserveFromSubscription now amount ctx s.inMemory =
      seenWith (reserveFromSubscription now amount ctx s) := by
  unfold reserveFromSubscription
  have hstore : s.inMemory.store = s.store.inMemory := rfl
  rw [hstore, Subscription.reserve_inMemory]
  cases hreserve : Subscription.reserve ctx.user now amount s.store with
  | mk r store =>
    cases r with
    | ok selection => rfl
    | error e => cases e <;> rfl

/-- A reservation does not tell the stores apart. -/
theorem reserve_inMemory (now estimate : Int) :
    reserve config now estimate ctx s.inMemory = seenWith (reserve config now estimate ctx s) := by
  unfold reserve
  dsimp only
  split
  · exact reserveFromSubscription_inMemory now (max estimate 0)
  · exact reserveFromWallet_inMemory (max estimate 0)

/-- Neither does a charge, if it stays within signed words where it goes to a wallet. -/
theorem charge_inMemory {delta : Int} {t : TableStore}
    (hfits : usesSubscription config ctx = false → (books t).Fits ctx.spender delta) :
    charge config delta ctx t.inMemory = seen (charge config delta ctx t) := by
  unfold charge
  split
  · rfl
  · split
    · cases ctx.selection with
      | none => rfl
      | some selection =>
        dsimp only
        rw [Subscription.adjust_inMemory]
        cases hadjust : Subscription.adjust ctx.user selection delta t with
        | mk r t' =>
          cases r with
          | ok u => rfl
          | error e => cases e <;> rfl
    · rename_i hpath
      rw [TableStore.charge_inMemory (hfits (Bool.eq_false_iff.mpr hpath))]
      cases hcharge : UserStore.charge ctx.spender delta t with
      | mk r t' => cases r <;> rfl

theorem refundSelection_inMemory (user : Int) (selection : Subscription.Selection) (amount : Int) :
    refundSelection user selection amount s.inMemory =
      (refundSelection user selection amount s).inMemory := by
  unfold refundSelection
  have hstore : s.inMemory.store = s.store.inMemory := rfl
  rw [hstore, Subscription.adjust_inMemory]
  cases hadjust : Subscription.adjust user selection (-amount) s.store with
  | mk r t' => cases r <;> rfl

theorem refundWallet_inMemory {who : Spender} {amount : Int}
    (hfits : (books s.store).Fits who (-amount)) :
    refundWallet who amount s.inMemory = (refundWallet who amount s).inMemory := by
  unfold refundWallet
  have hstore : s.inMemory.store = s.store.inMemory := rfl
  rw [hstore, TableStore.charge_inMemory hfits]
  cases hcharge : UserStore.charge who (-amount) s.store with
  | mk r t' => cases r <;> rfl

end Quota

/-- The work of the background does not tell the stores apart, if a refund to a wallet stays within
signed words. -/
theorem Gateway.runJob_inMemory {job : Job} {s : Quota.State TableStore}
    (hfits : ∀ who amount, job = .refundWallet who amount → (books s.store).Fits who (-amount)) :
    (runJob Http.unreachable job s.inMemory ()).1 =
      (runJob Http.unreachable job s ()).1.inMemory := by
  cases job with
  | refundSelection user selection amount =>
    exact Quota.refundSelection_inMemory user selection amount
  | refundWallet who amount => exact Quota.refundWallet_inMemory (hfits who amount rfl)
  | deliver url report => rfl

/-! ## A desk with either store -/

/-- Any number of contexts over one store, and the work that waits in the background. -/
structure Desk (σ : Type) where
  quota : Quota.State σ
  contexts : List Context
  waiting : List Job := []

namespace Desk

/-- The calls to a desk: those of the quota, for the context at a place, and those of the ledger. -/
inductive Call where
  | reserve (place : Nat) (now estimate : Int)
  | release (place : Nat)
  | charge (place : Nat) (delta : Int)
  /-- Does the `k`th piece of the work in the background. -/
  | work (k : Nat)
  | ledgerReserve (user now amount : Int)
  | ledgerAdjust (user : Int) (selection : Subscription.Selection) (delta : Int)
  | resetUser (user now : Int)
  | resetAll (group : String) (now : Int)

/-- What a call answers. -/
inductive Answer where
  /-- There is nothing to say, also where there is no such context. -/
  | done
  | quota (r : Except Refusal Unit)
  /-- A reservation was left to the background, or there was none. -/
  | released (job : Option Job)
  | selection (r : Except LedgerError Subscription.Selection)
  | ledger (r : Except LedgerError Unit)
  | reset (r : Except LedgerError Bool)
  | resets (r : Except StoreError Subscription.ResetSummary)

/-- All that can be seen of a desk after a call. -/
structure Report where
  answer : Answer
  contexts : List Context
  waiting : List Job
  counters : Counters
  books : Books

variable {σ : Type}

/-- One call. -/
def step [UserStore σ] (config : QuotaConfig) (d : Desk σ) : Call → Answer × Desk σ
  | .reserve place now estimate => match d.contexts[place]? with
    | none => (.done, d)
    | some ctx => match Quota.reserve config now estimate ctx d.quota with
      | (r, ctx, quota) =>
        (.quota r, { d with quota := quota, contexts := d.contexts.set place ctx })
  | .release place => match d.contexts[place]? with
    | none => (.done, d)
    | some ctx => match Quota.release config ctx d.quota.counters with
      | (job, ctx, counters) =>
        (.released job,
          ⟨{ d.quota with counters := counters }, d.contexts.set place ctx,
            d.waiting ++ job.toList⟩)
  | .charge place delta => match d.contexts[place]? with
    | none => (.done, d)
    | some ctx => match Quota.charge config delta ctx d.quota.store with
      | (r, store) => (.quota r, { d with quota := { d.quota with store := store } })
  | .work k => match d.waiting[k]? with
    | none => (.done, d)
    | some job =>
      (.done,
        { d with
          quota := (Gateway.runJob Http.unreachable job d.quota ()).1
          waiting := d.waiting.eraseIdx k })
  | .ledgerReserve user now amount =>
    match Subscription.reserve user now amount d.quota.store with
    | (r, store) => (.selection r, { d with quota := { d.quota with store := store } })
  | .ledgerAdjust user selection delta =>
    match Subscription.adjust user selection delta d.quota.store with
    | (r, store) => (.ledger r, { d with quota := { d.quota with store := store } })
  | .resetUser user now => match Subscription.resetUser user now d.quota.store with
    | (r, store) => (.reset r, { d with quota := { d.quota with store := store } })
  | .resetAll group now => match Subscription.resetAll group now d.quota.store with
    | (r, store) => (.resets r, { d with quota := { d.quota with store := store } })

/-- The desk after a call. -/
def after [UserStore σ] (config : QuotaConfig) (d : Desk σ) (call : Call) : Desk σ :=
  (d.step config call).2

/-- What is seen after each of the calls. -/
def trace [UserStore σ] [StoreAdmin σ] (config : QuotaConfig) : List Call → Desk σ → List Report
  | [], _ => []
  | call :: rest, d =>
    match d.step config call with
    | (answer, d') =>
      ⟨answer, d'.contexts, d'.waiting, d'.quota.counters, books d'.quota.store⟩ ::
        trace config rest d'

/-- The charges that a call makes stay within signed 64-bit words. -/
def Exact [StoreAdmin σ] (config : QuotaConfig) (d : Desk σ) : Call → Prop
  | .charge place delta => ∀ ctx, d.contexts[place]? = some ctx →
    Quota.usesSubscription config ctx = false → (books d.quota.store).Fits ctx.spender delta
  | .work k => ∀ who amount, d.waiting[k]? = some (.refundWallet who amount) →
    (books d.quota.store).Fits who (-amount)
  | _ => True

/-- A user with whom a store is loaded. -/
structure Newcomer where
  user : Int
  group : String
  balance : Int
  document : Option String

/-- A store with users and tokens put in. -/
def load [StoreAdmin σ] (users : List Newcomer) (tokens : List (Spender × Int)) (empty : σ) : σ :=
  tokens.foldl (fun s t => StoreAdmin.putToken t.1 t.2 s)
    (users.foldl (fun s u => StoreAdmin.putUser u.user u.group u.balance u.document s) empty)

/-- The desk with what a store in memory keeps of the tables. -/
def inMemory (d : Desk TableStore) : Desk MemoryStore := ⟨d.quota.inMemory, d.contexts, d.waiting⟩

variable {config : QuotaConfig} {d : Desk TableStore}

/-- A call does not tell the stores apart. -/
theorem step_inMemory {call : Call} (hexact : d.Exact config call) :
    d.inMemory.step config call = ((d.step config call).1, (d.after config call).inMemory) := by
  have hstore : d.inMemory.quota.store = d.quota.store.inMemory := rfl
  have hquota : d.inMemory.quota = d.quota.inMemory := rfl
  have hcontexts : d.inMemory.contexts = d.contexts := rfl
  unfold after
  cases call with
  | reserve place now estimate =>
    simp only [step, hcontexts]
    cases hctx : d.contexts[place]? with
    | none => rfl
    | some ctx =>
      simp only [hquota, Quota.reserve_inMemory]
      rfl
  | release place =>
    simp only [step, hcontexts]
    cases hctx : d.contexts[place]? with
    | none => rfl
    | some ctx => rfl
  | charge place delta =>
    simp only [step, hcontexts]
    cases hctx : d.contexts[place]? with
    | none => rfl
    | some ctx =>
      simp only [hstore, Quota.charge_inMemory (hexact ctx hctx)]
      rfl
  | work k =>
    have hwaiting : d.inMemory.waiting = d.waiting := rfl
    simp only [step, hwaiting]
    cases hjob : d.waiting[k]? with
    | none => rfl
    | some job =>
      have hfits : ∀ who amount, job = .refundWallet who amount →
          (books d.quota.store).Fits who (-amount) := by
        intro who amount hrefund
        subst hrefund
        exact hexact who amount hjob
      simp only [hquota, Gateway.runJob_inMemory hfits]
      rfl
  | ledgerReserve user now amount =>
    simp only [step, hstore, Subscription.reserve_inMemory]
    rfl
  | ledgerAdjust user selection delta =>
    simp only [step, hstore, Subscription.adjust_inMemory]
    rfl
  | resetUser user now =>
    simp only [step, hstore, Subscription.resetUser_inMemory]
    rfl
  | resetAll group now =>
    simp only [step, hstore, Subscription.resetAll_inMemory]
    rfl

theorem load_inMemory (users : List Newcomer) (tokens : List (Spender × Int)) (t : TableStore) :
    (load users tokens t).inMemory = load users tokens t.inMemory := by
  have husers : ∀ t : TableStore,
      (users.foldl (fun s u => StoreAdmin.putUser u.user u.group u.balance u.document s)
        t).inMemory =
      users.foldl (fun s u => StoreAdmin.putUser u.user u.group u.balance u.document s)
        t.inMemory := by
    induction users with
    | nil => exact fun _ => rfl
    | cons u rest ih =>
      intro t
      simp only [List.foldl_cons, TableStore.putUser_inMemory]
      exact ih _
  have htokens : ∀ t : TableStore,
      (tokens.foldl (fun s r => StoreAdmin.putToken r.1 r.2 s) t).inMemory =
      tokens.foldl (fun s r => StoreAdmin.putToken r.1 r.2 s) t.inMemory := by
    induction tokens with
    | nil => exact fun _ => rfl
    | cons r rest ih =>
      intro t
      simp only [List.foldl_cons, TableStore.putToken_inMemory]
      exact ih _
  unfold load
  rw [htokens, husers]

theorem run_inMemory : ∀ {calls : List Call} {d : Desk TableStore},
    Run.Along (after config) (Exact config) calls d →
    calls.foldl (after config) d.inMemory = (calls.foldl (after config) d).inMemory
  | [], _, _ => rfl
  | call :: rest, d, h => by
    have hafter : d.inMemory.after config call = (d.after config call).inMemory :=
      congrArg Prod.snd (step_inMemory h.1)
    rw [List.foldl_cons, List.foldl_cons, hafter]
    exact run_inMemory h.2

theorem trace_inMemory : ∀ {calls : List Call} {d : Desk TableStore},
    Run.Along (after config) (Exact config) calls d →
    trace config calls d.inMemory = trace config calls d
  | [], _, _ => rfl
  | call :: rest, d, h => by
    have hrest := trace_inMemory h.2
    have hbooks := TableStore.books_inMemory (d.after config call).quota.store
    simp only [trace, step_inMemory h.1]
    unfold after at hrest hbooks ⊢
    rw [hrest]
    congr 2

/-- A desk before the first call. -/
def opened (s : σ) (contexts : List Context) : Desk σ := { quota := ⟨s, {}⟩, contexts := contexts }

/-- The two stores are interchangeable.  Loaded with the same users and tokens and given the same
calls, whatever the contexts, they show the same after every call: results, contexts, work left to
the background, counters, balances, documents and what is left of the tokens.  At the end, as in
every state on the way, a debit of a positive amount from an existing user has the same outcome
with both, and a debit that fails leaves both counters as they were. -/
theorem trace_load {users : List Newcomer} {tokens : List (Spender × Int)}
    {contexts : List Context} {calls : List Call}
    (hexact : Run.Along (after config) (Exact config) calls
      (opened (load users tokens ({} : TableStore)) contexts)) :
    let memory := opened (load users tokens ({} : MemoryStore)) contexts
    let tables := opened (load users tokens ({} : TableStore)) contexts
    trace config calls memory = trace config calls tables ∧
    let m := (calls.foldl (after config) memory).quota.store
    let t := (calls.foldl (after config) tables).quota.store
    books m = books t ∧
    (∀ who amount, 0 < amount → ((books t).account who.user).isSome →
      (UserStore.debit who amount m).1 = (UserStore.debit who amount t).1 ∧
        books (UserStore.debit who amount m).2 = books (UserStore.debit who amount t).2) ∧
    (∀ who amount e m', UserStore.debit who amount m = (.error e, m') → books m' = books m) ∧
    ∀ who amount e t', UserStore.debit who amount t = (.error e, t') → books t' = books t := by
  intro memory tables
  have hopened : memory = tables.inMemory := by
    show opened _ contexts = opened (load users tokens ({} : TableStore)).inMemory contexts
    rw [load_inMemory]
    rfl
  rw [hopened]
  refine ⟨trace_inMemory hexact, ?_⟩
  intro m t
  have hm : m = t.inMemory := congrArg (fun d => d.quota.store) (run_inMemory hexact)
  rw [hm]
  refine ⟨TableStore.books_inMemory t, ?_, ?_, ?_⟩
  · intro who amount hpos hknown
    rw [TableStore.debit_inMemory hpos hknown]
    exact ⟨rfl, TableStore.books_inMemory _⟩
  · intro who amount e m' h
    exact FramedStore.debit_error h
  · intro who amount e t' h
    exact FramedStore.debit_error h

/-- One user with a wallet of 100 and a token of 80, and one without anything. -/
def fewUsers : List Newcomer := [⟨7, "default", 100, none⟩, ⟨8, "subscription", 0, some ""⟩]

def fewTokens : List (Spender × Int) := [(⟨7, 3, false⟩, 80)]

/-- The contexts of a user who is there and of one who is not. -/
def fewContexts : List Context :=
  [{ user := 7, token := 3, tokenQuota := 80 }, { user := 9, token := 4 }]

/-- The second reservation finds the token short; the first is charged and given back. -/
def fewCalls : List Call :=
  [.reserve 0 0 40, .reserve 0 0 50, .charge 0 5, .release 0, .work 0, .reserve 1 0 10,
    .charge 1 10, .ledgerReserve 8 0 10, .resetAll "default" 0]

theorem exact_fewCalls :
    Run.Along (after {}) (Exact {}) fewCalls
      (opened (load fewUsers fewTokens ({} : TableStore)) fewContexts) := by
  refine ⟨trivial, trivial, ?_, trivial, ?_, trivial, ?_, trivial, trivial, trivial⟩
  · intro ctx hctx _
    cases hctx
    exact .of_known (by decide) rfl rfl (by decide) (by decide)
  · intro who amount hjob
    cases hjob
    exact .of_known (by decide) rfl rfl (by decide) (by decide)
  · intro ctx hctx _
    cases hctx
    exact ⟨by decide, nofun, fun _ => nofun⟩

theorem trace_load_few :
    trace {} fewCalls (opened (load fewUsers fewTokens ({} : MemoryStore)) fewContexts) =
      trace {} fewCalls (opened (load fewUsers fewTokens ({} : TableStore)) fewContexts) ∧
    (books (fewCalls.foldl (after {}) (opened (load fewUsers fewTokens ({} : MemoryStore))
      fewContexts)).quota.store).account 7 = some (95, "") := by
  obtain ⟨htrace, hbooks, -⟩ := trace_load exact_fewCalls
  exact ⟨htrace, by rw [hbooks]; rfl⟩

end Desk

end Turnstile
