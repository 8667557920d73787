import Mathlib.Data.List.Nodup
import Turnstile.Dispatch.Selection

/-!
# What a selection asks, and what comes of it

Nothing is assumed of who answers: an answer may propose a channel again that the question
excludes, or one that nobody knows, and when it comes others may have worked on the registry.
Whatever the answers are, a selection is a sequence of visits to groups (`Visit`), and a visit a
sequence of questions. A visit goes on while it is proposed channels that are disabled, at most
eight times, and each question excludes what was skipped in the same visit before.

Questions and checks leave a state of their own behind, so the account of a selection says that
its questions, put one after the other (`putAll`), get just the answers in its visits and leave
what the selection leaves.

* `Visit.Proper` — a visit as it should be;
* `Outcome` — what a selection comes to, by how its visits ended;
* `selectFrom_course` — the questions about one group;
* `select_visits` — the selection as a whole.
-/

set_option autoImplicit false

namespace Turnstile

namespace DispatchConfig

/-- A user of the user group may fall back to the group: there is no rule under the name of the user
group, trimmed, or the first one there lists the group. -/
def permits (config : DispatchConfig) (userGroup group : String) : Bool :=
  match config.permitted.lookup (Text.trim userGroup) with
  | none => true
  | some allowed => allowed.any fun a => Text.trim a == Text.trim group

theorem permittedFor?_eq (config : DispatchConfig) (userGroup : String) :
    config.permittedFor? userGroup = config.permitted.lookup (Text.trim userGroup) := by
  unfold permittedFor?
  induction config.permitted with
  | nil => rfl
  | cons rule rules ih =>
    obtain ⟨name, allowed⟩ := rule
    rw [List.find?_cons, List.lookup_cons, BEq.comm (a := Text.trim userGroup)]
    cases name == Text.trim userGroup with
    | true => rfl
    | false => exact ih

theorem autoGroupsFor_eq (config : DispatchConfig) (userGroup : String) :
    config.autoGroupsFor userGroup = config.autoGroups.filter (config.permits userGroup) := by
  unfold autoGroupsFor
  rw [permittedFor?_eq]
  cases hrule : config.permitted.lookup (Text.trim userGroup) with
  | none =>
    refine (List.filter_eq_self.mpr fun g _ => ?_).symm
    unfold permits
    rw [hrule]
  | some allowed =>
    refine List.filter_congr fun g _ => ?_
    unfold permits
    rw [hrule]

end DispatchConfig

namespace Dispatch

variable {κ : Type}

/-! ## Questions and answers -/

/-- A question, its answer, and what the registry said of the channel that was proposed. -/
structure Exchange where
  query : Query
  answer : Proposal
  found : Option Disabled

/-- Puts a question, and asks the registry about the channel that is proposed. -/
def put (around : Surroundings κ) (q : Query) (s : State κ) : Exchange × State κ :=
  match around.ask q s with
  | (.channel c, s) => match s.registry.info (around.clock s) c.id with
    | (found, registry) => (⟨q, .channel c, found⟩, { s with registry := registry })
  | (p, s) => (⟨q, p, none⟩, s)

/-- Puts questions one after the other. -/
def putAll (around : Surroundings κ) : List Query → State κ → List Exchange × State κ
  | [], s => ([], s)
  | q :: qs, s => match put around q s with
    | (x, s) => match putAll around qs s with
      | (xs, s) => (x :: xs, s)

section Put

variable {around : Surroundings κ} {q : Query} {qs qs' : List Query} {x : Exchange}
  {xs xs' : List Exchange} {s s' s'' : State κ}

theorem put_channel {c : Channel} {found : Option Disabled} {registry : Registry}
    (hask : around.ask q s = (.channel c, s'))
    (hinfo : s'.registry.info (around.clock s') c.id = (found, registry)) :
    put around q s = (⟨q, .channel c, found⟩, { s' with registry := registry }) := by
  unfold put
  rw [hask]
  dsimp only
  rw [hinfo]

theorem put_other {p : Proposal} (hask : around.ask q s = (p, s')) (hp : ∀ c, p ≠ .channel c) :
    put around q s = (⟨q, p, none⟩, s') := by
  unfold put
  rw [hask]
  cases p with
  | channel c => exact absurd rfl (hp c)
  | nothing => rfl
  | allFiltered => rfl
  | failed _ => rfl

theorem putAll_cons (h : put around q s = (x, s')) (h' : putAll around qs s' = (xs, s'')) :
    putAll around (q :: qs) s = (x :: xs, s'') := by
  unfold putAll
  rw [h]
  dsimp only
  rw [h']

theorem putAll_append (h : putAll around qs s = (xs, s')) (h' : putAll around qs' s' = (xs', s'')) :
    putAll around (qs ++ qs') s = (xs ++ xs', s'') := by
  induction qs generalizing xs s with
  | nil =>
    cases h
    exact h'
  | cons q qs ih =>
    unfold putAll at h
    cases h
    exact putAll_cons rfl (ih rfl)

end Put

/-- The channel was proposed and is skipped, since the registry has it disabled. -/
def Exchange.Skips (x : Exchange) (c : Channel) : Prop := x.answer = .channel c ∧ x.found ≠ none

/-- An exchange skips one channel at most. -/
theorem Exchange.Skips.iff_eq {x : Exchange} {c c' : Channel} (h : x.Skips c) :
    x.Skips c' ↔ c' = c := by
  constructor
  · rintro ⟨hanswer, -⟩
    exact Proposal.channel.inj (hanswer.symm.trans h.1)
  · rintro rfl
    exact h

/-! ## Visits -/

/-- How a visit of a group ends. -/
inductive Ending where
  | found (c : Channel)
  /-- No channel is configured. -/
  | nothing
  /-- All channels are disabled, or as many as a visit tries. -/
  | allDisabled
  | failed (reason : String)

/-- The next group may be tried. -/
def Ending.GoesOn : Ending → Prop
  | .found _ => False
  | .nothing => True
  | .allDisabled => True
  | .failed _ => False

/-- What one group answers by. -/
def Ending.result (group model : String) : Ending → Except DispatchError (Option Channel)
  | .found c => .ok (some c)
  | .nothing => .ok none
  | .allDisabled => .error (.allDisabled group model)
  | .failed reason => .error (.satisfier reason)

/-- The exchange ends the visit: nothing was proposed, or a channel that is not disabled. -/
def Exchange.Ends (x : Exchange) : Ending → Prop
  | .found c => x.answer = .channel c ∧ x.found = none
  | .nothing => x.answer = .nothing
  | .allDisabled => x.answer = .allFiltered
  | .failed reason => x.answer = .failed reason

/-- The questions to a satisfier about one group. -/
structure Visit where
  group : String
  exchanges : List Exchange
  ending : Ending

/-- The questions of a visit. -/
def Visit.queries (v : Visit) : List Query := v.exchanges.map Exchange.query

/-- What `attempts` questions at most about a group come to, where some channels are excluded from
the first. -/
structure Course (group model : String) (retry attempts : Nat) (excluded : List Int)
    (xs : List Exchange) (ending : Ending) : Prop where
  questions : ∀ k x, xs[k]? = some x → ∃ ids, x.query = ⟨group, model, retry, ids⟩ ∧ ids.Nodup ∧
    ∀ id, id ∈ ids ↔ id ∈ excluded ∨ ∃ y ∈ xs.take k, ∃ c, y.Skips c ∧ c.id = id
  count : xs.length ≤ attempts
  ends : (∃ skipped last, xs = skipped ++ [last] ∧ (∀ x ∈ skipped, ∃ c, x.Skips c) ∧
      last.Ends ending) ∨
    (xs.length = attempts ∧ (∀ x ∈ xs, ∃ c, x.Skips c) ∧ ending = .allDisabled)

/-- A visit as it should be. Every question is about the group, and excludes the channels skipped in
the visit so far and no others. Channels are skipped up to the last question, which ends the visit;
a visit without such a question ends after eight. -/
structure Visit.Proper (model : String) (retry : Nat) (v : Visit) : Prop where
  questions : ∀ k x, v.exchanges[k]? = some x → ∃ ids, x.query = ⟨v.group, model, retry, ids⟩ ∧
    ids.Nodup ∧ ∀ id, id ∈ ids ↔ ∃ y ∈ v.exchanges.take k, ∃ c, y.Skips c ∧ c.id = id
  count : v.exchanges.length ≤ 8
  ends : (∃ skipped last, v.exchanges = skipped ++ [last] ∧ (∀ x ∈ skipped, ∃ c, x.Skips c) ∧
      last.Ends v.ending) ∨
    (v.exchanges.length = 8 ∧ (∀ x ∈ v.exchanges, ∃ c, x.Skips c) ∧ v.ending = .allDisabled)

namespace Course

variable {group model : String} {retry attempts : Nat} {excluded : List Int} {xs : List Exchange}
  {x : Exchange} {ending : Ending} {c : Channel}

theorem exhausted : Course group model retry 0 excluded [] .allDisabled :=
  ⟨nofun, Nat.le_refl 0, .inr ⟨rfl, nofun, rfl⟩⟩

theorem ended (hquery : x.query = ⟨group, model, retry, excluded⟩) (hnodup : excluded.Nodup)
    (hends : x.Ends ending) : Course group model retry (attempts + 1) excluded [x] ending := by
  refine ⟨fun k y hy => ?_, by simp, .inl ⟨[], x, rfl, nofun, hends⟩⟩
  cases k with
  | zero =>
    obtain rfl : x = y := Option.some.inj hy
    exact ⟨excluded, hquery, hnodup, by simp⟩
  | succ k => cases hy

theorem skipped (hquery : x.query = ⟨group, model, retry, excluded⟩) (hnodup : excluded.Nodup)
    (hskips : x.Skips c)
    (hrest : Course group model retry attempts (excluded.insert c.id) xs ending) :
    Course group model retry (attempts + 1) excluded (x :: xs) ending := by
  have hfirst : ∃ c, x.Skips c := ⟨c, hskips⟩
  refine ⟨fun k y hy => ?_, Nat.succ_le_succ hrest.count, ?_⟩
  · cases k with
    | zero =>
      obtain rfl : x = y := Option.some.inj hy
      exact ⟨excluded, hquery, hnodup, by simp⟩
    | succ k =>
      obtain ⟨ids, hids, hdistinct, hmem⟩ := hrest.questions k y hy
      refine ⟨ids, hids, hdistinct, fun id => ?_⟩
      rw [hmem, List.mem_insert_iff, List.take_succ_cons]
      simp only [List.mem_cons, exists_eq_or_imp, hskips.iff_eq, exists_eq_left]
      tauto
  · rcases hrest.ends with ⟨skipped, last, rfl, hskipped, hlast⟩ | ⟨hlength, hskipped, hending⟩
    · exact .inl ⟨x :: skipped, last, rfl, List.forall_mem_cons.mpr ⟨hfirst, hskipped⟩, hlast⟩
    · exact .inr ⟨congrArg Nat.succ hlength, List.forall_mem_cons.mpr ⟨hfirst, hskipped⟩, hending⟩

theorem proper (h : Course group model retry maxAttempts [] xs ending) :
    Visit.Proper model retry ⟨group, xs, ending⟩ := by
  refine ⟨fun k x hx => ?_, h.count, h.ends⟩
  obtain ⟨ids, hids, hdistinct, hmem⟩ := h.questions k x hx
  exact ⟨ids, hids, hdistinct, by simpa using hmem⟩

end Course

/-- Whatever is answered, selecting for one group takes such a course. -/
theorem selectFrom_course (around : Surroundings κ) (group model : String) (retry attempts : Nat)
    {excluded : List Int} (hnodup : excluded.Nodup) (s : State κ) :
    ∃ xs ending, Course group model retry attempts excluded xs ending ∧
      (selectFrom around group model retry attempts excluded s).1 = ending.result group model ∧
      putAll around (xs.map Exchange.query) s =
        (xs, (selectFrom around group model retry attempts excluded s).2) := by
  induction attempts generalizing excluded s with
  | zero => exact ⟨[], .allDisabled, .exhausted, rfl, rfl⟩
  | succ attempts ih =>
    unfold selectFrom
    split
    · rename_i s' hask
      have hput := put_other hask nofun
      exact ⟨[⟨_, _, _⟩], .nothing, .ended rfl hnodup (by rfl), rfl, putAll_cons hput rfl⟩
    · rename_i s' hask
      have hput := put_other hask nofun
      exact ⟨[⟨_, _, _⟩], .allDisabled, .ended rfl hnodup (by rfl), rfl, putAll_cons hput rfl⟩
    · rename_i reason s' hask
      have hput := put_other hask nofun
      exact ⟨[⟨_, _, _⟩], .failed reason, .ended rfl hnodup (by rfl), rfl, putAll_cons hput rfl⟩
    · rename_i c s' hask
      split
      · rename_i registry hinfo
        have hput := put_channel hask hinfo
        exact ⟨[⟨_, _, _⟩], .found c, .ended rfl hnodup (by exact ⟨rfl, rfl⟩), rfl,
          putAll_cons hput rfl⟩
      · rename_i d registry hinfo
        have hput := put_channel hask hinfo
        obtain ⟨xs, ending, hcourse, hresult, hstate⟩ :=
          ih (List.Nodup.insert hnodup) { s' with registry := registry }
        exact ⟨⟨_, _, _⟩ :: xs, ending, .skipped rfl hnodup (by exact ⟨rfl, nofun⟩) hcourse,
          hresult, putAll_cons hput hstate⟩

theorem selectIn_visit (around : Surroundings κ) (group model : String) (retry : Nat)
    (s : State κ) :
    ∃ v : Visit, v.group = group ∧ v.Proper model retry ∧
      (selectIn around group model retry s).1 = v.ending.result group model ∧
      putAll around v.queries s = (v.exchanges, (selectIn around group model retry s).2) := by
  obtain ⟨xs, ending, hcourse, hresult, hstate⟩ :=
    selectFrom_course around group model retry maxAttempts List.nodup_nil s
  exact ⟨⟨group, xs, ending⟩, rfl, hcourse.proper, hresult, hstate⟩

/-! ## One group after the other -/

/-- Visits to some of the groups, from the first on and in order, that find `s` and leave `s'`. The
next group is visited where the last had no channel or disabled ones only. -/
structure Journey (around : Surroundings κ) (groups : List String) (model : String) (retry : Nat)
    (s s' : State κ) (visits : List Visit) : Prop where
  replay : putAll around (visits.flatMap Visit.queries) s = (visits.flatMap Visit.exchanges, s')
  proper : ∀ v ∈ visits, v.Proper model retry
  order : visits.map Visit.group <+: groups
  onward : ∀ v ∈ visits.dropLast, v.ending.GoesOn
  complete : (∀ v ∈ visits, v.ending.GoesOn) → visits.map Visit.group = groups

/-- What a selection comes to. The last visit decides it if it found a channel or failed. Otherwise it
is the last visit that met disabled channels only, or, if there is none, `otherwise`. -/
inductive Outcome (otherwise : Except DispatchError Selected) (model : String)
    (visits : List Visit) : Except DispatchError Selected → Prop
  | found {before v c} (hlast : visits = before ++ [v]) (h : v.ending = .found c) :
    Outcome otherwise model visits (.ok ⟨some c, v.group⟩)
  | failed {before v reason} (hlast : visits = before ++ [v]) (h : v.ending = .failed reason) :
    Outcome otherwise model visits (.error (.satisfier reason))
  | allDisabled {before v behind} (hvisits : visits = before ++ v :: behind)
    (h : v.ending = .allDisabled) (hbehind : ∀ w ∈ behind, w.ending = .nothing) :
    Outcome otherwise model visits (.error (.allDisabled v.group model))
  | nothing (h : ∀ v ∈ visits, v.ending = .nothing) : Outcome otherwise model visits otherwise

section Journey

variable {around : Surroundings κ} {g model : String} {gs : List String} {retry : Nat}
  {s s' s'' : State κ} {v : Visit} {visits : List Visit}
  {otherwise r : Except DispatchError Selected}

theorem Journey.nil : Journey around [] model retry s s [] :=
  ⟨rfl, nofun, List.nil_prefix, nofun, fun _ => rfl⟩

/-- The first visit is the last one. -/
theorem Journey.halt (hproper : v.Proper model retry)
    (hstate : putAll around v.queries s = (v.exchanges, s')) (h : ¬ v.ending.GoesOn) :
    Journey around (v.group :: gs) model retry s s' [v] where
  replay := by
    rw [List.flatMap_singleton, List.flatMap_singleton]
    exact hstate
  proper := List.forall_mem_singleton.mpr hproper
  order := ⟨gs, rfl⟩
  onward := nofun
  complete hall := absurd (hall v (List.mem_singleton_self v)) h

theorem Journey.cons (hproper : v.Proper model retry)
    (hstate : putAll around v.queries s = (v.exchanges, s')) (h : v.ending.GoesOn)
    (hrest : Journey around gs model retry s' s'' visits) :
    Journey around (v.group :: gs) model retry s s'' (v :: visits) where
  replay := by
    rw [List.flatMap_cons, List.flatMap_cons]
    exact putAll_append hstate hrest.replay
  proper := List.forall_mem_cons.mpr ⟨hproper, hrest.proper⟩
  order := (List.prefix_cons_inj v.group).mpr hrest.order
  onward w hw := by
    cases visits with
    | nil => cases hw
    | cons w' visits =>
      rcases List.mem_cons.mp hw with rfl | hw
      · exact h
      · exact hrest.onward w hw
  complete hall := congrArg (v.group :: ·) (hrest.complete (List.forall_mem_cons.mp hall).2)

/-- Where there is one group, it is visited whatever comes of it. -/
theorem Journey.alone (hproper : v.Proper model retry)
    (hstate : putAll around v.queries s = (v.exchanges, s')) :
    Journey around [v.group] model retry s s' [v] := by
  by_cases h : v.ending.GoesOn
  · exact .cons hproper hstate h .nil
  · exact .halt hproper hstate h

/-- One more visit at the front matters only where all others had no channel. -/
theorem Outcome.cons {otherwise' : Except DispatchError Selected}
    (hrest : Outcome otherwise' model visits r)
    (hnothing : (∀ w ∈ visits, w.ending = .nothing) →
      Outcome otherwise model (v :: visits) otherwise') :
    Outcome otherwise model (v :: visits) r := by
  cases hrest with
  | found hlast hfound =>
    subst hlast
    exact .found List.cons_append.symm hfound
  | failed hlast hfailed =>
    subst hlast
    exact .failed List.cons_append.symm hfailed
  | allDisabled hvisits hdisabled hbehind =>
    subst hvisits
    exact .allDisabled List.cons_append.symm hdisabled hbehind
  | nothing h => exact hnothing h

theorem Outcome.cons_nothing (h : v.ending = .nothing) (hrest : Outcome otherwise model visits r) :
    Outcome otherwise model (v :: visits) r :=
  hrest.cons fun hnothing => .nothing (List.forall_mem_cons.mpr ⟨h, hnothing⟩)

theorem Outcome.cons_allDisabled (h : v.ending = .allDisabled)
    (hrest : Outcome (.error (.allDisabled v.group model)) model visits r) :
    Outcome otherwise model (v :: visits) r :=
  hrest.cons fun hnothing => .allDisabled (List.nil_append (v :: visits)).symm h hnothing

end Journey

theorem selectAmong_journey (around : Surroundings κ) (model : String) (retry : Nat)
    (groups : List String) (disabled : Option DispatchError) (s : State κ) :
    ∃ visits,
      Journey around groups model retry s (selectAmong around model retry groups disabled s).2
        visits ∧
      Outcome (disabled.elim (.ok ⟨none, autoGroup⟩) .error) model visits
        (selectAmong around model retry groups disabled s).1 := by
  induction groups generalizing disabled s with
  | nil => cases disabled <;> exact ⟨[], .nil, .nothing nofun⟩
  | cons g gs ih =>
    obtain ⟨v, rfl, hproper, hresult, hstate⟩ := selectIn_visit around g model retry s
    unfold selectAmong
    generalize selectIn around v.group model retry s = answer at hresult hstate
    obtain ⟨result, s'⟩ := answer
    obtain rfl : result = _ := hresult
    cases hending : v.ending with
    | found c =>
      refine ⟨[v], .halt hproper hstate ?_, .found (List.nil_append [v]).symm hending⟩
      rw [hending]
      exact id
    | nothing =>
      obtain ⟨visits, hjourney, houtcome⟩ := ih disabled s'
      refine ⟨v :: visits, .cons hproper hstate ?_ hjourney, houtcome.cons_nothing hending⟩
      rw [hending]
      trivial
    | allDisabled =>
      obtain ⟨visits, hjourney, houtcome⟩ := ih (some (.allDisabled v.group model)) s'
      refine ⟨v :: visits, .cons hproper hstate ?_ hjourney, houtcome.cons_allDisabled hending⟩
      rw [hending]
      trivial
    | failed reason =>
      refine ⟨[v], .halt hproper hstate ?_, .failed (List.nil_append [v]).symm hending⟩
      rw [hending]
      exact id

/-- Whoever answers, a selection asks about the group that it is given, or, if this is `auto`, about
the groups configured for it that the user may fall back to; by visits that are as they should be,
to the next group only where the last had no channel or disabled ones only; and what comes of it is
what the visits came to. -/
theorem select_visits (config : DispatchConfig) (around : Surroundings κ)
    (userGroup group model : String) (retry : Nat) (s : State κ) :
    (group = "auto" → config.autoGroups = [] →
      select config around userGroup group model retry s = (.error .autoGroupsDisabled, s)) ∧
    (¬ (group = "auto" ∧ config.autoGroups = []) → ∃ visits,
      Journey around
        (if group = "auto" then config.autoGroups.filter (config.permits userGroup) else [group])
        model retry s (select config around userGroup group model retry s).2 visits ∧
      Outcome (.ok ⟨none, group⟩) model visits
        (select config around userGroup group model retry s).1) := by
  unfold select autoGroup
  constructor
  · intro hgroup hnone
    rw [if_pos hgroup, hnone]
    rfl
  · intro hsome
    by_cases hgroup : group = "auto"
    · have hnone : ¬ config.autoGroups.isEmpty := fun hnone =>
        hsome ⟨hgroup, List.isEmpty_iff.mp hnone⟩
      rw [if_pos hgroup, if_pos hgroup, if_neg hnone, hgroup, ← config.autoGroupsFor_eq]
      exact selectAmong_journey around model retry (config.autoGroupsFor userGroup) none s
    · rw [if_neg hgroup, if_neg hgroup]
      obtain ⟨v, rfl, hproper, hresult, hstate⟩ := selectIn_visit around group model retry s
      generalize selectIn around v.group model retry s = answer at hresult hstate
      obtain ⟨result, s'⟩ := answer
      obtain rfl : result = _ := hresult
      refine ⟨[v], .alone hproper ?_, ?_⟩
      · cases hending : v.ending <;> exact hstate
      · cases hending : v.ending with
        | found c => exact .found (List.nil_append [v]).symm hending
        | nothing => exact .nothing (List.forall_mem_singleton.mpr hending)
        | allDisabled => exact .allDisabled (List.nil_append [v]).symm hending nofun
        | failed reason => exact .failed (List.nil_append [v]).symm hending

/-- A satisfier that proposes a disabled channel a second time is asked for the next group. -/
theorem select_visits_second_group :
    let slow : Channel := ⟨1, "slow", "eu", ["m"], "k"⟩
    let fast : Channel := ⟨2, "fast", "us", ["m"], "k"⟩
    let script : List Proposal := [.channel slow, .channel slow, .allFiltered, .channel fast]
    let s : State (List Proposal) := ⟨script, [(1, ⟨5000, "timeouts"⟩)]⟩
    let answer := select ⟨["eu", "us"], []⟩ (.still fromScript 1000) "default" "auto" "m" 0 s
    answer.1 = .ok ⟨some fast, "us"⟩ ∧ answer.2.satisfier = [] ∧
      ∃ visits, Journey (.still fromScript 1000)
          (["eu", "us"].filter (DispatchConfig.permits ⟨["eu", "us"], []⟩ "default")) "m" 0 s
          answer.2 visits ∧
        Outcome (.ok ⟨none, "auto"⟩) "m" visits answer.1 :=
  ⟨by decide, by decide, (select_visits ⟨["eu", "us"], []⟩ _ _ "auto" _ _ _).2 (by decide)⟩

end Dispatch

end Turnstile
