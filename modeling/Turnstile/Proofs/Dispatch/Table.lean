import Mathlib.Data.Finset.Card
import Turnstile.Proofs.Dispatch.Registry
import Turnstile.Proofs.Dispatch.Selection

/-!
# Selecting from a table

A table proposes the first channel that serves and is not excluded, and a selection excludes what
it was proposed and found disabled.  So the proposals walk down the channels that serve, each
question past all channels with the number of one that was skipped, and the walk ends at the first
channel that is not disabled, unless more numbers stand before it than there are questions.

* `selectFrom_fromTable` — the walk, from any channels that are excluded;
* `select_fromTable` — the answer of a selection.
-/

set_option autoImplicit false

namespace Turnstile

/-- The channel is disabled. -/
def Registry.down (now : Nat) (r : Registry) (c : Channel) : Bool := (r.shown now c.id).isSome

/-- The numbers of the channels that stand before the first one that is not disabled. -/
def Registry.downFirst (now : Nat) (r : Registry) (channels : List Channel) : Finset Int :=
  ((channels.takeWhile (r.down now)).map Channel.id).toFinset

/-- A disabled channel is found so, and the registry is not touched. -/
theorem Registry.info_of_down {now : Nat} {r : Registry} {c : Channel} (h : r.down now c = true) :
    ∃ d, r.info now c.id = (some d, r) := by
  obtain ⟨d, hd⟩ := Option.isSome_iff_exists.mp h
  obtain ⟨hfind, hlive⟩ := shown_eq_some_iff.mp hd
  refine ⟨d, ?_⟩
  simp [info, look, hfind, hlive]

theorem Registry.info_of_up {now : Nat} {r : Registry} {c : Channel} (h : r.down now c = false) :
    ∃ r', r.info now c.id = (none, r') := by
  have hfound : (r.info now c.id).1 = none := by
    rw [info_fst]
    exact Option.isNone_iff_eq_none.mp (by simpa [down] using h)
  exact ⟨_, Prod.ext hfound rfl⟩

/-- The channels that serve, in the order of the table. -/
def servingChannels (channels : List Channel) (group model : String) : List Channel :=
  channels.filter (·.serves group model)

namespace Dispatch

variable {κ : Type} {channels candidates : List Channel} {group model : String} {retry now : Nat}
  {excluded : List Int} {r : Registry} {c : Channel}

theorem ask_table_nothing (h : servingChannels channels group model = []) (k : κ) :
    (Surroundings.still (fromTable channels) now).ask ⟨group, model, retry, excluded⟩ ⟨k, r⟩ =
      (.nothing, ⟨k, r⟩) := by
  unfold servingChannels at h
  simp [Surroundings.still, fromTable, h]

theorem ask_table (h : servingChannels channels group model ≠ []) (retry now : Nat)
    (excluded : List Int) (r : Registry) (k : κ) :
    (Surroundings.still (fromTable channels) now).ask ⟨group, model, retry, excluded⟩ ⟨k, r⟩ =
      (match (servingChannels channels group model).find? fun c => !excluded.contains c.id with
        | some c => .channel c
        | none => .allFiltered, ⟨k, r⟩) := by
  unfold servingChannels at h ⊢
  simp only [Surroundings.still, fromTable]
  cases hserving : channels.filter (·.serves group model) with
  | nil => exact absurd hserving h
  | cons c cs => cases (c :: cs).find? fun c => !excluded.contains c.id <;> rfl

/-! ## One question -/

/-- Where all candidates are excluded, and only disabled ones are, there is no other. -/
theorem find?_of_excluded (hdown : ∀ c ∈ candidates, c.id ∈ excluded → r.down now c = true)
    (h : candidates.find? (fun c => !excluded.contains c.id) = none) :
    candidates.find? (fun c => !r.down now c) = none := by
  rw [List.find?_eq_none] at h ⊢
  intro c hc
  have hexcluded : c.id ∈ excluded := by simpa using h c hc
  simp [hdown c hc hexcluded]

/-- A proposal that is not disabled is the first such candidate, and nothing disabled is left
before it. -/
theorem find?_of_proposed (hdown : ∀ c ∈ candidates, c.id ∈ excluded → r.down now c = true)
    (h : candidates.find? (fun c => !excluded.contains c.id) = some c)
    (hup : r.down now c = false) :
    candidates.find? (fun c => !r.down now c) = some c ∧
      r.downFirst now candidates \ excluded.toFinset = ∅ := by
  obtain ⟨-, before, behind, rfl, hbefore⟩ := List.find?_eq_some_iff_append.mp h
  have hpassed : ∀ c' ∈ before, c'.id ∈ excluded := fun c' hc' => by simpa using hbefore c' hc'
  have hall : ∀ c' ∈ before, r.down now c' = true := fun c' hc' =>
    hdown c' (List.mem_append_left _ hc') (hpassed c' hc')
  constructor
  · have hnone : before.find? (fun c => !r.down now c) = none := by
      rw [List.find?_eq_none]
      intro c' hc'
      simp [hall c' hc']
    simp [List.find?_append, hnone, hup]
  · have htake : (before ++ c :: behind).takeWhile (r.down now) = before := by
      rw [List.takeWhile_append_of_pos hall]
      simp [hup]
    unfold Registry.downFirst
    rw [htake, Finset.sdiff_eq_empty_iff_subset]
    intro id hid
    simp only [List.mem_toFinset, List.mem_map] at hid ⊢
    obtain ⟨c', hc', rfl⟩ := hid
    exact hpassed c' hc'

/-- A proposal that is disabled stands before the first candidate that is not. -/
theorem mem_downFirst (hdown : ∀ c ∈ candidates, c.id ∈ excluded → r.down now c = true)
    (h : candidates.find? (fun c => !excluded.contains c.id) = some c)
    (hc : r.down now c = true) :
    c.id ∈ r.downFirst now candidates \ excluded.toFinset := by
  obtain ⟨hfree, before, behind, rfl, hbefore⟩ := List.find?_eq_some_iff_append.mp h
  have hall : ∀ c' ∈ before, r.down now c' = true := by
    intro c' hc'
    have hexcluded : c'.id ∈ excluded := by simpa using hbefore c' hc'
    exact hdown c' (List.mem_append_left _ hc') hexcluded
  unfold Registry.downFirst
  rw [List.takeWhile_append_of_pos hall]
  simp_all

/-! ## The walk -/

/-- How a walk down the candidates ends that has as many questions left. -/
def walkEnding (r : Registry) (now attempts : Nat) (excluded : List Int)
    (candidates : List Channel) : Ending :=
  match candidates.find? fun c => !r.down now c with
  | some c =>
    if (r.downFirst now candidates \ excluded.toFinset).card < attempts then .found c
    else .allDisabled
  | none => .allDisabled

theorem walkEnding_zero : walkEnding r now 0 excluded candidates = .allDisabled := by
  unfold walkEnding
  split <;> simp

/-- A selection excludes nothing at first, and asks eight times at most. -/
theorem walkEnding_start :
    walkEnding r now maxAttempts [] candidates =
      match candidates.find? fun c => !r.down now c with
      | some c => if (r.downFirst now candidates).card ≤ 7 then .found c else .allDisabled
      | none => .allDisabled := by
  unfold walkEnding maxAttempts
  simp only [List.toFinset_nil, Finset.sdiff_empty, Nat.lt_succ_iff]

/-- Nothing is left to be proposed. -/
theorem walkEnding_filtered (hdown : ∀ c ∈ candidates, c.id ∈ excluded → r.down now c = true)
    (h : candidates.find? (fun c => !excluded.contains c.id) = none) (attempts : Nat) :
    walkEnding r now attempts excluded candidates = .allDisabled := by
  unfold walkEnding
  rw [find?_of_excluded hdown h]

/-- The proposal can be had. -/
theorem walkEnding_found (hdown : ∀ c ∈ candidates, c.id ∈ excluded → r.down now c = true)
    (h : candidates.find? (fun c => !excluded.contains c.id) = some c)
    (hup : r.down now c = false) (attempts : Nat) :
    walkEnding r now (attempts + 1) excluded candidates = .found c := by
  obtain ⟨hfirst, hnone⟩ := find?_of_proposed hdown h hup
  unfold walkEnding
  rw [hfirst, hnone]
  simp

/-- The proposal is skipped: one question less, and one number less to get past. -/
theorem walkEnding_skipped (hdown : ∀ c ∈ candidates, c.id ∈ excluded → r.down now c = true)
    (h : candidates.find? (fun c => !excluded.contains c.id) = some c)
    (hc : r.down now c = true) (attempts : Nat) :
    walkEnding r now (attempts + 1) excluded candidates =
      walkEnding r now attempts (excluded.insert c.id) candidates := by
  have hmem := mem_downFirst hdown h hc
  have hinsert : (excluded.insert c.id).toFinset = insert c.id excluded.toFinset := by
    ext id
    simp
  have hcard : (r.downFirst now candidates \ excluded.toFinset).card =
      (r.downFirst now candidates \ (excluded.insert c.id).toFinset).card + 1 := by
    rw [hinsert, Finset.sdiff_insert, Finset.card_erase_add_one hmem]
  unfold walkEnding
  rw [hcard]
  simp

/-- Asking a table about a group and a model that some channels serve. -/
theorem selectFrom_fromTable (hserving : servingChannels channels group model ≠ [])
    (hdown : ∀ c ∈ servingChannels channels group model, c.id ∈ excluded → r.down now c = true)
    (attempts : Nat) (k : κ) :
    (selectFrom (.still (fromTable channels) now) group model retry attempts excluded ⟨k, r⟩).1 =
      (walkEnding r now attempts excluded (servingChannels channels group model)).result
        group model := by
  induction attempts generalizing excluded with
  | zero =>
    rw [walkEnding_zero]
    rfl
  | succ attempts ih =>
    have hask := ask_table hserving retry now excluded r k
    unfold selectFrom
    cases hfind : (servingChannels channels group model).find?
        fun c => !excluded.contains c.id with
    | none =>
      rw [hfind] at hask
      rw [hask, walkEnding_filtered hdown hfind]
      rfl
    | some c =>
      rw [hfind] at hask
      have hclock : ∀ s : State κ, (Surroundings.still (fromTable channels) now).clock s = now :=
        fun _ => rfl
      rw [hask]
      dsimp only
      rw [hclock]
      cases hc : r.down now c with
      | true =>
        obtain ⟨d, hinfo⟩ := Registry.info_of_down hc
        rw [walkEnding_skipped hdown hfind hc, hinfo]
        -- The clock stands still, so whatever has the number that is excluded now stays disabled.
        refine ih fun c' hc' hexcluded => ?_
        rcases List.mem_insert_iff.mp hexcluded with hsame | hexcluded
        · unfold Registry.down at hc ⊢
          rwa [hsame]
        · exact hdown c' hc' hexcluded
      | false =>
        obtain ⟨registry, hinfo⟩ := Registry.info_of_up hc
        rw [walkEnding_found hdown hfind hc, hinfo]
        rfl

/-! ## The answer -/

theorem select_fst (config : DispatchConfig) (around : Surroundings κ)
    (userGroup group model : String) (retry : Nat) (hgroup : group ≠ "auto") (s : State κ) :
    (select config around userGroup group model retry s).1 =
      (selectFrom around group model retry maxAttempts [] s).1.map fun c => ⟨c, group⟩ := by
  unfold select autoGroup selectIn
  rw [if_neg hgroup]
  generalize selectFrom around group model retry maxAttempts [] s = answer
  obtain ⟨result, s'⟩ := answer
  cases result <;> rfl

/-- Where no channel serves there is nothing to be had, and no error. -/
theorem select_of_none_serving (hgroup : group ≠ "auto")
    (h : servingChannels channels group model = []) (config : DispatchConfig) (userGroup : String)
    (k : κ) :
    (select config (.still (fromTable channels) now) userGroup group model retry ⟨k, r⟩).1 =
      .ok ⟨none, group⟩ := by
  rw [select_fst _ _ _ _ _ _ hgroup]
  unfold maxAttempts selectFrom
  rw [ask_table_nothing h]
  rfl

theorem select_of_some_serving (hgroup : group ≠ "auto")
    (h : servingChannels channels group model ≠ []) (config : DispatchConfig) (userGroup : String)
    (k : κ) :
    (select config (.still (fromTable channels) now) userGroup group model retry ⟨k, r⟩).1 =
      match (servingChannels channels group model).find? fun c => !r.down now c with
      | some c =>
        if (r.downFirst now (servingChannels channels group model)).card ≤ 7 then
          .ok ⟨some c, group⟩
        else .error (.allDisabled group model)
      | none => .error (.allDisabled group model) := by
  rw [select_fst _ _ _ _ _ _ hgroup,
    selectFrom_fromTable h (fun _ _ hc => absurd hc List.not_mem_nil) maxAttempts k,
    walkEnding_start]
  cases (servingChannels channels group model).find? fun c => !r.down now c with
  | none => rfl
  | some c => split_ifs <;> rfl

/-- What a table answers for a group other than `auto`.  Nothing if no channel serves; otherwise the
first one that serves and is not disabled, if the disabled ones before it have seven numbers at most;
otherwise that all are disabled. -/
theorem select_fromTable (config : DispatchConfig) (channels : List Channel) (r : Registry)
    (now : Nat) (userGroup group model : String) (retry : Nat) (k : κ) (hgroup : group ≠ "auto") :
    let serving := servingChannels channels group model
    let answer := (select config (.still (fromTable channels) now) userGroup group model retry
      ⟨k, r⟩).1
    (serving = [] → answer = .ok ⟨none, group⟩) ∧
    (serving ≠ [] → answer = match serving.find? fun c => !r.down now c with
      | some c =>
        if (r.downFirst now serving).card ≤ 7 then .ok ⟨some c, group⟩
        else .error (.allDisabled group model)
      | none => .error (.allDisabled group model)) ∧
    (answer = .ok ⟨none, group⟩ ↔ serving = []) := by
  intro serving answer
  have hsome (h : serving ≠ []) : answer = _ := select_of_some_serving hgroup h config userGroup k
  refine ⟨fun h => select_of_none_serving hgroup h config userGroup k, hsome, fun h => ?_,
    fun h => select_of_none_serving hgroup h config userGroup k⟩
  by_contra hne
  rw [hsome hne] at h
  split at h
  · split_ifs at h
    simp at h
  · simp at h

/-- Two channels with one number, and a third, stand disabled before one that can be had. -/
theorem select_fromTable_shared_number :
    let old : Channel := ⟨1, "old", "eu", ["m"], "k"⟩
    let copy : Channel := ⟨1, "copy", "us, eu", ["m"], "k"⟩
    let slow : Channel := ⟨2, "slow", "eu", ["m"], "k"⟩
    let fast : Channel := ⟨3, "fast", "eu", ["m"], "k"⟩
    let channels := [old, slow, copy, fast]
    let r : Registry := [(1, ⟨5000, "timeouts"⟩), (2, ⟨5000, "timeouts"⟩), (3, ⟨900, "over"⟩)]
    "eu" ≠ "auto" ∧
      (select ⟨[], []⟩ (.still (fromTable channels) 1000) "default" "eu" "m" 0 ⟨(), r⟩).1 =
        .ok ⟨some fast, "eu"⟩ := by
  refine ⟨by decide, ?_⟩
  rw [(select_fromTable _ _ _ 1000 _ _ _ _ _ (by decide)).2.1 (by decide)]
  decide

end Dispatch

end Turnstile
