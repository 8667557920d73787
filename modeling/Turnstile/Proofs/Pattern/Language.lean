import Mathlib.Computability.Language
import Turnstile.Pattern.Basic

/-!
# The texts that a pattern describes

A pattern without conditions on what stands around a place describes a set of texts, and following
it is a search in that set: the ways in which a pattern can go on at a character are the patterns of
what may stand behind it.  So a pattern matches at a place exactly if one of its texts begins there,
and what it takes is one of its texts.

* `Pattern.language` — the texts that a pattern describes;
* `mem_language_spell`, `mem_language_run` — words and runs of characters;
* `some_mem_heads`, `of_some_mem_heads` — a pattern behind its first character;
* `matchLength?_eq_none_iff`, `take_mem_of_matchLength?` — matching.
-/

set_option autoImplicit false

namespace Turnstile.Pattern

/-- The texts that a pattern describes. A condition on what stands around describes none. -/
def language : Pattern → Language Char
  | empty => 1
  | set s => {cs | ∃ c, s.holds c = true ∧ cs = [c]}
  | look _ => 0
  | seq p q => language p * language q
  | alt p q => language p + language q
  | rep p least most _ => {cs | ∃ rounds : List (List Char), cs = rounds.flatten ∧
      (∀ round ∈ rounds, round ∈ language p) ∧ least ≤ rounds.length ∧
      ∀ n ∈ most, rounds.length ≤ n}

/-- The pattern states no condition on what stands around a place, and no repetition whose least
number is beyond its greatest. -/
def plain : Pattern → Bool
  | empty => true
  | set _ => true
  | look _ => false
  | seq p q => p.plain && q.plain
  | alt p q => p.plain && q.plain
  | rep p least most _ => p.plain && most.all (least ≤ ·)

variable {p q : Pattern} {s : CharSet} {cs : List Char} {c : Char} {before after : Option Char}

@[simp] theorem mem_language_empty : cs ∈ empty.language ↔ cs = [] := Iff.rfl

@[simp] theorem mem_language_set : cs ∈ (set s).language ↔ ∃ c, s.holds c = true ∧ cs = [c] :=
  Iff.rfl

@[simp] theorem not_mem_language_look (l : Look) : cs ∉ (look l).language := id

theorem mem_language_seq :
    cs ∈ (seq p q).language ↔ ∃ a ∈ p.language, ∃ b ∈ q.language, a ++ b = cs := Language.mem_mul

@[simp] theorem mem_language_alt :
    cs ∈ (alt p q).language ↔ cs ∈ p.language ∨ cs ∈ q.language := Iff.rfl

theorem mem_language_rep {least : Nat} {most : Option Nat} {greedy : Bool} :
    cs ∈ (rep p least most greedy).language ↔ ∃ rounds : List (List Char), cs = rounds.flatten ∧
      (∀ round ∈ rounds, round ∈ p.language) ∧ least ≤ rounds.length ∧
      ∀ n ∈ most, rounds.length ≤ n := Iff.rfl

theorem mem_language_andThen :
    cs ∈ (p.andThen q).language ↔ ∃ a ∈ p.language, ∃ b ∈ q.language, a ++ b = cs := by
  cases p with
  | empty => simp [andThen]
  | _ => exact mem_language_seq

theorem plain_andThen (hp : p.plain = true) (hq : q.plain = true) :
    (p.andThen q).plain = true := by
  cases p with
  | empty => exact hq
  | _ => exact Bool.and_eq_true_iff.mpr ⟨hp, hq⟩

/-! ## Words and runs -/

/-- A character of each set, one after the other, and then a pattern. -/
def spell (sets : List CharSet) (q : Pattern) : Pattern :=
  sets.foldr (fun s r => seq (set s) r) q

theorem mem_language_spell {sets : List CharSet} :
    cs ∈ (spell sets q).language ↔
      ∃ w r, List.Forall₂ (fun s c => s.holds c = true) sets w ∧ r ∈ q.language ∧ w ++ r = cs := by
  induction sets generalizing cs with
  | nil =>
    constructor
    · exact fun h => ⟨[], cs, .nil, h, rfl⟩
    · rintro ⟨w, r, hw, hr, rfl⟩
      cases hw
      exact hr
  | cons s sets ih =>
    constructor
    · intro h
      obtain ⟨a, ⟨c, hc, rfl⟩, b, hb, rfl⟩ := mem_language_seq.mp h
      obtain ⟨w, r, hw, hr, rfl⟩ := ih.mp hb
      exact ⟨c :: w, r, .cons hc hw, hr, rfl⟩
    · rintro ⟨w, r, hw, hr, rfl⟩
      cases hw with
      | cons hc hw =>
        exact mem_language_seq.mpr ⟨[_], ⟨_, hc, rfl⟩, _, ih.mpr ⟨_, r, hw, hr, rfl⟩, rfl⟩

/-- A set repeated describes the texts of its characters that are long enough. -/
theorem mem_language_rep_set {least : Nat} {greedy : Bool} :
    cs ∈ (rep (set s) least none greedy).language ↔
      least ≤ cs.length ∧ ∀ c ∈ cs, s.holds c = true := by
  rw [mem_language_rep]
  constructor
  · rintro ⟨rounds, rfl, hrounds, hleast, -⟩
    have hlength : rounds.flatten.length = rounds.length := by
      rw [List.length_flatten, List.map_congr_left (g := fun _ => 1)]
      · simp
      · intro round hround
        obtain ⟨c, -, rfl⟩ := mem_language_set.mp (hrounds round hround)
        rfl
    refine ⟨hlength ▸ hleast, fun c hc => ?_⟩
    obtain ⟨round, hround, hc⟩ := List.mem_flatten.mp hc
    obtain ⟨d, hd, rfl⟩ := mem_language_set.mp (hrounds round hround)
    rwa [List.mem_singleton.mp hc]
  · rintro ⟨hleast, hcs⟩
    refine ⟨cs.map fun c => [c], ?_, ?_, by rwa [List.length_map], nofun⟩
    · rw [← List.flatMap_def, List.flatMap_singleton']
    · rw [List.forall_mem_map]
      exact fun c hc => mem_language_set.mpr ⟨c, hcs c hc, rfl⟩

/-- A run of characters, and then what a pattern describes. -/
theorem mem_language_run {least : Nat} {greedy : Bool} :
    cs ∈ (seq (rep (set s) least none greedy) q).language ↔
      ∃ run rest, least ≤ run.length ∧ (∀ c ∈ run, s.holds c = true) ∧ rest ∈ q.language ∧
        run ++ rest = cs := by
  rw [mem_language_seq]
  constructor
  · rintro ⟨run, hrun, rest, hrest, rfl⟩
    obtain ⟨hleast, hrun⟩ := mem_language_rep_set.mp hrun
    exact ⟨run, rest, hleast, hrun, hrest, rfl⟩
  · rintro ⟨run, rest, hleast, hrun, hrest, rfl⟩
    exact ⟨run, mem_language_rep_set.mpr ⟨hleast, hrun⟩, rest, hrest, rfl⟩

/-! ## Ways to go on -/

/-- Of a repetition that takes something, the first round that does can come first. -/
theorem exists_round {rounds : List (List Char)} (h : rounds.flatten = c :: cs) :
    ∃ (round : List Char) (others : List (List Char)), c :: round ∈ rounds ∧
      (∀ r ∈ others, r ∈ rounds) ∧ others.length + 1 = rounds.length ∧
      round ++ others.flatten = cs := by
  induction rounds with
  | nil => cases h
  | cons r rounds ih =>
    cases r with
    | nil =>
      obtain ⟨round, others, hround, hothers, hlength, hflatten⟩ := ih h
      refine ⟨round, [] :: others, List.mem_cons_of_mem _ hround, ?_, ?_, hflatten⟩
      · rw [List.forall_mem_cons]
        exact ⟨List.mem_cons_self, fun r hr => List.mem_cons_of_mem _ (hothers r hr)⟩
      · rw [List.length_cons, List.length_cons, hlength]
    | cons d r =>
      obtain ⟨rfl, hflatten⟩ := List.cons_eq_cons.mp h
      exact ⟨r, rounds, List.mem_cons_self, fun r hr => List.mem_cons_of_mem _ hr, rfl, hflatten⟩

section Repetitions

variable {least : Nat} {most : Option Nat} {greedy : Bool}

/-- A repetition that takes something is a round that does, and the repetition with one round
fewer. -/
theorem cons_mem_language_rep :
    c :: cs ∈ (rep p least most greedy).language ↔
      most ≠ some 0 ∧ ∃ a b, c :: a ∈ p.language ∧
        b ∈ (rep p (least - 1) (most.map (· - 1)) greedy).language ∧ a ++ b = cs := by
  constructor
  · intro h
    obtain ⟨rounds, hflatten, hrounds, hleast, hmost⟩ := mem_language_rep.mp h
    obtain ⟨round, others, hround, hothers, hlength, hcs⟩ := exists_round hflatten.symm
    refine ⟨?_, round, others.flatten, hrounds _ hround, ?_, hcs⟩
    · rintro rfl
      have hbound := hmost 0 rfl
      omega
    · refine mem_language_rep.mpr
        ⟨others, rfl, fun r hr => hrounds r (hothers r hr), by omega, fun n hn => ?_⟩
      obtain ⟨m, hm, rfl⟩ := Option.map_eq_some_iff.mp hn
      have hbound := hmost m hm
      omega
  · rintro ⟨hne, a, b, ha, hb, rfl⟩
    obtain ⟨rounds, rfl, hrounds, hleast, hbound⟩ := mem_language_rep.mp hb
    refine mem_language_rep.mpr
      ⟨(c :: a) :: rounds, rfl, List.forall_mem_cons.mpr ⟨ha, hrounds⟩, ?_, fun n hn => ?_⟩
    · rw [List.length_cons]
      omega
    · have hfewer := hbound (n - 1) (by rw [hn]; rfl)
      have hpos : n ≠ 0 := fun hzero => hne (by rw [hn, hzero])
      rw [List.length_cons]
      omega

/-- A repetition describes the empty text with as many rounds without characters as are asked
for. -/
theorem nil_mem_language_rep :
    [] ∈ (rep p least most greedy).language ↔
      (least = 0 ∨ [] ∈ p.language) ∧ ∀ n ∈ most, least ≤ n := by
  rw [mem_language_rep]
  constructor
  · rintro ⟨rounds, hflatten, hrounds, hleast, hmost⟩
    refine ⟨(Nat.eq_zero_or_pos least).imp_right fun hpos => ?_,
      fun n hn => hleast.trans (hmost n hn)⟩
    obtain ⟨round, hround⟩ := List.exists_mem_of_length_pos (Nat.lt_of_lt_of_le hpos hleast)
    exact List.flatten_eq_nil_iff.mp hflatten.symm round hround ▸ hrounds round hround
  · rintro ⟨h, hmost⟩
    refine ⟨List.replicate least [], by simp, fun round hround => ?_, by simp, fun n hn => ?_⟩
    · obtain ⟨hne, rfl⟩ := List.mem_replicate.mp hround
      exact h.resolve_left hne
    · rw [List.length_replicate]
      exact hmost n hn

/-- What a round that goes on leaves is followed by the rounds behind it. -/
theorem some_mem_rounds {ways : List (Option Pattern)} {again : Pattern} :
    some q ∈ ways.map (fun
        | none => none
        | some r => some (r.andThen again)) ↔
      ∃ r, some r ∈ ways ∧ q = r.andThen again := by
  rw [List.mem_map]
  constructor
  · rintro ⟨head, hhead, heq⟩
    cases head with
    | none => cases heq
    | some r => exact ⟨r, hhead, (Option.some.inj heq).symm⟩
  · rintro ⟨r, hr, rfl⟩
    exact ⟨some r, hr, rfl⟩

/-- A repetition goes on with what one of its rounds goes on with, and then with itself. -/
theorem some_mem_heads_rep :
    some q ∈ heads before after (rep p least most greedy) ↔
      most ≠ some 0 ∧ ∃ r, some r ∈ heads before after p ∧
        q = r.andThen (rep p (least - 1) (most.map (· - 1)) greedy) := by
  rw [heads]
  split
  · rename_i hzero
    simp [hzero]
  · rename_i hne
    rw [and_iff_right hne]
    split
    · exact some_mem_rounds
    · split
      · exact (List.mem_append.trans (or_iff_left (by simp))).trans some_mem_rounds
      · exact (List.mem_cons.trans (or_iff_right (by simp))).trans some_mem_rounds

theorem none_mem_heads_rep :
    none ∈ heads before after (rep p least most greedy) ↔
      most = some 0 ∨ least = 0 ∨ none ∈ heads before after p := by
  rw [heads]
  split
  · rename_i hzero
    simp [hzero]
  · rename_i hne
    split
    · rename_i hpos
      rw [or_iff_right hne, or_iff_right hpos.ne', List.mem_map]
      constructor
      · rintro ⟨head, hhead, heq⟩
        cases head with
        | none => exact hhead
        | some r => cases heq
      · exact fun h => ⟨none, h, rfl⟩
    · rename_i hzero
      have hleast : least = 0 := Nat.eq_zero_of_not_pos hzero
      split
      · simp [hleast]
      · simp [hleast]

theorem plain_rep : (rep p least most greedy).plain = true ↔
    p.plain = true ∧ ∀ n ∈ most, least ≤ n := by
  rw [plain, Bool.and_eq_true_iff]
  cases most with
  | none => simp
  | some n => simp

end Repetitions

/-- A pattern that describes the empty text can end at any place. -/
theorem none_mem_heads (h : [] ∈ p.language) : none ∈ heads before after p := by
  induction p with
  | empty => exact List.mem_singleton_self _
  | set s =>
    obtain ⟨_, _, hnil⟩ := h
    cases hnil
  | look l => exact absurd h (not_mem_language_look l)
  | seq p q ihp ihq =>
    obtain ⟨a, ha, b, hb, hab⟩ := mem_language_seq.mp h
    obtain ⟨rfl, rfl⟩ := List.append_eq_nil_iff.mp hab
    exact List.mem_flatMap.mpr ⟨none, ihp ha, ihq hb⟩
  | alt p q ihp ihq =>
    rcases mem_language_alt.mp h with hp | hq
    · exact List.mem_append_left _ (ihp hp)
    · exact List.mem_append_right _ (ihq hq)
  | rep p least most greedy ih =>
    exact none_mem_heads_rep.mpr (.inr ((nil_mem_language_rep.mp h).1.imp_right ih))

/-- A pattern that describes a text can take its first character, and what it goes on with describes
the rest. -/
theorem some_mem_heads (h : c :: cs ∈ p.language) :
    ∃ q, some q ∈ heads before (some c) p ∧ cs ∈ q.language := by
  induction p generalizing cs with
  | empty => cases h
  | set s =>
    obtain ⟨d, hd, heq⟩ := h
    obtain ⟨rfl, rfl⟩ := List.cons_eq_cons.mp heq
    refine ⟨empty, ?_, rfl⟩
    rw [heads, if_pos hd]
    exact List.mem_singleton_self _
  | look l => exact absurd h (not_mem_language_look l)
  | seq p q ihp ihq =>
    obtain ⟨a, ha, b, hb, hab⟩ := mem_language_seq.mp h
    cases a with
    | nil =>
      obtain rfl : b = c :: cs := hab
      obtain ⟨r, hr, hcs⟩ := ihq hb
      exact ⟨r, List.mem_flatMap.mpr ⟨none, none_mem_heads ha, hr⟩, hcs⟩
    | cons d a =>
      obtain ⟨rfl, htail⟩ := List.cons_eq_cons.mp hab
      obtain ⟨r, hr, ha'⟩ := ihp ha
      exact ⟨r.andThen q, List.mem_flatMap.mpr ⟨some r, hr, List.mem_singleton_self _⟩,
        mem_language_andThen.mpr ⟨a, ha', b, hb, htail⟩⟩
  | alt p q ihp ihq =>
    rcases mem_language_alt.mp h with hp | hq
    · obtain ⟨r, hr, hcs⟩ := ihp hp
      exact ⟨r, List.mem_append_left _ hr, hcs⟩
    · obtain ⟨r, hr, hcs⟩ := ihq hq
      exact ⟨r, List.mem_append_right _ hr, hcs⟩
  | rep p least most greedy ih =>
    obtain ⟨hne, a, b, ha, hb, hcs⟩ := cons_mem_language_rep.mp h
    obtain ⟨r, hr, ha'⟩ := ih ha
    exact ⟨_, some_mem_heads_rep.mpr ⟨hne, r, hr, rfl⟩,
      mem_language_andThen.mpr ⟨a, ha', b, hb, hcs⟩⟩

/-- A plain pattern that can end at a place describes the empty text. -/
theorem of_none_mem_heads (hp : p.plain = true) (h : none ∈ heads before after p) :
    [] ∈ p.language := by
  induction p with
  | empty => rfl
  | set s =>
    cases after with
    | none => cases h
    | some c =>
      rw [heads] at h
      split at h
      · cases List.mem_singleton.mp h
      · cases h
  | look l => cases hp
  | seq p q ihp ihq =>
    obtain ⟨hpp, hpq⟩ := Bool.and_eq_true_iff.mp hp
    obtain ⟨head, hhead, hmem⟩ := List.mem_flatMap.mp h
    cases head with
    | none => exact mem_language_seq.mpr ⟨[], ihp hpp hhead, [], ihq hpq hmem, rfl⟩
    | some r => cases List.mem_singleton.mp hmem
  | alt p q ihp ihq =>
    obtain ⟨hpp, hpq⟩ := Bool.and_eq_true_iff.mp hp
    rcases List.mem_append.mp h with h | h
    · exact mem_language_alt.mpr (.inl (ihp hpp h))
    · exact mem_language_alt.mpr (.inr (ihq hpq h))
  | rep p least most greedy ih =>
    obtain ⟨hpp, hmost⟩ := plain_rep.mp hp
    refine nil_mem_language_rep.mpr ⟨?_, hmost⟩
    rcases none_mem_heads_rep.mp h with hzero | hzero | hnone
    · exact .inl (Nat.le_zero.mp (hmost 0 hzero))
    · exact .inl hzero
    · exact .inr (ih hpp hnone)

/-- What a plain pattern can go on with behind a character is plain, and describes what may stand
behind that character. -/
theorem of_some_mem_heads (hp : p.plain = true) (h : some q ∈ heads before after p) :
    q.plain = true ∧ ∃ c, after = some c ∧ ∀ cs ∈ q.language, c :: cs ∈ p.language := by
  induction p generalizing q with
  | empty => cases List.mem_singleton.mp h
  | set s =>
    cases after with
    | none => cases h
    | some c =>
      rw [heads] at h
      split at h
      · rename_i hc
        cases List.mem_singleton.mp h
        refine ⟨rfl, c, rfl, fun cs hcs => ?_⟩
        obtain rfl := mem_language_empty.mp hcs
        exact ⟨c, hc, rfl⟩
      · cases h
  | look l => cases hp
  | seq p r ihp ihr =>
    obtain ⟨hpp, hpr⟩ := Bool.and_eq_true_iff.mp hp
    obtain ⟨head, hhead, hmem⟩ := List.mem_flatMap.mp h
    cases head with
    | none =>
      obtain ⟨hq, c, hc, hcs⟩ := ihr hpr hmem
      exact ⟨hq, c, hc, fun cs hmem => mem_language_seq.mpr
        ⟨[], of_none_mem_heads hpp hhead, _, hcs cs hmem, rfl⟩⟩
    | some q' =>
      obtain ⟨hq', c, hc, hcs⟩ := ihp hpp hhead
      cases List.mem_singleton.mp hmem
      refine ⟨plain_andThen hq' hpr, c, hc, fun cs hmem => ?_⟩
      obtain ⟨a, ha, b, hb, rfl⟩ := mem_language_andThen.mp hmem
      exact mem_language_seq.mpr ⟨c :: a, hcs a ha, b, hb, rfl⟩
  | alt p r ihp ihr =>
    obtain ⟨hpp, hpr⟩ := Bool.and_eq_true_iff.mp hp
    rcases List.mem_append.mp h with h | h
    · obtain ⟨hq, c, hc, hcs⟩ := ihp hpp h
      exact ⟨hq, c, hc, fun cs hmem => mem_language_alt.mpr (.inl (hcs cs hmem))⟩
    · obtain ⟨hq, c, hc, hcs⟩ := ihr hpr h
      exact ⟨hq, c, hc, fun cs hmem => mem_language_alt.mpr (.inr (hcs cs hmem))⟩
  | rep p least most greedy ih =>
    obtain ⟨hpp, hmost⟩ := plain_rep.mp hp
    obtain ⟨hne, r, hr, rfl⟩ := some_mem_heads_rep.mp h
    obtain ⟨hplain, c, hc, hcs⟩ := ih hpp hr
    have hagain : (rep p (least - 1) (most.map (· - 1)) greedy).plain = true := by
      refine plain_rep.mpr ⟨hpp, fun n hn => ?_⟩
      obtain ⟨m, hm, rfl⟩ := Option.map_eq_some_iff.mp hn
      have hbound := hmost m hm
      omega
    refine ⟨plain_andThen hplain hagain, c, hc, fun cs hmem => ?_⟩
    obtain ⟨a, ha, b, hb, rfl⟩ := mem_language_andThen.mp hmem
    exact cons_mem_language_rep.mpr ⟨hne, a, b, hcs a ha, hb, rfl⟩

/-! ## Matching -/

theorem untilEnd_snd (ways : List (Option Pattern)) :
    (untilEnd ways).2 = true ↔ none ∈ ways := by
  induction ways with
  | nil => simp [untilEnd]
  | cons way ways ih =>
    cases way with
    | none => simp [untilEnd]
    | some p => simpa [untilEnd] using ih

theorem of_mem_untilEnd {ways : List (Option Pattern)} (h : p ∈ (untilEnd ways).1) :
    some p ∈ ways := by
  induction ways with
  | nil => cases h
  | cons way ways ih =>
    cases way with
    | none => cases h
    | some q =>
      rcases List.mem_cons.mp h with rfl | h
      · exact List.mem_cons_self
      · exact List.mem_cons_of_mem _ (ih h)

/-- Where no way ends, none is given up. -/
theorem mem_untilEnd {ways : List (Option Pattern)} (hnone : none ∉ ways) (h : some p ∈ ways) :
    p ∈ (untilEnd ways).1 := by
  induction ways with
  | nil => cases h
  | cons way ways ih =>
    rw [List.mem_cons, not_or] at hnone
    cases way with
    | none => exact absurd rfl hnone.1
    | some q =>
      rcases List.mem_cons.mp h with h | h
      · cases h
        exact List.mem_cons_self
      · exact List.mem_cons_of_mem _ (ih hnone.2 h)

/-- A text that one of the ways describes is not missed, nor is a match that was found before. -/
theorem follow_isSome {ways : List Pattern} {taken : Nat} {best : Option Nat}
    (h : best.isSome = true ∨ ∃ p ∈ ways, ∃ m, m <+: cs ∧ m ∈ p.language) :
    (follow ways before taken best cs).isSome = true := by
  induction cs generalizing ways before taken best with
  | nil =>
    rw [follow]
    split
    · rfl
    · rename_i hend
      refine h.resolve_right ?_
      rintro ⟨p, hp, m, hm, hlang⟩
      obtain rfl := List.prefix_nil.mp hm
      exact hend ((untilEnd_snd _).mpr (List.mem_flatMap.mpr ⟨p, hp, none_mem_heads hlang⟩))
  | cons c cs ih =>
    rw [follow]
    by_cases hend : none ∈ ways.flatMap (heads before (some c))
    · -- A way ends here, so there is a match, whatever comes behind.
      have hdone := (untilEnd_snd _).mpr hend
      generalize untilEnd (ways.flatMap (heads before (some c))) = step at hdone ⊢
      obtain ⟨live, done⟩ := step
      subst hdone
      dsimp only
      split
      · rfl
      · exact ih (.inl rfl)
    · have hdone : (untilEnd (ways.flatMap (heads before (some c)))).2 = false :=
        Bool.eq_false_iff.mpr fun hdone => hend ((untilEnd_snd _).mp hdone)
      have hlive := fun p => @mem_untilEnd p _ hend
      generalize untilEnd (ways.flatMap (heads before (some c))) = step at hdone hlive ⊢
      obtain ⟨live, done⟩ := step
      subst hdone
      have hgoes : best.isSome = true ∨ ∃ q ∈ live, ∃ m, m <+: cs ∧ m ∈ q.language := by
        refine h.imp_right ?_
        rintro ⟨p, hp, m, hm, hlang⟩
        cases m with
        | nil => exact absurd (List.mem_flatMap.mpr ⟨p, hp, none_mem_heads hlang⟩) hend
        | cons d m =>
          obtain ⟨rfl, hrest⟩ := List.cons_prefix_cons.mp hm
          obtain ⟨q, hq, hlang'⟩ := some_mem_heads hlang
          exact ⟨q, hlive q (List.mem_flatMap.mpr ⟨p, hp, hq⟩), m, hrest, hlang'⟩
      dsimp only
      split
      · rename_i hnil
        refine hgoes.resolve_right ?_
        rintro ⟨q, hq, -⟩
        rw [List.isEmpty_iff.mp hnil] at hq
        cases hq
      · refine ih (hgoes.imp_right ?_)
        rintro ⟨q, hq, hm⟩
        exact ⟨q, List.mem_eraseDups.mpr hq, hm⟩

/-- Where one of the ways ends, it describes the empty text. -/
theorem of_end {ways : List Pattern} (hways : ∀ p ∈ ways, p.plain = true)
    (h : none ∈ ways.flatMap (heads before after)) : ∃ p ∈ ways, [] ∈ p.language := by
  obtain ⟨p, hp, hnone⟩ := List.mem_flatMap.mp h
  exact ⟨p, hp, of_none_mem_heads (hways p hp) hnone⟩

/-- A match that is found was found before, or is a text that one of the ways describes. -/
theorem of_follow {ways : List Pattern} {taken n : Nat} {best : Option Nat}
    (hways : ∀ p ∈ ways, p.plain = true) (h : follow ways before taken best cs = some n) :
    best = some n ∨ ∃ p ∈ ways, ∃ m, m <+: cs ∧ m ∈ p.language ∧ n = taken + m.length := by
  induction cs generalizing ways before taken best with
  | nil =>
    rw [follow] at h
    split at h
    · rename_i hend
      cases h
      obtain ⟨p, hp, hlang⟩ := of_end hways ((untilEnd_snd _).mp hend)
      exact .inr ⟨p, hp, [], List.nil_prefix, hlang, rfl⟩
    · exact .inl h
  | cons c cs ih =>
    rw [follow] at h
    have hend := fun hdone => (untilEnd_snd (ways.flatMap (heads before (some c)))).mp hdone
    have hlive := fun q => @of_mem_untilEnd q (ways.flatMap (heads before (some c)))
    generalize untilEnd (ways.flatMap (heads before (some c))) = step at h hend hlive
    obtain ⟨live, done⟩ := step
    dsimp only at h hend hlive
    have hbest : (if done = true then some taken else best) = some n → best = some n ∨
        ∃ p ∈ ways, ∃ m, m <+: c :: cs ∧ m ∈ p.language ∧ n = taken + m.length := by
      intro hn
      split at hn
      · rename_i hdone
        cases hn
        obtain ⟨p, hp, hlang⟩ := of_end hways (hend hdone)
        exact .inr ⟨p, hp, [], List.nil_prefix, hlang, rfl⟩
      · exact .inl hn
    split at h
    · exact hbest h
    · have hgoes : ∀ q ∈ live.eraseDups, ∃ p ∈ ways, q.plain = true ∧
          ∀ m ∈ q.language, c :: m ∈ p.language := by
        intro q hq
        obtain ⟨p, hp, hhead⟩ := List.mem_flatMap.mp (hlive q (List.mem_eraseDups.mp hq))
        obtain ⟨hplain, d, hd, hrest⟩ := of_some_mem_heads (hways p hp) hhead
        cases hd
        exact ⟨p, hp, hplain, hrest⟩
      have hplain : ∀ q ∈ live.eraseDups, q.plain = true := fun q hq =>
        let ⟨_, _, hplain, _⟩ := hgoes q hq
        hplain
      rcases ih hplain h with hfound | ⟨q, hq, m, hm, hlang, hn⟩
      · exact hbest hfound
      · obtain ⟨p, hp, -, hrest⟩ := hgoes q hq
        refine .inr ⟨p, hp, c :: m, List.cons_prefix_cons.mpr ⟨rfl, hm⟩, hrest m hlang, ?_⟩
        rw [List.length_cons]
        omega

/-- What a plain pattern takes is one of its texts. -/
theorem take_mem_of_matchLength? {n : Nat} (hp : p.plain = true)
    (h : p.matchLength? before cs = some n) : cs.take n ∈ p.language := by
  rcases of_follow (by simpa using hp) h with hnone | ⟨q, hq, m, hm, hlang, hn⟩
  · cases hnone
  · obtain rfl := List.mem_singleton.mp hq
    rw [Nat.zero_add] at hn
    rw [hn, ← List.prefix_iff_eq_take.mp hm]
    exact hlang

/-- A text of a pattern is matched where it stands. -/
theorem not_mem_language_of_matchLength? (h : p.matchLength? before cs = none) {m : List Char}
    (hm : m <+: cs) : m ∉ p.language := by
  intro hlang
  have hfound : (p.matchLength? before cs).isSome = true :=
    follow_isSome (.inr ⟨p, List.mem_singleton_self p, m, hm, hlang⟩)
  rw [h] at hfound
  cases hfound

/-- A plain pattern does not match at a place exactly if none of its texts begins there. -/
theorem matchLength?_eq_none_iff (hp : p.plain = true) :
    p.matchLength? before cs = none ↔ ∀ m, m <+: cs → m ∉ p.language := by
  constructor
  · exact fun h m hm => not_mem_language_of_matchLength? h hm
  · intro h
    cases hn : p.matchLength? before cs with
    | none => rfl
    | some n => exact absurd (take_mem_of_matchLength? hp hn) (h _ (List.take_prefix n cs))

end Turnstile.Pattern
