import Mathlib.Data.List.Basic
import Turnstile.Text.Blank

/-!
# Cutting a text at a separator

Cutting a text at every separator and joining the pieces with separators between them undo each
other: a text is its pieces joined, and texts without separators that were joined are the pieces.

A text can be cut in only one way at its first separator, and in only one at its last.  At a label,
which is a separator with a word behind it, it can be cut in only one way if the label does not
occur before the cut.

* `joinWith_pieces`, `pieces_joinWith` — cutting and joining;
* `cutAt_eq_some_iff` — the first cut;
* `append_sep_inj`, `append_label_inj` — the two other cuts that are unique.
-/

set_option autoImplicit false

namespace Turnstile.Text

/-- The first piece ends at the first separator. -/
theorem pieces_append {sep : Char} {p : List Char} (h : ∀ c ∈ p, c ≠ sep) (r : List Char) :
    pieces sep (p ++ sep :: r) = p :: pieces sep r := by
  induction p with
  | nil => simp [pieces]
  | cons c p ih =>
    have hc : c ≠ sep := h c List.mem_cons_self
    have htail := ih fun d hd => h d (List.mem_cons_of_mem c hd)
    simp [pieces, hc, htail]

/-- Without a separator there is one piece. -/
theorem pieces_eq_singleton {sep : Char} {p : List Char} (h : ∀ c ∈ p, c ≠ sep) :
    pieces sep p = [p] := by
  induction p with
  | nil => rfl
  | cons c p ih =>
    have hc : c ≠ sep := h c List.mem_cons_self
    have htail := ih fun d hd => h d (List.mem_cons_of_mem c hd)
    simp [pieces, hc, htail]

theorem pieces_ne_nil (sep : Char) (cs : List Char) : pieces sep cs ≠ [] := by
  cases cs with
  | nil => simp [pieces]
  | cons c cs =>
    unfold pieces
    split
    · simp
    · split <;> simp

/-- No piece holds a separator. -/
theorem ne_of_mem_pieces {sep : Char} {cs : List Char} :
    ∀ p ∈ pieces sep cs, ∀ c ∈ p, c ≠ sep := by
  induction cs with
  | nil => simp [pieces]
  | cons d cs ih =>
    unfold pieces
    split
    · simpa using ih
    · rename_i hd
      split
      · simp [hd]
      · rename_i p ps hps
        rw [hps] at ih
        simp only [List.forall_mem_cons] at ih ⊢
        exact ⟨⟨hd, ih.1⟩, ih.2⟩

theorem joinWith_cons {sep p : List Char} {ps : List (List Char)} (h : ps ≠ []) :
    joinWith sep (p :: ps) = p ++ sep ++ joinWith sep ps := by
  cases ps with
  | nil => exact absurd rfl h
  | cons q qs => rfl

theorem joinWith_singleton_cons (sep : Char) (p q : List Char) (ps : List (List Char)) :
    joinWith [sep] (p :: q :: ps) = p ++ sep :: joinWith [sep] (q :: ps) := by
  rw [joinWith_cons (List.cons_ne_nil q ps), List.append_assoc, List.singleton_append]

/-- A text is its pieces joined. -/
theorem joinWith_pieces (sep : Char) (cs : List Char) : joinWith [sep] (pieces sep cs) = cs := by
  induction cs with
  | nil => rfl
  | cons d cs ih =>
    cases hps : pieces sep cs with
    | nil => exact absurd hps (pieces_ne_nil sep cs)
    | cons p ps =>
      rw [hps] at ih
      unfold pieces
      rw [hps]
      split
      · rename_i hd
        simp [joinWith, ih, hd]
      · cases ps with
        | nil => simpa [joinWith] using ih
        | cons q qs => simpa [joinWith] using ih

/-- Texts without separators that were joined are the pieces. -/
theorem pieces_joinWith {sep : Char} : ∀ {ps : List (List Char)}, ps ≠ [] →
    (∀ p ∈ ps, ∀ c ∈ p, c ≠ sep) → pieces sep (joinWith [sep] ps) = ps
  | [], hne, _ => absurd rfl hne
  | [p], _, h => pieces_eq_singleton (h p List.mem_cons_self)
  | p :: q :: ps, _, h => by
    have hrest := pieces_joinWith (List.cons_ne_nil q ps)
      fun p' hp' => h p' (List.mem_cons_of_mem p hp')
    rw [joinWith_singleton_cons, pieces_append (h p List.mem_cons_self), hrest]

/-- What was joined can be cut inside a piece. -/
theorem joinWith_append_cons (sep x y : List Char) (ps qs : List (List Char)) :
    joinWith sep (ps ++ (x ++ y) :: qs) =
      joinWith sep (ps ++ [x]) ++ joinWith sep (y :: qs) := by
  induction ps with
  | nil =>
    cases qs with
    | nil => rfl
    | cons q qs => simp [joinWith]
  | cons p ps ih =>
    rw [List.cons_append, List.cons_append, joinWith_cons (by simp), joinWith_cons (by simp), ih]
    simp only [List.append_assoc]

/-- What was joined stands in what came of it. -/
theorem piece_joinWith {sep p : List Char} : ∀ {ps : List (List Char)}, p ∈ ps →
    p <:+: joinWith sep ps
  | [], h => absurd h List.not_mem_nil
  | [q], h => List.mem_singleton.mp h ▸ List.infix_rfl
  | q :: r :: ps, h => by
    rw [joinWith_cons (List.cons_ne_nil r ps)]
    rcases List.mem_cons.mp h with rfl | hrest
    · exact ⟨[], sep ++ joinWith sep (r :: ps), by simp⟩
    · exact (piece_joinWith hrest).trans (List.suffix_append _ _).isInfix

/-- A piece without a character that stands in a text is on one side of it. -/
theorem infix_of_not_mem {m x y : List Char} {c : Char} (hm : m <:+: x ++ c :: y) (hc : c ∉ m) :
    m <:+: x ∨ m <:+: y := by
  obtain ⟨l, r, heq⟩ := hm
  rw [List.append_assoc] at heq
  rcases List.append_eq_append_iff.mp heq with ⟨t, rfl, ht⟩ | ⟨t, rfl, ht⟩
  · rcases List.append_eq_append_iff.mp ht with ⟨u, rfl, -⟩ | ⟨u, rfl, hu⟩
    · exact .inl ⟨l, u, by simp⟩
    · cases u with
      | nil => exact .inl ⟨l, [], by simp⟩
      | cons d u =>
        obtain ⟨rfl, -⟩ := List.cons_eq_cons.mp hu
        exact absurd (List.mem_append_right t List.mem_cons_self) hc
  · cases t with
    | nil =>
      cases m with
      | nil => exact .inl List.nil_infix
      | cons d m =>
        obtain ⟨rfl, -⟩ := List.cons_eq_cons.mp ht
        exact absurd List.mem_cons_self hc
    | cons d t =>
      obtain ⟨rfl, rfl⟩ := List.cons_eq_cons.mp ht
      exact .inr ⟨t, r, List.append_assoc t m r⟩

/-- A piece without the separator is within one of the texts that were joined. -/
theorem exists_infix_of_joinWith {m : List Char} {c : Char} {ps : List (List Char)} (hne : m ≠ [])
    (hm : m <:+: joinWith [c] ps) (hc : c ∉ m) : ∃ x ∈ ps, m <:+: x := by
  induction ps with
  | nil => exact absurd (List.infix_nil.mp hm) hne
  | cons x ps ih =>
    cases ps with
    | nil => exact ⟨x, List.mem_cons_self, hm⟩
    | cons y ps =>
      rw [joinWith_singleton_cons] at hm
      rcases infix_of_not_mem hm hc with hx | hrest
      · exact ⟨x, List.mem_cons_self, hx⟩
      · obtain ⟨z, hz, hin⟩ := ih hrest
        exact ⟨z, List.mem_cons_of_mem x hz, hin⟩

/-- Joining is the library's. -/
theorem joinWith_eq_intercalate (sep : List Char) :
    ∀ ps : List (List Char), joinWith sep ps = sep.intercalate ps
  | [] => rfl
  | [p] => by simp [joinWith]
  | p :: q :: ps => by
    rw [joinWith_cons (List.cons_ne_nil q ps), joinWith_eq_intercalate sep (q :: ps),
      List.intercalate_cons_cons]

theorem join_eq_intercalate (sep : String) (ps : List String) :
    join sep ps = sep.intercalate ps := by
  unfold join
  rw [joinWith_eq_intercalate, ← String.toList_intercalate, String.ofList_toList]

/-! ## The first cut -/

/-- The first cut of a text is the one before which there is no separator. -/
theorem cutAt_eq_some_iff {sep : Char} {cs a b : List Char} :
    cutAt sep cs = some (a, b) ↔ cs = a ++ sep :: b ∧ sep ∉ a := by
  induction cs generalizing a with
  | nil => simp [cutAt]
  | cons c cs ih =>
    rw [cutAt]
    split
    · rename_i hc
      subst hc
      constructor
      · intro h
        cases h
        exact ⟨rfl, List.not_mem_nil⟩
      · rintro ⟨h, ha⟩
        cases a with
        | nil =>
          cases h
          rfl
        | cons d a =>
          obtain ⟨rfl, -⟩ := List.cons_eq_cons.mp h
          exact absurd List.mem_cons_self ha
    · rename_i hc
      rw [Option.map_eq_some_iff]
      constructor
      · rintro ⟨⟨a', b'⟩, h, heq⟩
        cases heq
        obtain ⟨rfl, ha'⟩ := ih.mp h
        refine ⟨rfl, ?_⟩
        rw [List.mem_cons, not_or]
        exact ⟨fun heq => hc heq.symm, ha'⟩
      · rintro ⟨h, ha⟩
        cases a with
        | nil => exact absurd (List.cons_eq_cons.mp h).1 hc
        | cons d a =>
          obtain ⟨rfl, htail⟩ := List.cons_eq_cons.mp h
          exact ⟨(a, b), ih.mpr ⟨htail, fun hmem => ha (List.mem_cons_of_mem _ hmem)⟩, rfl⟩

/-- A text without a separator is not cut. -/
theorem cutAt_eq_none_iff {sep : Char} {cs : List Char} : cutAt sep cs = none ↔ sep ∉ cs := by
  induction cs with
  | nil => simp [cutAt]
  | cons c cs ih =>
    rw [cutAt]
    split
    · rename_i hc
      simp [hc]
    · rename_i hc
      have hne : sep ≠ c := fun heq => hc heq.symm
      rw [Option.map_eq_none_iff, ih, List.mem_cons, not_or, and_iff_right hne]

/-! ## Cuts that are unique -/

/-- There is only one cut behind which there is no separator. -/
theorem append_sep_inj {sep : Char} {a a' b b' : List Char} (hb : sep ∉ b) (hb' : sep ∉ b')
    (h : a ++ sep :: b = a' ++ sep :: b') : a = a' ∧ b = b' := by
  have hlast : ∀ {b b' t : List Char}, sep ∉ b → sep :: b = t ++ sep :: b' → t = [] := by
    intro b b' t hb ht
    cases t with
    | nil => rfl
    | cons c t =>
      obtain ⟨-, rfl⟩ := List.cons_eq_cons.mp ht
      exact absurd (List.mem_append_right t List.mem_cons_self) hb
  rcases List.append_eq_append_iff.mp h with ⟨t, rfl, ht⟩ | ⟨t, rfl, ht⟩
  · have hnil := hlast hb ht
    subst hnil
    simpa using ht
  · have hnil := hlast hb' ht
    subst hnil
    simpa [eq_comm] using ht

/-- There is only one cut between a run of characters and what ends it. -/
theorem append_run_inj {P : Char → Prop} {a a' b b' : List Char} (ha : ∀ c ∈ a, P c)
    (ha' : ∀ c ∈ a', P c) (hb : ∀ c ∈ b.head?, ¬ P c) (hb' : ∀ c ∈ b'.head?, ¬ P c)
    (h : a ++ b = a' ++ b') : a = a' ∧ b = b' := by
  rcases List.append_eq_append_iff.mp h with ⟨t, rfl, rfl⟩ | ⟨t, rfl, rfl⟩
  · cases t with
    | nil => simp
    | cons c t => exact absurd (ha' c (by simp)) (hb c rfl)
  · cases t with
    | nil => simp
    | cons c t => exact absurd (ha c (by simp)) (hb' c rfl)

/-- A label that stands in a text twice does not overlap itself. -/
theorem label_shift {sep : Char} {rest r r' t : List Char} (hrest : sep ∉ rest)
    (h : sep :: rest ++ r = t ++ (sep :: rest ++ r')) : t = [] ∨ sep :: rest <:+: t := by
  cases t with
  | nil => exact .inl rfl
  | cons c t =>
    right
    obtain ⟨rfl, htail⟩ := List.cons_eq_cons.mp h
    rcases List.append_eq_append_iff.mp htail with ⟨u, rfl, -⟩ | ⟨u, hu, hafter⟩
    · exact ⟨[], u, by simp⟩
    · cases u with
      | nil =>
        rw [hu]
        exact ⟨[], [], by simp⟩
      | cons c' u =>
        -- The second label would begin inside the first, where there is no separator.
        obtain ⟨rfl, -⟩ := List.cons_eq_cons.mp hafter
        exact absurd (hu ▸ List.mem_append_right t List.mem_cons_self) hrest

/-- There is only one cut at a label before which the label does not occur. -/
theorem append_label_inj {sep : Char} {rest x x' r r' : List Char} (hrest : sep ∉ rest)
    (hx : ¬ sep :: rest <:+: x) (hx' : ¬ sep :: rest <:+: x')
    (h : x ++ (sep :: rest ++ r) = x' ++ (sep :: rest ++ r')) : x = x' ∧ r = r' := by
  rcases List.append_eq_append_iff.mp h with ⟨t, rfl, ht⟩ | ⟨t, rfl, ht⟩
  · rcases label_shift hrest ht with rfl | hstands
    · simpa using ht
    · exact absurd (hstands.trans (List.suffix_append x t).isInfix) hx'
  · rcases label_shift hrest ht with rfl | hstands
    · simpa [eq_comm] using ht
    · exact absurd (hstands.trans (List.suffix_append x' t).isInfix) hx

end Turnstile.Text
