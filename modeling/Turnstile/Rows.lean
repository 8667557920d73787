/-!
# Rows by number

Rows of a table under their numbers, in the order of the numbers, each number once. `find?` is
the view of a table: each operation is described by what it does to it.
-/

namespace Turnstile

/-- A table of rows under numbers. -/
abbrev Rows (α : Type) := List (Int × α)

namespace Rows

variable {α : Type}

/-- The row of a number. -/
def find? (id : Int) : Rows α → Option α
  | [] => none
  | (k, a) :: r => if id = k then some a else find? id r

/-- Puts a row in the place of its number; the row that was there goes. -/
def put (id : Int) (a : α) : Rows α → Rows α
  | [] => [(id, a)]
  | (k, b) :: r =>
    if id = k then (id, a) :: r
    else if id < k then (id, a) :: (k, b) :: r
    else (k, b) :: put id a r

/-- The table without a number. -/
def erase (id : Int) (t : Rows α) : Rows α := t.filter fun r => r.1 ≠ id

/-- Changes the row of a number, if there is one. -/
def modify (id : Int) (f : α → α) : Rows α → Rows α
  | [] => []
  | (k, a) :: r => if id = k then (k, f a) :: r else (k, a) :: modify id f r

/-- Changes the row of a number if there is one and it satisfies `p`; the flag tells whether. -/
def modifyIf (id : Int) (p : α → Bool) (f : α → α) (t : Rows α) : Rows α × Bool :=
  match find? id t with
  | none => (t, false)
  | some a => if p a then (modify id f t, true) else (t, false)

/-- The numbers of the rows that satisfy `p`, in order. -/
def numbers (p : α → Bool) (t : Rows α) : List Int :=
  (t.filter fun r => p r.2).map Prod.fst

/-- Putting a row in changes what is found under its number, and nothing else. -/
theorem find?_put (id k : Int) (a : α) (t : Rows α) :
    find? k (put id a t) = if k = id then some a else find? k t := by
  induction t with
  | nil => simp [put, find?]
  | cons r t ih =>
    obtain ⟨n, b⟩ := r
    by_cases h : id = n
    · subst h
      by_cases hk : k = id <;> simp [put, find?, hk]
    · by_cases hlt : id < n
      · by_cases hk : k = id <;> simp [put, find?, h, hlt, hk]
      · by_cases hn : k = n
        · subst hn
          have : ¬ k = id := fun e => h e.symm
          simp [put, find?, h, hlt, this]
        · simp [put, find?, h, hlt, hn, ih]

/-- Changing a row changes what is found under its number, and nothing else. -/
theorem find?_modify (id k : Int) (f : α → α) (t : Rows α) :
    find? k (modify id f t) = if k = id then (find? k t).map f else find? k t := by
  induction t with
  | nil => simp [modify, find?]
  | cons r t ih =>
    obtain ⟨n, b⟩ := r
    by_cases h : id = n
    · subst h
      by_cases hk : k = id <;> simp [modify, find?, hk]
    · by_cases hn : k = n
      · subst hn
        have : ¬ k = id := fun e => h e.symm
        simp [modify, find?, h, this]
      · simp [modify, find?, h, hn, ih]

end Rows

end Turnstile
