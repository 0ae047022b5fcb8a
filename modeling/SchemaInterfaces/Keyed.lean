/-! Lists of keys and values in the order in which the keys arrived, each key once. -/

namespace SchemaInterfaces.Keyed
variable {κ α : Type} [DecidableEq κ]

/-- Puts a value in the place of the one with its key, or at the end. -/
def put (key : κ) (x : α) : List (κ × α) → List (κ × α)
  | [] => [(key, x)]
  | (k, old) :: rest => if k = key then (k, x) :: rest else (k, old) :: put key x rest

theorem lookup_put (key k : κ) (x : α) (xs : List (κ × α)) :
    (put key x xs).lookup k = if k = key then some x else xs.lookup k := by
  have beq (j : κ) (h : k ≠ j) : (k == j) = false := by simpa using h
  induction xs with
  | nil =>
    by_cases h : k = key
    · simp [put, h]
    · simp [put, List.lookup_cons, h, beq key h]
  | cons y xs ih =>
    obtain ⟨j, old⟩ := y
    by_cases hj : j = key
    · subst hj
      by_cases h : k = j
      · simp [put, h]
      · simp [put, List.lookup_cons, h, beq j h]
    · by_cases h : k = j
      · subst h
        simp [put, hj]
      · simp [put, List.lookup_cons, hj, beq j h, ih]

/-- Takes a key away. -/
def erase (key : κ) (xs : List (κ × α)) : List (κ × α) := xs.filter fun (k, _) => k ≠ key

end SchemaInterfaces.Keyed
