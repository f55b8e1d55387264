import ReferencePages.Text
/-!
Dictionaries with text keys that remember the order in which keys were first set.
-/

namespace ReferencePages

/-- Pairs of a key and a value, each key once, in the order of first setting. -/
abbrev Dictionary (α : Type) := List (Text × α)

namespace Dictionary

variable {α : Type}

/-- Sets a key: a new key goes to the end, a known one keeps its place. -/
def set (key : Text) (value : α) : Dictionary α → Dictionary α
  | [] => [(key, value)]
  | (k, v) :: rest => if k = key then (key, value) :: rest else (k, v) :: set key value rest

/-- The value of a key. -/
def get? (key : Text) : Dictionary α → Option α
  | [] => none
  | (k, v) :: rest => if k = key then some v else get? key rest

/-- The dictionary without a key. -/
def erase (key : Text) (d : Dictionary α) : Dictionary α := d.filter (·.1 ≠ key)

/-- The pairs set one after the other, so that the last value of a key stands. -/
def ofList (pairs : List (Text × α)) : Dictionary α :=
  pairs.foldl (fun d (k, v) => set k v d) []

/-- What is set last is what is found. -/
theorem get?_set_self (key : Text) (value : α) (d : Dictionary α) :
    get? key (set key value d) = some value := by
  induction d with
  | nil => simp [set, get?]
  | cons p rest ih =>
    obtain ⟨k, v⟩ := p
    by_cases h : k = key
    · simp [set, get?, h]
    · simp [set, get?, h, ih]

/-- Setting one key leaves every other key as it is. -/
theorem get?_set_of_ne {key other : Text} (h : other ≠ key) (value : α) (d : Dictionary α) :
    get? other (set key value d) = get? other d := by
  induction d with
  | nil => simp [set, get?, Ne.symm h]
  | cons p rest ih =>
    obtain ⟨k, v⟩ := p
    by_cases hk : k = key
    · subst hk
      simp [set, get?, Ne.symm h]
    · simp only [set, if_neg hk, get?, ih]

end Dictionary
end ReferencePages
