/-!
# Sorted association lists

Finite maps with text keys, kept in key order. `insert` replaces the value of a present key, so a
key occurs once in anything built by `insert`.
-/

set_option autoImplicit false

namespace HttpService

/-- A finite map from texts, in key order when built by `insert`. -/
abbrev Assoc (α : Type) := List (String × α)

namespace Assoc

variable {α : Type}

/-- The value under a key. -/
def find? (key : String) : Assoc α → Option α
  | [] => none
  | (k, v) :: rest => if k = key then some v else find? key rest

/-- Whether a key is present. -/
def contains (key : String) (m : Assoc α) : Bool :=
  (find? key m).isSome

/-- Puts a value under a key, at its place in key order. -/
def insert (key : String) (value : α) : Assoc α → Assoc α
  | [] => [(key, value)]
  | (k, v) :: rest =>
    if k = key then (key, value) :: rest
    else if key < k then (key, value) :: (k, v) :: rest
    else (k, v) :: insert key value rest

/-- Removes a key. -/
def erase (key : String) : Assoc α → Assoc α
  | [] => []
  | (k, v) :: rest => if k = key then rest else (k, v) :: erase key rest

/-- The keys in order. -/
def keys (m : Assoc α) : List String :=
  m.map (·.1)

/-- Inserts pairs from left to right, so that the last value of a key stays. -/
def ofList (pairs : List (String × α)) : Assoc α :=
  pairs.foldl (fun m (k, v) => insert k v m) []

/-- Puts a value under a key unless the key is present. -/
def insertNew (key : String) (value : α) (m : Assoc α) : Assoc α :=
  if contains key m then m else insert key value m

theorem find?_insert_self (key : String) (value : α) (m : Assoc α) :
    find? key (insert key value m) = some value := by
  induction m with
  | nil => simp [insert, find?]
  | cons p rest ih =>
    obtain ⟨k, v⟩ := p
    rw [insert]
    split
    · simp [find?]
    · split
      · simp [find?]
      · rename_i hne _
        simp [find?, hne, ih]

theorem find?_insert_of_ne {key other : String} (h : other ≠ key) (value : α) (m : Assoc α) :
    find? other (insert key value m) = find? other m := by
  induction m with
  | nil => simp [insert, find?, Ne.symm h]
  | cons p rest ih =>
    obtain ⟨k, v⟩ := p
    rw [insert]
    split
    · rename_i hk
      simp [find?, hk, Ne.symm h]
    · split
      · simp [find?, Ne.symm h]
      · simp [find?, ih]

end Assoc

end HttpService
