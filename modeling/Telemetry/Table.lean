/-
Tables that remember the order in which their keys arrived.

A table holds one entry for each key.  An entry that is updated keeps its place, and
a new key goes to the end.  The two lemmas behind the definitions say all that a
reader of a table can observe: what is found under a key after an update, and which
keys there are.
-/
namespace Telemetry

/-- A table from keys to values, in the order of the keys' arrival. -/
structure Table (κ α : Type) where
  entries : List (κ × α)

namespace Table

variable {κ α : Type} [DecidableEq κ]

/-- The table without entries. -/
def empty : Table κ α := ⟨[]⟩

/-- What is found under a key in a list of entries. -/
def find (key : κ) : List (κ × α) → Option α
  | [] => none
  | (k, a) :: rest => if k = key then some a else find key rest

/-- What is found under a key. -/
def get? (table : Table κ α) (key : κ) : Option α := find key table.entries

/-- The keys, in order of arrival. -/
def keys (table : Table κ α) : List κ := table.entries.map Prod.fst

/-- Replaces what a list of entries holds under a key. -/
def put (key : κ) (change : Option α → α) : List (κ × α) → List (κ × α)
  | [] => [(key, change none)]
  | (k, a) :: rest =>
    if k = key then (k, change (some a)) :: rest else (k, a) :: put key change rest

/-- Replaces the value under a key by a function of what was there. -/
def alter (table : Table κ α) (key : κ) (change : Option α → α) : Table κ α :=
  ⟨put key change table.entries⟩

/-- Puts a value under a key, in place of any that was there. -/
def insert (table : Table κ α) (key : κ) (value : α) : Table κ α :=
  table.alter key fun _ => value

/-! ### An update changes its own key only -/

theorem find_put (key other : κ) (change : Option α → α) (l : List (κ × α)) :
    find other (put key change l)
      = if key = other then some (change (find key l)) else find other l := by
  induction l with
  | nil => by_cases h : key = other <;> simp [put, find, h]
  | cons entry rest ih =>
    obtain ⟨k, a⟩ := entry
    by_cases hk : k = key
    · subst hk
      by_cases h : k = other <;> simp [put, find, h]
    · by_cases h : key = other
      · subst h; simp [put, find, hk, ih]
      · simp only [put, hk, if_false, find, ih, h]

theorem get?_alter (table : Table κ α) (key other : κ) (change : Option α → α) :
    (table.alter key change).get? other
      = if key = other then some (change (table.get? key)) else table.get? other :=
  find_put key other change table.entries

theorem get?_insert (table : Table κ α) (key other : κ) (value : α) :
    (table.insert key value).get? other = if key = other then some value else table.get? other :=
  get?_alter ..

/-! ### An update adds its key only if it is new -/

theorem map_fst_put (key : κ) (change : Option α → α) (l : List (κ × α)) :
    (put key change l).map Prod.fst
      = if key ∈ l.map Prod.fst then l.map Prod.fst else l.map Prod.fst ++ [key] := by
  induction l with
  | nil => simp [put]
  | cons entry rest ih =>
    obtain ⟨k, a⟩ := entry
    by_cases hk : k = key
    · subst hk; simp [put]
    · have hk' : key ≠ k := fun h => hk h.symm
      by_cases hm : key ∈ rest.map Prod.fst
      · simp only [put, hk, if_false, List.map_cons, ih, hm, if_true, List.mem_cons, or_true]
      · simp only [put, hk, if_false, List.map_cons, ih, hm, List.mem_cons, hk', or_self,
          List.cons_append]

theorem keys_alter (table : Table κ α) (key : κ) (change : Option α → α) :
    (table.alter key change).keys
      = if key ∈ table.keys then table.keys else table.keys ++ [key] :=
  map_fst_put key change table.entries

end Table

end Telemetry
