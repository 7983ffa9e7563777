/-!
Finite maps kept as lists of pairs, one pair for a key. The order of the pairs carries no meaning:
a directory is what `find?` says of each key, and each change is described by what it does to that.
-/

namespace Roster

abbrev Directory (κ ν : Type) := List (κ × ν)

namespace Directory

variable {κ ν : Type} [DecidableEq κ]

def find? (d : Directory κ ν) (key : κ) : Option ν :=
  (List.find? (fun entry => entry.1 = key) d).map (·.2)

def contains (d : Directory κ ν) (key : κ) : Bool :=
  List.any d fun entry => entry.1 = key

/-- Adds a pair, or replaces the value of its key. -/
def put (d : Directory κ ν) (key : κ) (value : ν) : Directory κ ν :=
  if d.contains key then
    List.map (fun entry => if entry.1 = key then (key, value) else entry) d
  else d ++ [(key, value)]

/-- Adds a pair unless its key has a value already. -/
def putNew (d : Directory κ ν) (key : κ) (value : ν) : Directory κ ν :=
  if d.contains key then d else d ++ [(key, value)]

def remove (d : Directory κ ν) (key : κ) : Directory κ ν :=
  List.filter (fun entry => entry.1 ≠ key) d

theorem find?_nil (key : κ) : find? ([] : Directory κ ν) key = none := rfl

theorem find?_cons (entry : κ × ν) (d : Directory κ ν) (key : κ) :
    find? (entry :: d) key = if entry.1 = key then some entry.2 else d.find? key := by
  by_cases same : entry.1 = key <;> simp [find?, same]

theorem find?_append (d e : Directory κ ν) (key : κ) :
    find? (d ++ e) key = (d.find? key).or (e.find? key) := by
  induction d with
  | nil => simp [find?_nil]
  | cons entry rest ih =>
    rw [List.cons_append, find?_cons, find?_cons, ih]
    split <;> simp

theorem contains_eq_isSome_find? (d : Directory κ ν) (key : κ) :
    d.contains key = (d.find? key).isSome := by
  induction d with
  | nil => rfl
  | cons entry rest ih =>
    rw [find?_cons]
    by_cases same : entry.1 = key
    · simp [contains, same]
    · simpa [contains, same] using ih

theorem find?_map_replace (d : Directory κ ν) (key other : κ) (value : ν) :
    find? (List.map (fun entry => if entry.1 = key then (key, value) else entry) d) other =
      if other = key then (d.find? key).map fun _ => value else d.find? other := by
  induction d with
  | nil => simp [find?_nil]
  | cons entry rest ih =>
    rw [List.map_cons, find?_cons, find?_cons, find?_cons, ih]
    grind

theorem find?_put (d : Directory κ ν) (key other : κ) (value : ν) :
    (d.put key value).find? other = if other = key then some value else d.find? other := by
  unfold put
  rw [contains_eq_isSome_find?]
  cases found : d.find? key with
  | none =>
    rw [Option.isSome_none, if_neg (by simp), find?_append, find?_cons, find?_nil]
    grind
  | some old => simp [find?_map_replace, found]

theorem find?_putNew (d : Directory κ ν) (key other : κ) (value : ν) :
    (d.putNew key value).find? other =
      if other = key then some ((d.find? key).getD value) else d.find? other := by
  unfold putNew
  rw [contains_eq_isSome_find?]
  cases found : d.find? key with
  | none =>
    rw [Option.isSome_none, if_neg (by simp), find?_append, find?_cons, find?_nil]
    grind
  | some old =>
    rw [Option.isSome_some, if_pos rfl]
    grind

theorem find?_remove (d : Directory κ ν) (key other : κ) :
    (d.remove key).find? other = if other = key then none else d.find? other := by
  induction d with
  | nil => simp [remove, find?_nil]
  | cons entry rest ih =>
    unfold remove at *
    rw [List.filter_cons, find?_cons]
    split
    · rw [find?_cons, ih]
      grind
    · rw [ih]
      grind

end Directory

end Roster
