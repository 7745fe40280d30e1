/-!
# Ordered names

Sets and tables keyed by text are lists sorted by code points, which is the order of the UTF-8 bytes
as well.  A set holds each name once, and a table each key once.
-/

namespace CardFilter

/-- A table from names to values, sorted by name. -/
abbrev Table (α : Type) := List (String × α)

namespace Table

variable {α : Type}

/-- Puts a value under a name, over any value it had. -/
def insert (name : String) (value : α) : Table α → Table α
  | [] => [(name, value)]
  | (other, held) :: rest =>
    if name < other then (name, value) :: (other, held) :: rest
    else if name = other then (name, value) :: rest
    else (other, held) :: insert name value rest

/-- Puts pairs in one after the other. -/
def insertAll (pairs : List (String × α)) (table : Table α) : Table α :=
  pairs.foldl (fun table pair ↦ table.insert pair.1 pair.2) table

/-- Sorts pairs by name; of several with one name the last one stays. -/
def ofPairs (pairs : List (String × α)) : Table α := insertAll pairs []

end Table

/-- A set of names, sorted. -/
abbrev NameSet := List String

namespace NameSet

def insert (name : String) : NameSet → NameSet
  | [] => [name]
  | other :: rest =>
    if name < other then name :: other :: rest
    else if name = other then other :: rest
    else other :: insert name rest

def insertAll (names : List String) (set : NameSet) : NameSet :=
  names.foldl (fun set name ↦ set.insert name) set

end NameSet

end CardFilter
