/-!
# Edit distance

The least number of insertions, deletions and substitutions of single characters that turn one text
into another, computed row by row.
-/

namespace CardFilter.Text

/-- The entries of the next row behind its first one.  `left` is the entry just written, `corner`
the one above it. -/
def nextEntries (c : Char) : List Char → Nat → Nat → List Nat → List Nat
  | [], _, _, _ => []
  | _, _, _, [] => []
  | d :: target, left, corner, above :: rest =>
    let entry := min (min (left + 1) (above + 1)) (if c = d then corner else corner + 1)
    entry :: nextEntries c target entry above rest

/-- The row for one more character of the source. -/
def nextRow (target : List Char) (row : List Nat) (c : Char) : List Nat :=
  match row with
  | [] => []
  | corner :: rest => (corner + 1) :: nextEntries c target (corner + 1) corner rest

/-- Entry `j` of the last row is the distance to the first `j` characters of the target. -/
def lastRow (source target : List Char) : List Nat :=
  source.foldl (nextRow target) (List.range (target.length + 1))

def editDistance (source target : List Char) : Nat :=
  (lastRow source target).getLastD 0

end CardFilter.Text
