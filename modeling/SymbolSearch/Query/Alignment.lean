set_option autoImplicit false

/-!
Alignments of a pattern with parts of a field. The table of edit costs is kept a column at a time,
one cell for each front of the pattern; a column's last cell is the best alignment of the whole
pattern that ends there.
-/

namespace SymbolSearch.Alignment

-- The cheapest way to end here: the number of edits and the offset where the aligned part of the
-- field starts.
structure Cell where
  cost : Nat
  start : Nat
deriving DecidableEq, Inhabited, Repr

-- Of three ways to reach a cell the cheapest; replacing goes before skipping a character of the
-- pattern, and that before skipping one of the field.
def Cell.cheapest (replaced skippedPattern skippedField : Cell) : Cell :=
  if replaced.cost ≤ skippedPattern.cost ∧ replaced.cost ≤ skippedField.cost then replaced
  else if skippedPattern.cost ≤ skippedField.cost then skippedPattern
  else skippedField

-- The cells below `above` in the column of the field character `c`, given the cells of the column
-- before it from the row of `above` on.
def columnBelow (c : Char) (above : Cell) : List Char → List Cell → List Cell
  | p :: pattern, diagonal :: left :: previous =>
    -- From the left above, from above, and from the left.
    let cell := Cell.cheapest
      { diagonal with cost := diagonal.cost + (if p = c then 0 else 1) }
      { above with cost := above.cost + 1 }
      { left with cost := left.cost + 1 }
    cell :: columnBelow c cell pattern (left :: previous)
  | _, _ => []

def firstColumn (pattern : List Char) : List Cell :=
  (List.range (pattern.length + 1)).map fun row => { cost := row, start := 0 }

def nextColumn (pattern : List Char) (c : Char) (stop : Nat) (previous : List Cell) : List Cell :=
  -- Nothing of the pattern is aligned with nothing of the field, at any offset.
  let top : Cell := { cost := 0, start := stop }
  top :: columnBelow c top pattern previous

def endings (pattern : List Char) (stop : Nat) (column : List Cell) : List Char → List (Nat × Cell)
  | [] => []
  | c :: field =>
    let next := nextColumn pattern c (stop + 1) column
    (stop + 1, next.getLastD { cost := 0, start := 0 }) :: endings pattern (stop + 1) next field

def occurrence? (pattern : List Char) : List Char → Option Nat
  | [] => if pattern.isEmpty then some 0 else none
  | c :: field =>
    if pattern.isPrefixOf (c :: field) then some 0
    else (occurrence? pattern field).map (· + 1)

end SymbolSearch.Alignment
