import SymbolSearch.Element

set_option autoImplicit false

namespace SymbolSearch

structure Statistics where
  total : Nat
  byKind : List (Kind × Nat)
  byExtension : List (String × Nat)

namespace Statistics

def tally {κ : Type} [DecidableEq κ] (key : κ) : List (κ × Nat) → List (κ × Nat)
  | [] => [(key, 1)]
  | entry :: rest => if entry.1 = key then (key, entry.2 + 1) :: rest else entry :: tally key rest

def counts {κ : Type} [DecidableEq κ] (keys : List κ) : List (κ × Nat) :=
  keys.foldl (fun table key => tally key table) []

def before (left right : String × Nat) : Bool :=
  right.2 < left.2 || (left.2 == right.2 && left.1 ≤ right.1)

def extensionLimit : Nat := 10

def extensionLabel (element : Element) : String :=
  match element.path.extension? with
  | some extension => "." ++ extension
  | none => "(none)"

def ranked {κ : Type} (name : κ → String) (table : List (κ × Nat)) : List (κ × Nat) :=
  table.mergeSort fun left right => before (name left.1, left.2) (name right.1, right.2)

def ofTables (total : Nat) (kinds : List (Kind × Nat)) (extensions : List (String × Nat)) :
    Statistics :=
  { total
    byKind := ranked Kind.name kinds
    byExtension := (ranked id extensions).take extensionLimit }

def ofElements (elements : List Element) : Statistics :=
  ofTables elements.length (counts (elements.map (·.kind))) (counts (elements.map extensionLabel))

def padded (width : Nat) (text : String) : String :=
  text ++ String.ofList (List.replicate (width - text.length) ' ')

def row (label : String) (count : Nat) : String :=
  "  " ++ padded 15 label ++ " " ++ toString count ++ "\n"

def render (statistics : Statistics) : String :=
  "Index Statistics\n================\n\nTotal elements:   " ++ toString statistics.total ++
    "\n\nElements by type:\n" ++
    String.join (statistics.byKind.map fun entry => row entry.1.name entry.2) ++
    "\nElements by file extension:\n" ++
    String.join (statistics.byExtension.map fun entry => row entry.1 entry.2)

end Statistics

end SymbolSearch
