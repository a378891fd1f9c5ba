import SymbolSearch.Interactive.Finder
import SymbolSearch.Text.Basic

set_option autoImplicit false

namespace SymbolSearch.Screen

inductive Color where
  | reset
  | blue
  | cyan
  | darkGray
  | magenta
  | white
  | yellow
deriving DecidableEq, Repr

structure Style where
  foreground : Color
  background : Color
  bold : Bool
  reversed : Bool
deriving DecidableEq, Repr

namespace Style

def plain : Style :=
  { foreground := .reset, background := .reset, bold := false, reversed := false }

def colored (style : Style) (color : Color) : Style :=
  { style with foreground := color }

def emphatic (style : Style) : Style :=
  { style with bold := true }

end Style

structure Cell where
  char : Char
  style : Style
deriving DecidableEq, Repr

abbrev Row : Type := List Cell

def cells (style : Style) (text : String) : Row :=
  (text.toList.filter fun c => !Text.isControl c).map fun char => { char, style }

def fit (width : Nat) (style : Style) (filler : Char) (row : Row) : Row :=
  row.take width ++ List.replicate (width - row.length) { char := filler, style }

def fill (width : Nat) (style : Style) (row : Row) : Row :=
  fit width style ' ' row

def box (width height : Nat) (style : Style) (title : String) (rows : List Row) : List Row :=
  let inside := width - 2
  let edge := fun (left : Char) (middle : Row) (right : Char) =>
    { char := left, style : Cell } :: middle ++ [{ char := right, style : Cell }]
  let blank := fill inside style []
  -- Rows that find no room are cut off.
  let body := (rows ++ List.replicate (height - 2 - rows.length) blank).take (height - 2)
  [edge '┌' (fit inside style '─' (cells style title)) '┐'] ++
    body.map (fun row => edge '│' row '│') ++
    [edge '└' (fit inside style '─' []) '┘']

def beside (left right : List Row) : List Row :=
  List.zipWith (· ++ ·) left right

def alignRight (width : Nat) (text : String) : String :=
  "".pushn ' ' (width - text.length) ++ text

def label : Style :=
  Style.plain.colored .darkGray

variable (finder : Finder Float)

def modeCells (mode : Mode) : Row :=
  let style :=
    if mode = finder.session.mode then
      { (Style.plain.colored .blue).emphatic with reversed := true }
    else label
  cells style (" " ++ mode.label ++ " ")

def heading (width : Nat) : Row :=
  fill width .plain
    (cells .plain
        ("Index: " ++ toString finder.workspace.index.entries.length ++ " elements  ") ++
      modeCells finder .normal ++ cells .plain " " ++ modeCells finder .ai)

def inputBox (width : Nat) : List Row :=
  let style := Style.plain.colored .yellow
  box width 3 style " Search (Tab: mode, Up/Down: select, Enter: open, Esc: quit) "
    [fill (width - 2) style (cells style finder.session.input)]

def resultRow (width place : Nat) (result : SearchResult Float) : Row :=
  let base :=
    if place = finder.selected then { Style.plain.emphatic with background := .darkGray }
    else .plain
  fill width base
    (cells (base.colored .darkGray) (alignRight 2 (toString (place + 1)) ++ ". ") ++
      cells (base.colored .magenta) (result.element.kind.icon ++ " ") ++
      cells (base.colored .white) result.element.qualifiedName ++
      cells (base.colored .darkGray) (" (" ++ Decimal.fixed 3 result.score ++ ")"))

def resultsBox (width height : Nat) : List Row :=
  let title :=
    if finder.session.loading then " Results (searching...) "
    else " Results (" ++ toString finder.results.length ++ ") "
  box width height .plain title
    (finder.results.zipIdx.map fun (result, place) => resultRow finder (width - 2) place result)

def previewRow (line : Nat) (numbered : Nat × String) : Row :=
  let style := if numbered.1 = line then (Style.plain.colored .yellow).emphatic else .plain
  cells label (alignRight 4 (toString numbered.1) ++ " ") ++ cells style numbered.2

def detailRows (element : Element) : List Row :=
  [cells label "Path: " ++ cells (Style.plain.colored .blue) element.path.text,
    cells label "Line: " ++ cells (Style.plain.colored .yellow) (toString element.line),
    cells label "Type: " ++ cells .plain element.kind.name,
    cells .plain element.description,
    []] ++
    finder.preview.map (previewRow element.line)

def detailsBox (width height : Nat) : List Row :=
  let filled := fun (rows : List Row) => rows.map (fill (width - 2) .plain)
  match finder.selected? with
  | none => box width height .plain " Details " (filled [cells .plain "No selection"])
  | some { element, .. } =>
    box width height .plain (" " ++ element.path.baseName ++ " ")
      (filled (detailRows finder element))

def statusRow (width took : Nat) : Row :=
  let style := Style.plain.colored .cyan
  fill width style (cells style ((Text.lines (finder.status.message took)).headD ""))

def rows (width height took : Nat) : List Row :=
  let middle := height - 5
  [heading finder width] ++ inputBox finder width ++
    beside (resultsBox finder (width / 2) middle)
      (detailsBox finder (width - width / 2) middle) ++
    [statusRow finder width took]

def cursor : Nat × Nat :=
  (finder.session.input.length + 1, 2)

structure Run where
  row : Nat
  first : Nat
  last : Nat
  style : Style
deriving DecidableEq, Repr

def addCell (row column : Nat) (style : Style) : List Run → List Run
  | [] => [{ row, first := column, last := column, style }]
  | run :: runs =>
    if run.style = style && run.last + 1 = column then { run with last := column } :: runs
    else { row, first := column, last := column, style } :: run :: runs

def runs (row : Nat) (cells : Row) : List Run :=
  ((cells.zipIdx.filter fun cell => cell.1.style ≠ .plain).foldl
    (fun runs cell => addCell row cell.2 cell.1.style runs) []).reverse

end SymbolSearch.Screen
