import Mathlib.Data.List.Infix
import SymbolSearch.Proofs.Alignment.EditDistance
import SymbolSearch.Query.Alignment

set_option autoImplicit false

namespace SymbolSearch.Alignment

-- The front of the pattern can be aligned as the cell says with what was read.
def Cell.Reaches (front read : List Char) (cell : Cell) : Prop :=
  cell.start ≤ read.length ∧ editDistance front (read.drop cell.start) ≤ cell.cost

-- No alignment of the front with an end of what was read is cheaper than the cell.
def Cell.Least (front read : List Char) (cell : Cell) : Prop :=
  ∀ start ≤ read.length, cell.cost ≤ editDistance front (read.drop start)

def Cell.Best (front read : List Char) (cell : Cell) : Prop :=
  cell.Reaches front read ∧ cell.Least front read

theorem Cell.Best.cost_eq {front read : List Char} {cell : Cell} (best : cell.Best front read) :
    editDistance front (read.drop cell.start) = cell.cost :=
  Nat.le_antisymm best.1.2 (best.2 cell.start best.1.1)

theorem Cell.Best.length_of_free {front read : List Char} {cell : Cell}
    (best : cell.Best front read) (free : cell.cost = 0) :
    cell.start + front.length = read.length := by
  have inside := best.1.1
  have aligned := best.cost_eq
  rw [free, editDistance_eq_zero] at aligned
  have lengths := congrArg List.length aligned
  rw [List.length_drop] at lengths
  omega

theorem Cell.cheapest_cases {P : Cell → Prop} {replaced skippedPattern skippedField : Cell}
    (replacing : P replaced) (skippingPattern : P skippedPattern)
    (skippingField : P skippedField) : P (cheapest replaced skippedPattern skippedField) := by
  unfold cheapest
  split
  · exact replacing
  · split
    · exact skippingPattern
    · exact skippingField

theorem Cell.cheapest_cost (replaced skippedPattern skippedField : Cell) :
    (cheapest replaced skippedPattern skippedField).cost =
      min replaced.cost (min skippedPattern.cost skippedField.cost) := by
  unfold cheapest
  split
  · omega
  · split <;> omega

theorem drop_concat {read : List Char} {start : Nat} (c : Char) (inside : start ≤ read.length) :
    (read ++ [c]).drop start = read.drop start ++ [c] :=
  List.drop_append_of_le_length inside

section Step

variable {front read : List Char} {diagonal above left : Cell} (p c : Char)

theorem Cell.Reaches.replace (reaches : diagonal.Reaches front read) :
    Cell.Reaches (front ++ [p]) (read ++ [c])
      { diagonal with cost := diagonal.cost + mismatch p c } := by
  obtain ⟨inside, cost⟩ := reaches
  constructor
  · simp only [List.length_append]
    omega
  · have step := editDistance_concat front (read.drop diagonal.start) p c
    rw [drop_concat c inside]
    simp only
    omega

theorem Cell.Reaches.skipPattern (reaches : above.Reaches front read) :
    Cell.Reaches (front ++ [p]) read { above with cost := above.cost + 1 } := by
  obtain ⟨inside, cost⟩ := reaches
  have step := editDistance_concat_left_le front (read.drop above.start) p
  exact ⟨inside, by simp only; omega⟩

theorem Cell.Reaches.skipField (reaches : left.Reaches front read) :
    Cell.Reaches front (read ++ [c]) { left with cost := left.cost + 1 } := by
  obtain ⟨inside, cost⟩ := reaches
  constructor
  · simp only [List.length_append]
    omega
  · have step := editDistance_concat_right_le front (read.drop left.start) c
    rw [drop_concat c inside]
    simp only
    omega

theorem Cell.Least.step {cell : Cell} (diagonalLeast : diagonal.Least front read)
    (aboveLeast : above.Least front (read ++ [c])) (leftLeast : left.Least (front ++ [p]) read)
    (cost : cell.cost ≤
      min (diagonal.cost + mismatch p c) (min (above.cost + 1) (left.cost + 1))) :
    cell.Least (front ++ [p]) (read ++ [c]) := by
  intro start inside
  by_cases before : start ≤ read.length
  · have replaced := diagonalLeast start before
    have skippedPattern := aboveLeast start inside
    have skippedField := leftLeast start before
    rw [drop_concat c before] at skippedPattern ⊢
    rw [editDistance_concat]
    omega
  · -- Nothing is left to align with: only characters of the pattern were skipped.
    have skippedPattern := aboveLeast start inside
    have empty : (read ++ [c]).drop start = [] := by
      apply List.drop_eq_nil_of_le
      simp only [List.length_append, List.length_singleton]
      omega
    simp only [empty, editDistance_nil_right, List.length_append,
      List.length_singleton] at skippedPattern ⊢
    omega

theorem Cell.Best.step (diagonalBest : diagonal.Best front read)
    (aboveBest : above.Best front (read ++ [c])) (leftBest : left.Best (front ++ [p]) read) :
    Cell.Best (front ++ [p]) (read ++ [c])
      (cheapest { diagonal with cost := diagonal.cost + mismatch p c }
        { above with cost := above.cost + 1 } { left with cost := left.cost + 1 }) := by
  constructor
  · exact cheapest_cases (diagonalBest.1.replace p c) (aboveBest.1.skipPattern p)
      (leftBest.1.skipField c)
  · apply Cell.Least.step p c diagonalBest.2 aboveBest.2 leftBest.2
    rw [cheapest_cost]

end Step

inductive BestColumn (read : List Char) : List Char → List Char → List Cell → Prop where
  | last {front : List Char} {cell : Cell} (best : cell.Best front read) :
      BestColumn read front [] [cell]
  | above {front pattern : List Char} {p : Char} {cell : Cell} {below : List Cell}
      (best : cell.Best front read) (rest : BestColumn read (front ++ [p]) pattern below) :
      BestColumn read front (p :: pattern) (cell :: below)

theorem BestColumn.head {read front pattern : List Char} {column : List Cell}
    (best : BestColumn read front pattern column) :
    ∃ cell below, column = cell :: below ∧ cell.Best front read := by
  cases best with
  | last best => exact ⟨_, _, rfl, best⟩
  | above best _ => exact ⟨_, _, rfl, best⟩

theorem BestColumn.getElem {read front pattern : List Char} {column : List Cell}
    (best : BestColumn read front pattern column) {row : Nat} (inside : row ≤ pattern.length) :
    ∃ cell, column[row]? = some cell ∧ cell.Best (front ++ pattern.take row) read := by
  induction best generalizing row with
  | @last front cell best =>
    have top : row = 0 := by simpa using inside
    exact ⟨cell, by simp [top], by simpa using best⟩
  | @above front pattern p cell below best _ ih =>
    cases row with
    | zero => exact ⟨cell, rfl, by simpa using best⟩
    | succ row =>
      obtain ⟨found, atRow, foundBest⟩ := ih (Nat.le_of_succ_le_succ inside)
      exact ⟨found, atRow, by simpa using foundBest⟩

theorem BestColumn.length {read front pattern : List Char} {column : List Cell}
    (best : BestColumn read front pattern column) : column.length = pattern.length + 1 := by
  induction best with
  | last => rfl
  | above _ _ ih => simp [ih]

theorem Cell.best_top (read : List Char) :
    Cell.Best [] read { cost := 0, start := read.length } := by
  simp [Cell.Best, Cell.Reaches, Cell.Least]

theorem Cell.best_unread (front : List Char) :
    Cell.Best front [] { cost := front.length, start := 0 } := by
  simp [Cell.Best, Cell.Reaches, Cell.Least]

theorem firstColumn_best (pattern : List Char) :
    BestColumn [] [] pattern (firstColumn pattern) := by
  have behind (front : List Char) : BestColumn [] front pattern
      ((List.range' front.length (pattern.length + 1)).map fun row =>
        { cost := row, start := 0 }) := by
    induction pattern generalizing front with
    | nil => exact .last (Cell.best_unread front)
    | cons p pattern ih =>
      have rest := ih (front ++ [p])
      rw [List.length_append, List.length_singleton] at rest
      rw [List.range'_succ, List.map_cons]
      exact .above (Cell.best_unread front) rest
  rw [firstColumn, List.range_eq_range']
  exact behind []

theorem columnBelow_best {read front pattern : List Char} {previous : List Cell} (c : Char)
    (previousBest : BestColumn read front pattern previous) (above : Cell)
    (aboveBest : above.Best front (read ++ [c])) :
    BestColumn (read ++ [c]) front pattern (above :: columnBelow c above pattern previous) := by
  induction previousBest generalizing above with
  | last _ => exact .last aboveBest
  | @above front pattern p diagonal below diagonalBest rest ih =>
    obtain ⟨left, previous, rfl, leftBest⟩ := rest.head
    exact .above aboveBest (ih _ (Cell.Best.step p c diagonalBest aboveBest leftBest))

theorem nextColumn_best {read pattern : List Char} {previous : List Cell} (c : Char)
    (previousBest : BestColumn read [] pattern previous) :
    BestColumn (read ++ [c]) [] pattern (nextColumn pattern c (read.length + 1) previous) := by
  have top := Cell.best_top (read ++ [c])
  rw [List.length_append, List.length_singleton] at top
  exact columnBelow_best c previousBest _ top

def columnFrom (pattern : List Char) (stop : Nat) (column : List Cell) : List Char → List Cell
  | [] => column
  | c :: field => columnFrom pattern (stop + 1) (nextColumn pattern c (stop + 1) column) field

def columnAfter (pattern read : List Char) : List Cell :=
  columnFrom pattern 0 (firstColumn pattern) read

theorem columnFrom_best {read pattern : List Char} {column : List Cell} (field : List Char)
    (best : BestColumn read [] pattern column) :
    BestColumn (read ++ field) [] pattern (columnFrom pattern read.length column field) := by
  induction field generalizing read column with
  | nil => simpa [columnFrom] using best
  | cons c field ih =>
    have next := ih (nextColumn_best c best)
    rw [List.length_append, List.length_singleton, List.append_assoc] at next
    exact next

theorem columnAfter_best (pattern read : List Char) :
    BestColumn read [] pattern (columnAfter pattern read) :=
  columnFrom_best read (firstColumn_best pattern)

theorem endings_getElem (pattern field : List Char) (stop : Nat) (column : List Cell) (read : Nat) :
    (endings pattern stop column field)[read]? =
      if read < field.length then
        some (stop + read + 1,
          (columnFrom pattern stop column (field.take (read + 1))).getLastD
            { cost := 0, start := 0 })
      else none := by
  induction field generalizing stop column read with
  | nil => simp [endings]
  | cons c field ih =>
    cases read with
    | zero => simp [endings, columnFrom]
    | succ read =>
      simp [endings, columnFrom, ih, Nat.add_assoc, Nat.add_comm 1]

theorem lastCell_best (pattern read : List Char) :
    ((columnAfter pattern read).getLastD { cost := 0, start := 0 }).Best pattern read := by
  have column := columnAfter_best pattern read
  obtain ⟨cell, atEnd, best⟩ := column.getElem (Nat.le_refl pattern.length)
  rw [List.getLastD_eq_getLast?, List.getLast?_eq_getElem?, column.length]
  simpa [atEnd] using best

theorem mem_endings {pattern field : List Char} {stop : Nat} {cell : Cell} :
    (stop, cell) ∈ endings pattern 0 (firstColumn pattern) field ↔
      1 ≤ stop ∧ stop ≤ field.length ∧
        cell = (columnAfter pattern (field.take stop)).getLastD { cost := 0, start := 0 } := by
  simp only [List.mem_iff_getElem?, endings_getElem, Option.ite_none_right_eq_some,
    Option.some.injEq, Prod.mk.injEq, Nat.zero_add]
  constructor
  · rintro ⟨index, inside, rfl, rfl⟩
    exact ⟨Nat.le_add_left 1 index, inside, rfl⟩
  · rintro ⟨begun, inside, rfl⟩
    obtain ⟨index, rfl⟩ := Nat.exists_eq_add_of_le' begun
    exact ⟨index, inside, rfl, rfl⟩

/-- When `stop` characters of the field have been read, the cell of each front of the pattern has
the least edit distance of that front to a part of the field that ends there, and the start of such
a part. The cell of the whole pattern is the ending handed out. -/
theorem column_cell_least (pattern field : List Char) (stop row : Nat) (begun : 1 ≤ stop)
    (inField : stop ≤ field.length) (inPattern : row ≤ pattern.length) :
    ∃ cell, (columnAfter pattern (field.take stop))[row]? = some cell ∧
      cell.start ≤ stop ∧
      editDistance (pattern.take row) ((field.take stop).drop cell.start) = cell.cost ∧
      (∀ start ≤ stop,
        cell.cost ≤ editDistance (pattern.take row) ((field.take stop).drop start)) ∧
      (row = pattern.length →
        (endings pattern 0 (firstColumn pattern) field)[stop - 1]? = some (stop, cell)) := by
  have column := columnAfter_best pattern (field.take stop)
  have read : (field.take stop).length = stop := List.length_take_of_le inField
  obtain ⟨cell, atRow, best⟩ := column.getElem inPattern
  rw [List.nil_append] at best
  refine ⟨cell, atRow, by simpa [read] using best.1.1, best.cost_eq, ?_, ?_⟩
  · intro start inside
    exact best.2 start (by omega)
  · rintro rfl
    have last :
        (columnAfter pattern (field.take stop)).getLastD { cost := 0, start := 0 } = cell := by
      rw [List.getLastD_eq_getLast?, List.getLast?_eq_getElem?, column.length]
      simp [atRow]
    have before : stop - 1 < field.length := by omega
    have after : stop - 1 + 1 = stop := by omega
    rw [endings_getElem, if_pos before, Nat.zero_add, after]
    exact congrArg (fun cell => some (stop, cell)) last

theorem column_cell_least_typo :
    1 ≤ 5 ∧ 5 ≤ ['x', 'u', 's', 'e', 'r'].length ∧ 3 ≤ ['u', 's', 'r'].length ∧
      ∃ cell, (columnAfter ['u', 's', 'r'] (['x', 'u', 's', 'e', 'r'].take 5))[3]? = some cell ∧
        cell.start ≤ 5 ∧
        editDistance (['u', 's', 'r'].take 3) ((['x', 'u', 's', 'e', 'r'].take 5).drop cell.start) =
          cell.cost ∧
        (∀ start ≤ 5, cell.cost ≤
          editDistance (['u', 's', 'r'].take 3) ((['x', 'u', 's', 'e', 'r'].take 5).drop start)) ∧
        (3 = ['u', 's', 'r'].length →
          (endings ['u', 's', 'r'] 0 (firstColumn ['u', 's', 'r'])
            ['x', 'u', 's', 'e', 'r'])[5 - 1]? = some (5, cell)) :=
  ⟨by decide, by decide, by decide,
    column_cell_least ['u', 's', 'r'] ['x', 'u', 's', 'e', 'r'] 5 3 (by decide) (by decide)
      (by decide)⟩

example : (columnAfter ['u', 's', 'r'] ['x', 'u', 's', 'e', 'r'])[3]? =
    some { cost := 1, start := 1 } := by
  decide

end SymbolSearch.Alignment
