import SymbolSearch.Query.Alignment
import SymbolSearch.Query.Measure
import SymbolSearch.Text.LowerCase

set_option autoImplicit false

namespace SymbolSearch

structure Pattern where
  chars : List Char
  nonempty : chars ≠ []

theorem Text.lowerChar_ne_nil (c : Char) : Text.lowerChar c ≠ [] := by
  unfold Text.lowerChar
  split
  next => simp
  next => split <;> simp

theorem Text.lowerFrom_ne_nil (before : List Char) (c : Char) (rest : List Char) :
    Text.lowerFrom before (c :: rest) ≠ [] := by
  unfold Text.lowerFrom
  split
  next => simp
  next => simp [Text.lowerChar_ne_nil]

def Pattern.ofQuery? (query : String) : Option Pattern :=
  match Text.trim query.toList with
  | [] => none
  | c :: rest => some ⟨Text.lowerCase (c :: rest), Text.lowerFrom_ne_nil [] c rest⟩

def Pattern.length (pattern : Pattern) : Nat :=
  pattern.chars.length

def foldField (text : String) : List Char :=
  Text.lowerCase text.toList

structure FieldWeights (α : Type) where
  name : α
  searchable : α
  description : α
  parentName : α

structure SearchSettings (α : Type) where
  weights : FieldWeights α
  threshold : α
  location : Nat
  distance : Nat
  minLength : Nat

structure FieldMatch (α : Type) where
  distance : α
  start : Nat
  length : Nat

abbrev FieldMatcher (α : Type) : Type :=
  Pattern → List Char → Option (FieldMatch α)

namespace FieldMatch

variable {α : Type} [Measure α] (settings : SearchSettings α)

def penalty (start : Nat) : α :=
  Measure.div
    (Measure.ofNat ((start - settings.location) + (settings.location - start)))
    (Measure.ofNat (max settings.distance 1))

def verbatim? (pattern field : List Char) : Option (FieldMatch α) :=
  (Alignment.occurrence? pattern field).map fun start =>
    { distance := penalty settings start, start, length := pattern.length }

def ofEnding (pattern : List Char) (stop : Nat) (cell : Alignment.Cell) : FieldMatch α :=
  { distance := Measure.add
      (Measure.div (Measure.ofNat cell.cost) (Measure.ofNat pattern.length))
      (penalty settings cell.start)
    start := cell.start
    length := stop - cell.start }

def nearest? : List (FieldMatch α) → Option (FieldMatch α)
  | [] => none
  | first :: rest => some (rest.foldl
      (fun best next => if Measure.lt next.distance best.distance then next else best) first)

def approximate? (pattern field : List Char) : Option (FieldMatch α) :=
  nearest? ((Alignment.endings pattern 0 (Alignment.firstColumn pattern) field).map
    fun (stop, cell) => ofEnding settings pattern stop cell)

-- The match that is put to the test of acceptance. An exact one without penalty cannot be beaten;
-- any other one gives way to a strictly nearer alignment.
def best? (pattern field : List Char) : Option (FieldMatch α) :=
  match verbatim? settings pattern field with
  | none => approximate? settings pattern field
  | some exact =>
    -- Nothing is nearer than no edits at the preferred offset.
    if Measure.isZero exact.distance then some exact
    else
      match approximate? settings pattern field with
      | none => some exact
      | some edited => if Measure.lt edited.distance exact.distance then some edited else some exact

def accepted (candidate : FieldMatch α) : Bool :=
  Measure.le candidate.distance settings.threshold &&
    decide (max settings.minLength 1 ≤ candidate.length)

def approximate : FieldMatcher α := fun pattern field =>
  (best? settings pattern.chars field).filter (accepted settings)

def equality : FieldMatcher α := fun pattern field =>
  if pattern.chars = field then
    some { distance := Measure.ofNat 0, start := 0, length := field.length }
  else none

end FieldMatch

def missDistance {α : Type} [Measure α] : α :=
  Measure.ofNat 1

def leastBy {α : Type} [Measure α] : List α → Option α
  | [] => none
  | first :: rest => some (rest.foldl
      (fun least next => if Measure.order next least = .lt then next else least) first)

-- The score of the fields that are present, each with its weight and the distance of its match: the
-- weighted mean, a miss counting as one. Without positive total weight the nearest field decides.
def combineFields {α : Type} [Measure α] (fields : List (α × Option α)) : Option α :=
  if fields.all fun field => field.2.isNone then none
  else
    -- Absent fields are not in the list; present ones without a match weigh in as misses.
    let total := Measure.sum (fields.map (·.1))
    if Measure.le total (Measure.ofNat 0) then leastBy (fields.filterMap (·.2))
    else
      let weighted := Measure.sum (fields.map fun field =>
        Measure.mul field.1 (field.2.getD missDistance))
      some (Measure.div weighted total)

end SymbolSearch
