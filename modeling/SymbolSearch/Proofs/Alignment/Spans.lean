import SymbolSearch.Proofs.Alignment.Verbatim

set_option autoImplicit false

namespace SymbolSearch

namespace Alignment

theorem BestColumn.start_le {read front pattern : List Char} {column : List Cell}
    (best : BestColumn read front pattern column) : ∀ cell ∈ column, cell.start ≤ read.length := by
  induction best with
  | last best => simpa using best.1.1
  | above best _ ih => exact List.forall_mem_cons.mpr ⟨best.1.1, ih⟩

theorem columnBelow_start_le {stop : Nat} (c : Char) {above : Cell} {pattern : List Char}
    {previous : List Cell} (aboveInside : above.start ≤ stop)
    (previousInside : ∀ cell ∈ previous, cell.start ≤ stop) :
    ∀ cell ∈ columnBelow c above pattern previous, cell.start ≤ stop := by
  fun_induction columnBelow c above pattern previous with
  | case1 above p pattern diagonal left previous cell ih =>
    obtain ⟨diagonalInside, leftInside, _⟩ := by
      simpa only [List.forall_mem_cons] using previousInside
    have cellInside : cell.start ≤ stop :=
      Cell.cheapest_cases (P := fun cell => cell.start ≤ stop) diagonalInside aboveInside leftInside
    have rest := ih cellInside fun cell member =>
      previousInside cell (List.mem_cons_of_mem _ member)
    exact List.forall_mem_cons.mpr ⟨cellInside, rest⟩
  | case2 => simp

-- Only the top cell starts where the column ends. The cell below it never takes over that start:
-- one character can be replaced at no more cost than skipping it.
theorem nextColumn_start_le {read pattern : List Char} {previous : List Cell} (c : Char)
    (best : BestColumn read [] pattern previous) :
    ∀ cell ∈ (nextColumn pattern c (read.length + 1) previous).tail, cell.start ≤ read.length := by
  have inside := best.start_le
  cases best with
  | last best => simp [nextColumn, columnBelow]
  | @above _ pattern p diagonal below best rest =>
    obtain ⟨left, previous, rfl, _⟩ := rest.head
    have free : diagonal.cost = 0 := by
      have least := best.2 read.length (Nat.le_refl _)
      simpa using least
    have replaced : Cell.cheapest { diagonal with cost := diagonal.cost + if p = c then 0 else 1 }
        { cost := 0 + 1, start := read.length + 1 } { left with cost := left.cost + 1 } =
          { diagonal with cost := diagonal.cost + if p = c then 0 else 1 } := by
      unfold Cell.cheapest
      apply if_pos
      simp only [free]
      split <;> omega
    simp only [nextColumn, columnBelow, List.tail_cons, replaced]
    have diagonalInside : diagonal.start ≤ read.length := inside diagonal List.mem_cons_self
    refine List.forall_mem_cons.mpr ⟨diagonalInside, ?_⟩
    exact columnBelow_start_le c diagonalInside fun cell member =>
      inside cell (List.mem_cons_of_mem _ member)

theorem columnFrom_append (pattern : List Char) (stop : Nat) (column : List Cell)
    (read field : List Char) :
    columnFrom pattern stop column (read ++ field) =
      columnFrom pattern (stop + read.length) (columnFrom pattern stop column read) field := by
  induction read generalizing stop column with
  | nil => rfl
  | cons c read ih => simp [columnFrom, ih, Nat.add_assoc, Nat.add_comm 1]

theorem columnAfter_concat (pattern read : List Char) (c : Char) :
    columnAfter pattern (read ++ [c]) =
      nextColumn pattern c (read.length + 1) (columnAfter pattern read) := by
  simp [columnAfter, columnFrom_append, columnFrom]

theorem lastCell_start_lt {pattern read : List Char} (nonempty : pattern ≠ []) (begun : read ≠ []) :
    ((columnAfter pattern read).getLastD { cost := 0, start := 0 }).start < read.length := by
  obtain ⟨read, c, rfl⟩ := (List.eq_nil_or_concat' read).resolve_left begun
  have column := (columnAfter_best pattern (read ++ [c])).length
  have inside := nextColumn_start_le c (columnAfter_best pattern read)
  rw [columnAfter_concat] at column ⊢
  generalize nextColumn pattern c (read.length + 1) (columnAfter pattern read) = cells
    at column inside ⊢
  cases cells with
  | nil => simp at column
  | cons top below =>
    -- The pattern has a first character, so the last cell is not the top one.
    have more : below ≠ [] := by
      rintro rfl
      exact nonempty (List.length_eq_zero_iff.mp (Nat.succ.inj column).symm)
    have last := inside _ (List.getLast_mem more)
    rw [List.getLastD_cons, List.getLastD_eq_getLast?, List.getLast?_eq_some_getLast more,
      Option.getD_some, List.length_append, List.length_singleton]
    exact Nat.lt_succ_of_le last

end Alignment

namespace FieldMatch

open SymbolSearch.Alignment (editDistance endings firstColumn)

variable {settings : SearchSettings Rat} {pattern field : List Char} {found : FieldMatch Rat}

def Measures (settings : SearchSettings Rat) (pattern field : List Char)
    (found : FieldMatch Rat) : Prop :=
  found.start + found.length ≤ field.length ∧
    found.distance =
      (editDistance pattern ((field.drop found.start).take found.length) : Rat) / pattern.length +
        |(found.start : Rat) - settings.location| / (max settings.distance 1 : Nat)

theorem verbatim?_measures (nonempty : pattern ≠ [])
    (exact : verbatim? settings pattern field = some found) :
    found.Measures settings pattern field := by
  obtain ⟨occurs, same⟩ := verbatim?_eq_some exact
  have length : found.length = pattern.length := congrArg FieldMatch.length same
  have distance : found.distance = penalty settings found.start := congrArg FieldMatch.distance same
  have inside := occurs.length_le
  have positive := List.length_pos_iff.mpr nonempty
  rw [List.length_drop] at inside
  have part : (field.drop found.start).take found.length = pattern := by
    rw [length]
    exact (List.prefix_iff_eq_take.mp occurs).symm
  constructor
  · omega
  · rw [part, Alignment.editDistance_eq_zero.mpr rfl, distance, penalty_eq, Nat.cast_zero, zero_div,
      zero_add]

theorem approximate?_measures (nearest : approximate? settings pattern field = some found) :
    found.Measures settings pattern field := by
  obtain ⟨stop, cell, inside, best, rfl⟩ := (approximate?_eq_some nearest).1
  have begun := best.1.1
  rw [List.length_take_of_le inside] at begun
  constructor
  · simp only [ofEnding]
    omega
  · have part : (field.drop cell.start).take (stop - cell.start) =
        (field.take stop).drop cell.start := (List.drop_take ..).symm
    rw [ofEnding_distance, penalty_eq]
    simp only [ofEnding, part, best.cost_eq]

theorem best?_cases (submitted : best? settings pattern field = some found) :
    verbatim? settings pattern field = some found ∨
      approximate? settings pattern field = some found := by
  unfold best? at submitted
  cases exact : verbatim? settings pattern field with
  | none => exact .inr (by simpa [exact] using submitted)
  | some occurrence =>
    simp only [exact] at submitted
    split at submitted
    next => exact .inl submitted
    next =>
      cases nearest : approximate? settings pattern field with
      | none => exact .inl (by simpa [nearest] using submitted)
      | some edited =>
        simp only [nearest] at submitted
        split at submitted
        next => exact .inr submitted
        next => exact .inl submitted

theorem approximate_eq_some {pattern : Pattern}
    (reported : approximate settings pattern field = some found) :
    best? settings pattern.chars field = some found ∧
      found.distance ≤ settings.threshold ∧ max settings.minLength 1 ≤ found.length := by
  obtain ⟨submitted, passed⟩ := Option.filter_eq_some_iff.mp reported
  exact ⟨submitted, by simpa [accepted] using passed⟩

/-- A reported match has a part of the field that is not empty and not too short, and its distance,
not above the threshold, is the one of that part. Every alignment of the whole pattern has such a
part, since it starts before it ends. -/
theorem reported_match_sound (settings : SearchSettings Rat) (pattern : Pattern)
    (field : List Char) :
    (∀ found, approximate settings pattern field = some found →
      1 ≤ found.length ∧ settings.minLength ≤ found.length ∧
      found.start + found.length ≤ field.length ∧
      found.distance ≤ settings.threshold ∧
      found.distance =
        (editDistance pattern.chars ((field.drop found.start).take found.length) : Rat) /
            pattern.length +
          |(found.start : Rat) - settings.location| / (max settings.distance 1 : Nat)) ∧
    ∀ stop, 1 ≤ stop → stop ≤ field.length →
      ∃ cell,
        (endings pattern.chars 0 (firstColumn pattern.chars) field)[stop - 1]? = some (stop, cell) ∧
        cell.start < stop := by
  constructor
  · intro found reported
    obtain ⟨submitted, near, long⟩ := approximate_eq_some reported
    have measures : found.Measures settings pattern.chars field :=
      (best?_cases submitted).elim (verbatim?_measures pattern.nonempty) approximate?_measures
    exact ⟨by omega, by omega, measures.1, near, measures.2⟩
  · intro stop begun inField
    have read : (field.take stop).length = stop := List.length_take_of_le inField
    have nonempty : field.take stop ≠ [] := List.ne_nil_of_length_pos (by omega)
    have start := Alignment.lastCell_start_lt pattern.nonempty nonempty
    rw [read] at start
    refine ⟨_, ?_, start⟩
    rw [Alignment.endings_getElem, if_pos (by omega), Nat.zero_add, Nat.sub_add_cancel begun]
    rfl

def preferringStart : SearchSettings Rat :=
  { weights := ⟨1, 1, 1, 1⟩, threshold := 1 / 2, location := 0, distance := 10, minLength := 2 }

theorem reported_match_sound_typo :
    ∃ found,
      approximate preferringStart ⟨['u', 's', 'r'], by decide⟩ ['x', 'u', 's', 'e', 'r'] =
        some found ∧
      found.start = 1 ∧ found.length = 2 ∧ found.distance ≤ 1 / 2 ∧
      found.distance =
        (editDistance ['u', 's', 'r'] ((['x', 'u', 's', 'e', 'r'].drop 1).take 2) : Rat) / 3 +
          |((1 : Nat) : Rat) - (0 : Nat)| / (max 10 1 : Nat) ∧
      ∃ cell,
        (endings ['u', 's', 'r'] 0 (firstColumn ['u', 's', 'r']) ['x', 'u', 's', 'e', 'r'])[2]? =
            some (3, cell) ∧
          cell.start < 3 := by
  have reported :
      approximate preferringStart ⟨['u', 's', 'r'], by decide⟩ ['x', 'u', 's', 'e', 'r'] =
        some { distance := 13 / 30, start := 1, length := 2 } := by
    with_unfolding_all rfl
  obtain ⟨sound, columns⟩ :=
    reported_match_sound preferringStart ⟨['u', 's', 'r'], by decide⟩ ['x', 'u', 's', 'e', 'r']
  obtain ⟨_, _, _, near, distance⟩ := sound _ reported
  exact ⟨_, reported, rfl, rfl, near, distance, columns 3 (by decide) (by decide)⟩

end FieldMatch

end SymbolSearch
