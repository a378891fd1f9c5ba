import SymbolSearch.Proofs.Alignment.Spans

set_option autoImplicit false

namespace SymbolSearch.FieldMatch

open SymbolSearch.Alignment (Cell endings firstColumn)

-- A match that a field offers: an occurrence of the pattern, or the alignment kept at an end.
inductive Candidate (settings : SearchSettings Rat) (pattern field : List Char) :
    FieldMatch Rat → Prop where
  | occurrence {start : Nat} (occurs : pattern <+: field.drop start) :
      Candidate settings pattern field
        { distance := penalty settings start, start, length := pattern.length }
  | ending {stop : Nat} {cell : Cell}
      (kept : (stop, cell) ∈ endings pattern 0 (firstColumn pattern) field) :
      Candidate settings pattern field (ofEnding settings pattern stop cell)

variable {settings : SearchSettings Rat} {pattern field : List Char} {found : FieldMatch Rat}

theorem verbatim?_candidate (exact : verbatim? settings pattern field = some found) :
    Candidate settings pattern field found := by
  obtain ⟨occurs, same⟩ := verbatim?_eq_some exact
  rw [same]
  exact .occurrence occurs

theorem approximate?_kept (nearest : approximate? settings pattern field = some found) :
    ∃ stop cell, (stop, cell) ∈ endings pattern 0 (firstColumn pattern) field ∧
      found = ofEnding settings pattern stop cell := by
  rw [approximate?, nearest?_eq_argmin] at nearest
  obtain ⟨⟨stop, cell⟩, kept, rfl⟩ := List.mem_map.mp (List.argmin_mem nearest)
  exact ⟨stop, cell, kept, rfl⟩

theorem approximate?_candidate (nearest : approximate? settings pattern field = some found) :
    Candidate settings pattern field found := by
  obtain ⟨stop, cell, kept, rfl⟩ := approximate?_kept nearest
  exact .ending kept

theorem best?_candidate (submitted : best? settings pattern field = some found) :
    Candidate settings pattern field found := by
  rcases best?_cases submitted with exact | nearest
  · exact verbatim?_candidate exact
  · exact approximate?_candidate nearest

theorem Candidate.length_pos (nonempty : pattern ≠ [])
    (candidate : Candidate settings pattern field found) : 1 ≤ found.length := by
  cases candidate with
  | occurrence _ => exact List.length_pos_iff.mpr nonempty
  | @ending stop cell kept =>
    obtain ⟨begun, inside, rfl⟩ := Alignment.mem_endings.mp kept
    have read : (field.take stop).length = stop := List.length_take_of_le inside
    have started := Alignment.lastCell_start_lt nonempty
      (List.ne_nil_of_length_pos (by omega : 0 < (field.take stop).length))
    simp only [ofEnding]
    omega

theorem Candidate.field_ne_nil (nonempty : pattern ≠ [])
    (candidate : Candidate settings pattern field found) : field ≠ [] := by
  rintro rfl
  cases candidate with
  | occurrence occurs => exact nonempty (by simpa using occurs)
  | ending kept => simp [endings] at kept

theorem Candidate.nearest_le (nonempty : pattern ≠ []) {nearest : FieldMatch Rat}
    (isNearest : approximate? settings pattern field = some nearest)
    (candidate : Candidate settings pattern field found) : nearest.distance ≤ found.distance := by
  cases candidate with
  | occurrence occurs => exact approximate?_le_penalty isNearest nonempty occurs
  | @ending stop cell kept => exact (approximate?_eq_some isNearest).2 (stop, cell) kept

theorem Candidate.distance_nonneg (candidate : Candidate settings pattern field found) :
    0 ≤ found.distance := by
  cases candidate with
  | occurrence _ => exact penalty_nonneg settings _
  | @ending stop cell _ =>
    have moved := penalty_nonneg settings cell.start
    rw [ofEnding_distance]
    positivity

theorem best?_le_nearest {nearest : FieldMatch Rat}
    (isNearest : approximate? settings pattern field = some nearest) :
    ∃ submitted, best? settings pattern field = some submitted ∧
      submitted.distance ≤ nearest.distance := by
  unfold best?
  cases verbatim? settings pattern field with
  | none => exact ⟨nearest, isNearest, le_rfl⟩
  | some exact =>
    simp only [isNearest, Measure.isZero_rat, Measure.lt_rat, decide_eq_true_eq]
    split
    next free =>
      refine ⟨exact, rfl, ?_⟩
      rw [free]
      exact (approximate?_candidate isNearest).distance_nonneg
    next =>
      split
      next => exact ⟨nearest, rfl, le_rfl⟩
      next notNearer => exact ⟨exact, rfl, not_lt.mp notNearer⟩

theorem Candidate.best?_le (nonempty : pattern ≠ [])
    (candidate : Candidate settings pattern field found) :
    ∃ submitted, best? settings pattern field = some submitted ∧
      Candidate settings pattern field submitted ∧
      ∀ other, Candidate settings pattern field other → submitted.distance ≤ other.distance := by
  obtain ⟨nearest, isNearest⟩ :=
    approximate?_isSome settings pattern (candidate.field_ne_nil nonempty)
  obtain ⟨submitted, isBest, near⟩ := best?_le_nearest isNearest
  refine ⟨submitted, isBest, best?_candidate isBest, ?_⟩
  intro other isOffered
  exact near.trans (isOffered.nearest_le nonempty isNearest)

/-- Where the field offers anything near enough, the nearest of all that it offers is put to the
test. It is near enough as well and has a part that is not empty, so only its length can fail it;
and then all is lost that would have been long enough. -/
theorem nearest_reported_unless_short (settings : SearchSettings Rat) (pattern : Pattern)
    (field : List Char) {found : FieldMatch Rat}
    (candidate : Candidate settings pattern.chars field found)
    (near : found.distance ≤ settings.threshold) :
    ∃ nearest, best? settings pattern.chars field = some nearest ∧
      Candidate settings pattern.chars field nearest ∧
      (∀ other, Candidate settings pattern.chars field other →
        nearest.distance ≤ other.distance) ∧
      1 ≤ nearest.length ∧
      approximate settings pattern field =
        if nearest.length < settings.minLength then none else some nearest := by
  obtain ⟨nearest, isBest, isOffered, least⟩ := candidate.best?_le pattern.nonempty
  have positive := isOffered.length_pos pattern.nonempty
  refine ⟨nearest, isBest, isOffered, least, positive, ?_⟩
  have within : nearest.distance ≤ settings.threshold := (least found candidate).trans near
  have tested : accepted settings nearest = decide (settings.minLength ≤ nearest.length) := by
    simp [accepted, within, positive]
  by_cases short : nearest.length < settings.minLength
  · simp [approximate, isBest, Option.filter, tested, short]
  · simp [approximate, isBest, Option.filter, tested, short, not_lt.mp short]

def preferringEnd : SearchSettings Rat :=
  { weights := ⟨1, 1, 1, 1⟩, threshold := 4 / 5, location := 7, distance := 10, minLength := 3 }

theorem nearest_reported_unless_short_end :
    ['a', 'b', 'c'] <+: ['a', 'b', 'c', 'x', 'x', 'x', 'x', 'a', 'b'].drop 0 ∧
      penalty preferringEnd 0 ≤ preferringEnd.threshold ∧
      ∃ nearest,
        best? preferringEnd ['a', 'b', 'c'] ['a', 'b', 'c', 'x', 'x', 'x', 'x', 'a', 'b'] =
          some nearest ∧
        nearest.distance ≤ 7 / 10 ∧ nearest.length = 2 ∧
        approximate preferringEnd ⟨['a', 'b', 'c'], by decide⟩
          ['a', 'b', 'c', 'x', 'x', 'x', 'x', 'a', 'b'] = none := by
  have occurs : ['a', 'b', 'c'] <+: ['a', 'b', 'c', 'x', 'x', 'x', 'x', 'a', 'b'].drop 0 := by
    decide
  have near : penalty preferringEnd 0 ≤ preferringEnd.threshold := by decide +kernel
  obtain ⟨nearest, isBest, _, least, _, reported⟩ :=
    nearest_reported_unless_short preferringEnd ⟨['a', 'b', 'c'], by decide⟩
      ['a', 'b', 'c', 'x', 'x', 'x', 'x', 'a', 'b'] (.occurrence occurs) near
  have shortest :
      best? preferringEnd ['a', 'b', 'c'] ['a', 'b', 'c', 'x', 'x', 'x', 'x', 'a', 'b'] =
        some { distance := 1 / 3, start := 7, length := 2 } := by
    with_unfolding_all rfl
  have distance : nearest.distance ≤ penalty preferringEnd 0 := least _ (.occurrence occurs)
  cases isBest.symm.trans shortest
  exact ⟨occurs, near, _, shortest, distance, rfl, reported⟩

/-- The pattern occurs near enough and is long enough, and yet nothing is reported: at the preferred
offset stands a part of it. -/
theorem acceptable_occurrence_lost :
    ['a', 'b', 'c'] <+: ['a', 'b', 'c', 'x', 'x', 'x', 'x', 'a', 'b'].drop 0 ∧
      |((0 : Nat) : Rat) - preferringEnd.location| / (max preferringEnd.distance 1 : Nat) ≤
        preferringEnd.threshold ∧
      preferringEnd.minLength ≤ ['a', 'b', 'c'].length ∧
      approximate preferringEnd ⟨['a', 'b', 'c'], by decide⟩
        ['a', 'b', 'c', 'x', 'x', 'x', 'x', 'a', 'b'] = none := by
  refine ⟨by decide, ?_, by decide, by with_unfolding_all rfl⟩
  rw [← penalty_eq]
  decide +kernel

end SymbolSearch.FieldMatch
