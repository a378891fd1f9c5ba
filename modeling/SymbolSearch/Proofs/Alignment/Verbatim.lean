import Mathlib.Algebra.Order.Field.Rat
import Mathlib.Data.List.MinMax
import Mathlib.Tactic.Linarith
import Mathlib.Tactic.Positivity
import SymbolSearch.Proofs.Alignment.Columns
import SymbolSearch.Query.Match

set_option autoImplicit false

namespace SymbolSearch

theorem Measure.isZero_rat (value : Rat) : Measure.isZero value = decide (value = 0) := by
  simp [isZero, le_antisymm_iff]

theorem Alignment.occurrence?_eq_some {pattern field : List Char} {start : Nat}
    (found : occurrence? pattern field = some start) : pattern <+: field.drop start := by
  induction field generalizing start with
  | nil =>
    simp only [occurrence?] at found
    split at found
    next empty => simp_all
    next => cases found
  | cons c field ih =>
    simp only [occurrence?] at found
    split at found
    next here =>
      obtain rfl := Option.some.inj found
      simpa using here
    next =>
      obtain ⟨later, foundLater, rfl⟩ := Option.map_eq_some_iff.mp found
      simpa using ih foundLater

namespace FieldMatch

theorem nearest?_eq_argmin (candidates : List (FieldMatch Rat)) :
    nearest? candidates = candidates.argmin distance := by
  have folded (best : FieldMatch Rat) (rest : List (FieldMatch Rat)) :
      rest.foldl (List.argAux fun next best => next.distance < best.distance) (some best) =
        some (rest.foldl (fun best next =>
          if Measure.lt next.distance best.distance then next else best) best) := by
    induction rest generalizing best with
    | nil => rfl
    | cons next rest ih =>
      simp only [List.foldl_cons, List.argAux, ← apply_ite some, Measure.lt_rat,
        decide_eq_true_eq] at ih ⊢
      exact ih _
  cases candidates with
  | nil => rfl
  | cons first rest => exact (folded first rest).symm

section Penalty

variable (settings : SearchSettings Rat)

theorem penalty_eq (start : Nat) :
    penalty settings start =
      |(start : Rat) - settings.location| / (max settings.distance 1 : Nat) := by
  have apart : (((start - settings.location) + (settings.location - start) : Nat) : Rat) =
      |(start : Rat) - settings.location| := by
    rcases Nat.le_total start settings.location with before | after
    · rw [Nat.sub_eq_zero_of_le before, Nat.zero_add, Nat.cast_sub before, abs_sub_comm,
        abs_of_nonneg (sub_nonneg.mpr (Nat.cast_le.mpr before))]
    · rw [Nat.sub_eq_zero_of_le after, Nat.add_zero, Nat.cast_sub after,
        abs_of_nonneg (sub_nonneg.mpr (Nat.cast_le.mpr after))]
  simp only [penalty, Measure.div_rat, Measure.ofNat_rat, apart]

theorem penalty_nonneg (start : Nat) : 0 ≤ penalty settings start := by
  rw [penalty_eq]
  positivity

theorem penalty_eq_zero {start : Nat} :
    penalty settings start = 0 ↔ start = settings.location := by
  have scale : ((max settings.distance 1 : Nat) : Rat) ≠ 0 :=
    Nat.cast_ne_zero.mpr (Nat.ne_zero_of_lt (Nat.le_max_right _ 1))
  rw [penalty_eq, div_eq_zero_iff, or_iff_left scale, abs_eq_zero, sub_eq_zero, Nat.cast_inj]

theorem ofEnding_distance (pattern : List Char) (stop : Nat) (cell : Alignment.Cell) :
    (ofEnding settings pattern stop cell).distance =
      (cell.cost : Rat) / pattern.length + penalty settings cell.start := rfl

end Penalty

variable {settings : SearchSettings Rat} {pattern field : List Char} {edited exact : FieldMatch Rat}

theorem approximate?_isSome (settings : SearchSettings Rat) (pattern : List Char)
    (nonempty : field ≠ []) : ∃ edited, approximate? settings pattern field = some edited := by
  rw [← Option.ne_none_iff_exists', approximate?, nearest?_eq_argmin, Ne, List.argmin_eq_none]
  cases field with
  | nil => exact absurd rfl nonempty
  | cons c field => simp [Alignment.endings]

theorem approximate?_eq_some (nearest : approximate? settings pattern field = some edited) :
    (∃ stop cell, stop ≤ field.length ∧ cell.Best pattern (field.take stop) ∧
      edited = ofEnding settings pattern stop cell) ∧
    ∀ ending ∈ Alignment.endings pattern 0 (Alignment.firstColumn pattern) field,
      edited.distance ≤ (ofEnding settings pattern ending.1 ending.2).distance := by
  rw [approximate?, nearest?_eq_argmin] at nearest
  constructor
  · obtain ⟨⟨stop, cell⟩, ending, rfl⟩ := List.mem_map.mp (List.argmin_mem nearest)
    obtain ⟨_, inside, rfl⟩ := Alignment.mem_endings.mp ending
    exact ⟨stop, _, inside, Alignment.lastCell_best pattern _, rfl⟩
  · intro ending member
    exact List.le_of_mem_argmin (List.mem_map.mpr ⟨ending, member, rfl⟩) nearest

theorem approximate?_le_penalty (nearest : approximate? settings pattern field = some edited)
    (nonempty : pattern ≠ []) {start : Nat} (occurs : pattern <+: field.drop start) :
    edited.distance ≤ penalty settings start := by
  have positive := List.length_pos_iff.mpr nonempty
  have inside := occurs.length_le
  rw [List.length_drop] at inside
  let stop := start + pattern.length
  let cell := (Alignment.columnAfter pattern (field.take stop)).getLastD { cost := 0, start := 0 }
  have best : cell.Best pattern (field.take stop) := Alignment.lastCell_best pattern _
  have read : (field.take stop).length = stop := List.length_take_of_le (by omega)
  have free : cell.cost = 0 := by
    -- From the start of the occurrence on, the field up to `stop` is the pattern.
    have least := best.2 start (by omega)
    have occurrence : (field.take stop).drop start = pattern := by
      rw [List.drop_take, Nat.add_sub_cancel_left]
      exact (List.prefix_iff_eq_take.mp occurs).symm
    rw [occurrence, Alignment.editDistance_eq_zero.mpr rfl] at least
    exact Nat.le_zero.mp least
  have same : cell.start = start := by
    have ends := best.length_of_free free
    omega
  have least := (approximate?_eq_some nearest).2 (stop, cell)
    (Alignment.mem_endings.mpr ⟨by omega, by omega, rfl⟩)
  rwa [ofEnding_distance, free, same, Nat.cast_zero, zero_div, zero_add] at least

theorem approximate?_of_free (nearest : approximate? settings pattern field = some edited)
    (nonempty : pattern ≠ []) (free : edited.distance ≤ 0) :
    edited = { distance := 0, start := settings.location, length := pattern.length } := by
  obtain ⟨stop, cell, inside, best, rfl⟩ := (approximate?_eq_some nearest).1
  rw [ofEnding_distance] at free
  have positive : (0 : Rat) < pattern.length :=
    Nat.cast_pos.mpr (List.length_pos_iff.mpr nonempty)
  -- Neither part of the distance is negative, so both are nothing.
  have edits : (0 : Rat) ≤ cell.cost / pattern.length := by positivity
  have moved := penalty_nonneg settings cell.start
  have atLocation : cell.start = settings.location :=
    (penalty_eq_zero settings).mp (by linarith)
  have unedited : cell.cost = 0 := by
    have none : (cell.cost : Rat) / pattern.length = 0 := by linarith
    simpa [positive.ne'] using none
  have ends := best.length_of_free unedited
  rw [List.length_take_of_le inside] at ends
  have length : stop - cell.start = pattern.length := by omega
  have distance : (ofEnding settings pattern stop cell).distance = 0 := by
    rw [ofEnding_distance]
    linarith
  rw [← distance, ← atLocation, ← length]
  rfl

theorem verbatim?_eq_some (found : verbatim? settings pattern field = some exact) :
    pattern <+: field.drop exact.start ∧
      exact =
        { distance := penalty settings exact.start
          start := exact.start
          length := pattern.length } := by
  obtain ⟨start, occurs, rfl⟩ := Option.map_eq_some_iff.mp found
  exact ⟨Alignment.occurrence?_eq_some occurs, rfl⟩

theorem verbatim?_of_free (found : verbatim? settings pattern field = some exact)
    (free : exact.distance = 0) :
    exact = { distance := 0, start := settings.location, length := pattern.length } := by
  obtain ⟨_, same⟩ := verbatim?_eq_some found
  have penalty : exact.distance = penalty settings exact.start := congrArg distance same
  have atLocation := (penalty_eq_zero settings).mp (penalty.symm.trans free)
  rw [← penalty, free, atLocation] at same
  exact same

theorem best?_eq_some (nearest : approximate? settings pattern field = some edited)
    (notBeaten : ∀ exact, verbatim? settings pattern field = some exact →
      edited.distance ≤ exact.distance)
    (free : ∀ exact, verbatim? settings pattern field = some exact → exact.distance = 0 →
      edited = exact) :
    ∃ submitted, best? settings pattern field = some submitted ∧
      submitted.distance = edited.distance := by
  unfold best?
  cases found : verbatim? settings pattern field with
  | none => exact ⟨edited, nearest, rfl⟩
  | some exact =>
    simp only [nearest, Measure.isZero_rat, Measure.lt_rat, decide_eq_true_eq]
    split
    next none => exact ⟨exact, rfl, by rw [free exact found none]⟩
    next =>
      split
      next => exact ⟨edited, rfl, rfl⟩
      next beaten =>
        exact ⟨exact, rfl, le_antisymm (not_lt.mp beaten) (notBeaten exact found)⟩

/-- The match put to the test of acceptance is as near as the nearest alignment, and it is that
alignment where none was looked for. No occurrence of the pattern is nearer, the first or a later
one. -/
theorem verbatim_agrees_with_alignment (settings : SearchSettings Rat) (pattern : Pattern)
    (field : List Char) (nonempty : field ≠ []) :
    ∃ edited submitted,
      approximate? settings pattern.chars field = some edited ∧
      best? settings pattern.chars field = some submitted ∧
      approximate settings pattern field = (some submitted).filter (accepted settings) ∧
      submitted.distance = edited.distance ∧
      (∀ exact, verbatim? settings pattern.chars field = some exact →
        edited.distance ≤ exact.distance ∧
        (exact.distance = 0 → edited = exact ∧ submitted = exact)) ∧
      ∀ start, pattern.chars <+: field.drop start → submitted.distance ≤
        |(start : Rat) - settings.location| / (max settings.distance 1 : Nat) := by
  obtain ⟨edited, nearest⟩ := approximate?_isSome settings pattern.chars nonempty
  have near (start : Nat) (occurs : pattern.chars <+: field.drop start) :
      edited.distance ≤ penalty settings start :=
    approximate?_le_penalty nearest pattern.nonempty occurs
  have notBeaten (exact : FieldMatch Rat)
      (found : verbatim? settings pattern.chars field = some exact) :
      edited.distance ≤ exact.distance := by
    obtain ⟨occurs, same⟩ := verbatim?_eq_some found
    rw [same]
    exact near exact.start occurs
  have free (exact : FieldMatch Rat) (found : verbatim? settings pattern.chars field = some exact)
      (none : exact.distance = 0) : edited = exact := by
    rw [verbatim?_of_free found none]
    exact approximate?_of_free nearest pattern.nonempty (none ▸ notBeaten exact found)
  obtain ⟨submitted, isBest, same⟩ := best?_eq_some nearest notBeaten free
  refine ⟨edited, submitted, nearest, isBest, by rw [approximate, isBest], same, ?_, ?_⟩
  · intro exact found
    refine ⟨notBeaten exact found, fun none => ⟨free exact found none, ?_⟩⟩
    have taken : best? settings pattern.chars field = some exact := by
      simp [best?, found, Measure.isZero_rat, none]
    exact Option.some.inj (isBest.symm.trans taken)
  · intro start occurs
    rw [same, ← penalty_eq]
    exact near start occurs

def preferringThird : SearchSettings Rat :=
  { weights := ⟨1, 1, 1, 1⟩, threshold := 1, location := 3, distance := 10, minLength := 1 }

theorem verbatim_agrees_with_alignment_later :
    ['a', 'b', 'x', 'a', 'b'] ≠ [] ∧ ['a', 'b'] <+: ['a', 'b', 'x', 'a', 'b'].drop 3 ∧
      ∃ submitted : FieldMatch Rat,
        best? preferringThird ['a', 'b'] ['a', 'b', 'x', 'a', 'b'] = some submitted ∧
        submitted.distance ≤
          |((3 : Nat) : Rat) - preferringThird.location| / (max preferringThird.distance 1 : Nat) := by
  have occurs : ['a', 'b'] <+: ['a', 'b', 'x', 'a', 'b'].drop 3 := by decide
  obtain ⟨_, submitted, _, isBest, _, _, _, near⟩ :=
    verbatim_agrees_with_alignment preferringThird ⟨['a', 'b'], by decide⟩
      ['a', 'b', 'x', 'a', 'b'] (by decide)
  exact ⟨by decide, occurs, submitted, isBest, near 3 occurs⟩

end FieldMatch

end SymbolSearch
