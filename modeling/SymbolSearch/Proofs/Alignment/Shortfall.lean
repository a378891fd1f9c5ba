import SymbolSearch.Proofs.Alignment.Candidates
import SymbolSearch.Settings

set_option autoImplicit false

namespace SymbolSearch

namespace Alignment

theorem start_sub_le_edits (pattern : List Char) {field : List Char} {stop first second : Nat}
    (inside : stop ≤ field.length) (firstBefore : first ≤ stop) (secondBefore : second ≤ stop) :
    first ≤ second + (editDistance pattern ((field.take stop).drop first) +
      editDistance pattern ((field.take stop).drop second)) := by
  have firstLengths := (edits_editDistance pattern ((field.take stop).drop first)).lengths
  have secondLengths := (edits_editDistance pattern ((field.take stop).drop second)).lengths
  simp only [List.length_drop, List.length_take_of_le inside] at firstLengths secondLengths
  omega

end Alignment

namespace FieldMatch

open SymbolSearch.Alignment (Cell editDistance endings firstColumn)

def partDistance (settings : SearchSettings Rat) (pattern field : List Char) (start stop : Nat) :
    Rat :=
  (editDistance pattern ((field.take stop).drop start) : Rat) / pattern.length +
    |(start : Rat) - settings.location| / (max settings.distance 1 : Nat)

variable {settings : SearchSettings Rat} {pattern field : List Char} {found : FieldMatch Rat}

theorem penalty_le_of_near {start other moved : Nat} (after : start ≤ other + moved)
    (before : other ≤ start + moved) :
    penalty settings start ≤
      penalty settings other + (moved : Rat) / (max settings.distance 1 : Nat) := by
  have apart : |(start : Rat) - other| ≤ moved := by
    rw [abs_sub_le_iff, sub_le_iff_le_add', sub_le_iff_le_add']
    exact ⟨by exact_mod_cast after, by exact_mod_cast before⟩
  have through := abs_sub_le (start : Rat) other settings.location
  rw [penalty_eq, penalty_eq, ← add_div]
  apply div_le_div_of_nonneg_right _ (Nat.cast_nonneg _)
  linarith

theorem ending_distance_le (settings : SearchSettings Rat) (pattern : List Char)
    {start stop : Nat} (begun : start < stop) (inside : stop ≤ field.length) :
    ∃ cell, (stop, cell) ∈ endings pattern 0 (firstColumn pattern) field ∧
      (ofEnding settings pattern stop cell).distance ≤
        partDistance settings pattern field start stop +
          (2 * editDistance pattern ((field.take stop).drop start) : Nat) /
            (max settings.distance 1 : Nat) := by
  obtain ⟨cell, kept, best⟩ : ∃ cell, (stop, cell) ∈ endings pattern 0 (firstColumn pattern) field ∧
      cell.Best pattern (field.take stop) :=
    ⟨_, Alignment.mem_endings.mpr ⟨by omega, inside, rfl⟩, Alignment.lastCell_best pattern _⟩
  refine ⟨cell, kept, ?_⟩
  have read : (field.take stop).length = stop := List.length_take_of_le inside
  have cellBefore : cell.start ≤ stop := by
    have before := best.1.1
    omega
  have fewer : cell.cost ≤ editDistance pattern ((field.take stop).drop start) :=
    best.2 start (by omega)
  have after := Alignment.start_sub_le_edits pattern inside cellBefore begun.le
  have before := Alignment.start_sub_le_edits pattern inside begun.le cellBefore
  rw [best.cost_eq] at after before
  have moved : penalty settings cell.start ≤ penalty settings start +
      (2 * editDistance pattern ((field.take stop).drop start) : Nat) /
        (max settings.distance 1 : Nat) :=
    penalty_le_of_near (by omega) (by omega)
  have edits : (cell.cost : Rat) / pattern.length ≤
      editDistance pattern ((field.take stop).drop start) / pattern.length := by
    gcongr
  rw [ofEnding_distance, partDistance, ← penalty_eq]
  linarith

theorem ending_distance_eq (settings : SearchSettings Rat) {stop : Nat} {cell : Cell}
    (kept : (stop, cell) ∈ endings pattern 0 (firstColumn pattern) field) :
    (∀ start ≤ stop, cell.cost ≤ editDistance pattern ((field.take stop).drop start)) ∧
      (ofEnding settings pattern stop cell).distance =
        partDistance settings pattern field cell.start stop := by
  obtain ⟨_, inside, rfl⟩ := Alignment.mem_endings.mp kept
  have best := Alignment.lastCell_best pattern (field.take stop)
  have read : (field.take stop).length = stop := List.length_take_of_le inside
  constructor
  · intro start before
    exact best.2 start (by omega)
  · rw [ofEnding_distance, partDistance, best.cost_eq, penalty_eq]

/-- A reported distance is the least of the alignments that are kept, one at each end and with the
fewest edits of all parts that end there; so it is not below the least of all parts. No part is
nearer by more than two offsets for each of its own edits, so none without edits is nearer. -/
theorem reported_distance_near_least (settings : SearchSettings Rat) (pattern : Pattern)
    (field : List Char) {found : FieldMatch Rat}
    (reported : approximate settings pattern field = some found) :
    (∃ stop cell, (stop, cell) ∈ endings pattern.chars 0 (firstColumn pattern.chars) field ∧
      cell.start < stop ∧ stop ≤ field.length ∧
      found.distance = partDistance settings pattern.chars field cell.start stop) ∧
    (∀ stop cell, (stop, cell) ∈ endings pattern.chars 0 (firstColumn pattern.chars) field →
      (∀ start ≤ stop, cell.cost ≤ editDistance pattern.chars ((field.take stop).drop start)) ∧
      (ofEnding settings pattern.chars stop cell).distance =
        partDistance settings pattern.chars field cell.start stop ∧
      found.distance ≤ partDistance settings pattern.chars field cell.start stop) ∧
    (∀ start stop, start < stop → stop ≤ field.length →
      found.distance ≤ partDistance settings pattern.chars field start stop +
        (2 * editDistance pattern.chars ((field.take stop).drop start) : Nat) /
          (max settings.distance 1 : Nat)) := by
  have submitted := (approximate_eq_some reported).1
  have candidate := best?_candidate submitted
  obtain ⟨other, isBest, _, least⟩ := candidate.best?_le pattern.nonempty
  obtain rfl := Option.some.inj (submitted.symm.trans isBest)
  obtain ⟨nearest, isNearest⟩ :=
    approximate?_isSome settings pattern.chars (candidate.field_ne_nil pattern.nonempty)
  refine ⟨?_, ?_, ?_⟩
  · obtain ⟨stop, cell, kept, rfl⟩ := approximate?_kept isNearest
    have distance : found.distance = _ :=
      le_antisymm (least _ (.ending kept)) (candidate.nearest_le pattern.nonempty isNearest)
    have positive : 1 ≤ stop - cell.start :=
      (approximate?_candidate isNearest).length_pos pattern.nonempty
    have inside := (Alignment.mem_endings.mp kept).2.1
    have begun : cell.start < stop := by omega
    exact ⟨stop, cell, kept, begun, inside, distance.trans (ending_distance_eq settings kept).2⟩
  · intro stop cell kept
    obtain ⟨fewest, distance⟩ := ending_distance_eq settings kept
    exact ⟨fewest, distance, distance ▸ least _ (.ending kept)⟩
  · intro start stop begun inside
    obtain ⟨cell, kept, near⟩ := ending_distance_le settings pattern.chars begun inside
    exact (least _ (.ending kept)).trans near

def usual : SearchSettings Rat :=
  .default

theorem reported_distance_near_least_tie :
    ∃ found,
      approximate usual ⟨['a', 'b', 'c'], by decide⟩ ['a', 'd', 'b', 'c'] = some found ∧
      found.distance = 1 / 3 + 1 / 1000 ∧
      found.distance ≤ partDistance usual ['a', 'b', 'c'] ['a', 'd', 'b', 'c'] 0 4 +
        (2 * editDistance ['a', 'b', 'c'] ['a', 'd', 'b', 'c'] : Nat) / (max 1000 1 : Nat) := by
  have reported : approximate usual ⟨['a', 'b', 'c'], by decide⟩ ['a', 'd', 'b', 'c'] =
      some { distance := 1003 / 3000, start := 1, length := 3 } := by
    with_unfolding_all rfl
  obtain ⟨_, _, near⟩ := reported_distance_near_least usual _ _ reported
  exact ⟨_, reported, by decide +kernel, near 0 4 (by decide) (by decide)⟩

/-- Two alignments end together with one edit each, and the one that is kept starts further from
the preferred offset. -/
theorem nearer_part_missed :
    usual.minLength ≤ 1 ∧
    ∃ found,
      approximate usual ⟨['a', 'b', 'c'], by decide⟩ ['a', 'd', 'b', 'c'] = some found ∧
      ∃ start stop, start < stop ∧ stop ≤ ['a', 'd', 'b', 'c'].length ∧
        partDistance usual ['a', 'b', 'c'] ['a', 'd', 'b', 'c'] start stop < found.distance := by
  refine ⟨by decide, { distance := 1003 / 3000, start := 1, length := 3 }, ?_, 0, 4, by decide,
    by decide, ?_⟩
  · with_unfolding_all rfl
  · have oneEdit : editDistance ['a', 'b', 'c'] ((['a', 'd', 'b', 'c'].take 4).drop 0) = 1 := by
      simp [editDistance, Alignment.mismatch]
    rw [partDistance, ← penalty_eq, oneEdit]
    decide +kernel

end FieldMatch

end SymbolSearch
