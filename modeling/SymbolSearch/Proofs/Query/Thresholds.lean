import SymbolSearch.Proofs.Alignment.Candidates
import SymbolSearch.Proofs.Query.Scores

set_option autoImplicit false

namespace SymbolSearch

namespace SearchSettings

def within {α : Type} (settings : SearchSettings α) (threshold : α) : SearchSettings α :=
  { settings with threshold }

end SearchSettings

namespace FieldMatch

open SymbolSearch.Alignment (editDistance endings firstColumn)

variable {settings : SearchSettings Rat} {loose : Rat} {pattern : Pattern} {field : List Char}
  {found : FieldMatch Rat}

theorem best?_within (settings : SearchSettings Rat) (loose : Rat) (pattern field : List Char) :
    best? (settings.within loose) pattern field = best? settings pattern field := rfl

theorem accepted_looser (looser : settings.threshold ≤ loose)
    (near : accepted settings found = true) : accepted (settings.within loose) found = true := by
  simp only [accepted, Measure.le_rat, Bool.and_eq_true, decide_eq_true_eq] at near ⊢
  exact ⟨near.1.trans looser, near.2⟩

theorem approximate_looser (looser : settings.threshold ≤ loose)
    (reported : approximate settings pattern field = some found) :
    approximate (settings.within loose) pattern field = some found := by
  obtain ⟨submitted, near⟩ := Option.filter_eq_some_iff.mp reported
  rw [← best?_within settings loose] at submitted
  exact Option.filter_eq_some_iff.mpr ⟨submitted, accepted_looser looser near⟩

theorem distance?_looser (looser : settings.threshold ≤ loose) {distance : Rat}
    (near : (approximate settings).distance? pattern field = some distance) :
    (approximate (settings.within loose)).distance? pattern field = some distance := by
  obtain ⟨found, reported, rfl⟩ := Option.map_eq_some_iff.mp near
  exact Option.map_eq_some_iff.mpr ⟨found, approximate_looser looser reported, rfl⟩

theorem best?_of_free (submitted : best? settings pattern.chars field = some found)
    (free : found.distance ≤ 0) :
    found = { distance := 0, start := settings.location, length := pattern.length } := by
  rcases best?_cases submitted with exact | nearest
  · have nonneg := (verbatim?_candidate exact).distance_nonneg
    exact verbatim?_of_free exact (le_antisymm free nonneg)
  · exact approximate?_of_free nearest pattern.nonempty free

theorem Measures.occurs (measures : found.Measures settings pattern.chars field)
    (free : found.distance ≤ 0) : pattern.chars <+: field.drop found.start := by
  obtain ⟨_, distance⟩ := measures
  have moved := penalty_nonneg settings found.start
  rw [penalty_eq] at moved
  have positive : (0 : Rat) < pattern.chars.length :=
    Nat.cast_pos.mpr (List.length_pos_iff.mpr pattern.nonempty)
  have unedited :
      editDistance pattern.chars ((field.drop found.start).take found.length) = 0 := by
    have none : (editDistance pattern.chars ((field.drop found.start).take found.length) : Rat) /
        pattern.chars.length ≤ 0 := by linarith
    rw [div_le_iff₀ positive, zero_mul] at none
    exact Nat.le_zero.mp (by exact_mod_cast none)
  rw [Alignment.editDistance_eq_zero.mp unedited]
  exact List.take_prefix ..

theorem accepted_free (strict : 0 ≤ settings.threshold)
    (short : settings.minLength ≤ pattern.length) :
    accepted settings { distance := 0, start := settings.location, length := pattern.length } =
      true := by
  have positive : 1 ≤ pattern.length := List.length_pos_iff.mpr pattern.nonempty
  simp [accepted, strict, short, positive]

theorem approximate_strict (strict : settings.threshold = 0)
    (short : settings.minLength ≤ pattern.length) :
    approximate settings pattern field =
      if pattern.chars <+: field.drop settings.location then
        some { distance := 0, start := settings.location, length := pattern.length }
      else none := by
  split
  next occurs =>
    have isOffered : Candidate settings pattern.chars field
        { distance := penalty settings settings.location, start := settings.location,
          length := pattern.length } := .occurrence occurs
    obtain ⟨submitted, isBest, _, least⟩ := isOffered.best?_le pattern.nonempty
    -- What is put to the test is no farther than this occurrence, which costs nothing.
    have free : submitted.distance ≤ 0 := by
      have near := least _ isOffered
      rwa [(penalty_eq_zero settings).mpr rfl] at near
    rw [approximate, isBest, best?_of_free isBest free]
    exact Option.filter_eq_some_iff.mpr ⟨rfl, accepted_free strict.ge short⟩
  next absent =>
    rw [Option.eq_none_iff_forall_ne_some]
    intro found reported
    obtain ⟨submitted, near, _⟩ := approximate_eq_some reported
    rw [strict] at near
    have measures : found.Measures settings pattern.chars field :=
      (best?_cases submitted).elim (verbatim?_measures pattern.nonempty) approximate?_measures
    have occurs := measures.occurs near
    rw [best?_of_free submitted near] at occurs
    exact absent occurs

theorem firstEnding_distance_le (settings : SearchSettings Rat) (pattern : Pattern)
    (nonempty : field ≠ []) :
    ∃ found, Candidate settings pattern.chars field found ∧
      found.distance ≤ 1 + penalty settings 0 := by
  have begun : 1 ≤ field.length := List.length_pos_iff.mpr nonempty
  have read : (field.take 1).length = 1 := List.length_take_of_le begun
  let cell :=
    (Alignment.columnAfter pattern.chars (field.take 1)).getLastD { cost := 0, start := 0 }
  have kept : (1, cell) ∈ endings pattern.chars 0 (firstColumn pattern.chars) field :=
    Alignment.mem_endings.mpr ⟨le_rfl, begun, rfl⟩
  have best : cell.Best pattern.chars (field.take 1) := Alignment.lastCell_best pattern.chars _
  have atStart : cell.start = 0 := by
    have before := Alignment.lastCell_start_lt pattern.nonempty (List.ne_nil_of_length_pos
      (by omega : 0 < (field.take 1).length))
    rw [read] at before
    exact Nat.lt_one_iff.mp before
  have cost : cell.cost ≤ pattern.chars.length := by
    have least := best.2 1 read.ge
    rwa [List.drop_eq_nil_of_le read.le, Alignment.editDistance_nil_right] at least
  refine ⟨_, .ending kept, ?_⟩
  rw [ofEnding_distance, atStart]
  have edits : (cell.cost : Rat) / pattern.chars.length ≤ 1 :=
    div_le_one_of_le₀ (Nat.cast_le.mpr cost) (Nat.cast_nonneg _)
  linarith

theorem approximate_lax (lax : 1 ≤ settings.threshold) (atStart : settings.location = 0)
    (short : settings.minLength ≤ 1) (nonempty : field ≠ []) :
    ∃ found, approximate settings pattern field = some found ∧ found.distance ≤ 1 := by
  obtain ⟨first, isOffered, near⟩ := firstEnding_distance_le settings pattern nonempty
  rw [(penalty_eq_zero settings).mpr atStart.symm, add_zero] at near
  obtain ⟨nearest, isBest, candidate, least⟩ := isOffered.best?_le pattern.nonempty
  have within : nearest.distance ≤ 1 := (least first isOffered).trans near
  have positive := candidate.length_pos pattern.nonempty
  have passed : accepted settings nearest = true := by
    simp only [accepted, Measure.le_rat, Bool.and_eq_true, decide_eq_true_eq]
    exact ⟨within.trans lax, by omega⟩
  refine ⟨nearest, ?_, within⟩
  rw [approximate, isBest]
  exact Option.filter_eq_some_iff.mpr ⟨rfl, passed⟩

/-- With the threshold nothing, exactly the occurrences at the preferred offset are matches. With
the threshold one and the start of the field preferred, everything is, however far an offset
counts. -/
theorem threshold_end_points (settings : SearchSettings Rat) (pattern : Pattern)
    (field : List Char) :
    (settings.threshold = 0 → settings.minLength ≤ pattern.length →
      approximate settings pattern field =
        if pattern.chars <+: field.drop settings.location then
          some { distance := 0, start := settings.location, length := pattern.length }
        else none) ∧
    (1 ≤ settings.threshold → settings.location = 0 → settings.minLength ≤ 1 → field ≠ [] →
      ∃ found, approximate settings pattern field = some found ∧ found.distance ≤ 1) :=
  ⟨approximate_strict, approximate_lax⟩

theorem threshold_end_points_later :
    let strict : SearchSettings Rat := { preferringThird with threshold := 0 }
    let lax : SearchSettings Rat := { preferringThird with location := 0, distance := 0 }
    strict.threshold = 0 ∧ strict.minLength ≤ 2 ∧
      approximate strict ⟨['a', 'b'], by decide⟩ ['a', 'b', 'x', 'a', 'b'] =
        some { distance := 0, start := 3, length := 2 } ∧
      1 ≤ lax.threshold ∧ lax.location = 0 ∧ lax.minLength ≤ 1 ∧ ['x', 'y'] ≠ [] ∧
      ∃ found, approximate lax ⟨['a', 'b'], by decide⟩ ['x', 'y'] = some found ∧
        found.distance ≤ 1 := by
  intro strict lax
  have isLax : 1 ≤ lax.threshold := le_rfl
  obtain ⟨exactly, _⟩ :=
    threshold_end_points strict ⟨['a', 'b'], by decide⟩ ['a', 'b', 'x', 'a', 'b']
  obtain ⟨_, anything⟩ := threshold_end_points lax ⟨['a', 'b'], by decide⟩ ['x', 'y']
  exact ⟨rfl, by decide, exactly rfl (by decide), isLax, rfl, by decide, by decide,
    anything isLax rfl (by decide) (by decide)⟩

end FieldMatch

namespace SearchIndex

variable {settings : SearchSettings Rat} {loose : Rat} {elements : List Element}
  {pattern : Pattern} {hit : Hit Rat}

theorem hit_looser (looser : settings.threshold ≤ loose) (atMost : loose ≤ 1)
    (nonneg : settings.weights.Nonneg)
    (isHit : hit ∈ (ofElements elements settings).hits pattern) :
    ∃ score ≤ hit.score,
      { hit with score } ∈ (ofElements elements (settings.within loose)).hits pattern := by
  obtain ⟨score, scored, le⟩ := combineFields_gains
    (fun _ _ _ near => FieldMatch.distance?_looser looser near)
    (FieldMatch.weighed (settings.within loose) atMost nonneg pattern (.ofElement hit.element))
    (mem_hits_ofElements.mp isHit).2
  exact ⟨score, le, mem_hits_ofElements.mpr ⟨(mem_hits_ofElements.mp isHit).1, scored⟩⟩

theorem hit_bounds (atMost : settings.threshold ≤ 1) (nonneg : settings.weights.Nonneg)
    (isHit : hit ∈ (ofElements elements settings).hits pattern) :
    let fields := fieldDistances settings pattern hit.element
    0 ≤ hit.score ∧ hit.score ≤ 1 ∧
      (totalWeight fields = 0 ∧ (fields.filterMap (·.2)).min? = some hit.score ∨
        0 < totalWeight fields ∧ hit.score = weightedDistance fields / totalWeight fields) := by
  intro fields
  have weighed : ∀ field ∈ fields, Weighed field := weighed_fieldDistances atMost nonneg pattern _
  have scored : combineFields fields = some hit.score := (mem_hits_ofElements.mp isHit).2
  obtain ⟨lower, upper⟩ := combineFields_bounds weighed scored
  refine ⟨lower, upper, (combineFields_cases scored).imp_left ?_⟩
  rintro ⟨light, least⟩
  exact ⟨le_antisymm light (totalWeight_nonneg weighed), least⟩

/-- A looser threshold keeps every hit in its place, with a score that is not larger. Scores are
between nothing and one, under either threshold: the mean where the fields that are present have a
weight, and the least distance, without any division, where they have none. -/
theorem looser_threshold (elements : List Element) (pattern : Pattern)
    (settings : SearchSettings Rat) {loose : Rat} (looser : settings.threshold ≤ loose)
    (atMost : loose ≤ 1) (nonneg : settings.weights.Nonneg) :
    (∀ hit ∈ (ofElements elements settings).hits pattern,
      ∃ score ≤ hit.score,
        { hit with score } ∈ (ofElements elements (settings.within loose)).hits pattern) ∧
    ∀ used ∈ [settings, settings.within loose],
      ∀ hit ∈ (ofElements elements used).hits pattern,
        let fields := fieldDistances used pattern hit.element
        0 ≤ hit.score ∧ hit.score ≤ 1 ∧
          (totalWeight fields = 0 ∧ (fields.filterMap (·.2)).min? = some hit.score ∨
            0 < totalWeight fields ∧
              hit.score = weightedDistance fields / totalWeight fields) := by
  refine ⟨fun hit isHit => hit_looser looser atMost nonneg isHit, ?_⟩
  intro used isUsed hit isHit
  rcases List.mem_pair.mp isUsed with rfl | rfl
  · exact hit_bounds (looser.trans atMost) nonneg isHit
  · exact hit_bounds atMost nonneg isHit

def narrow : SearchSettings Rat :=
  { weights := ⟨1, 0, 1, 0⟩, threshold := 3 / 10, location := 0, distance := 10, minLength := 1 }

def misspelled : Element :=
  { (default : Element) with name := "usr", description := "user" }

theorem looser_threshold_typo :
    narrow.threshold ≤ 1 / 2 ∧ (1 / 2 : Rat) ≤ 1 ∧ narrow.weights.Nonneg ∧
      ∃ hit ∈ (ofElements [misspelled] narrow).hits ⟨['u', 's', 'r'], by decide⟩,
        hit.score = 1 / 2 ∧
        ∃ score ≤ hit.score, { hit with score } ∈
          (ofElements [misspelled] (narrow.within (1 / 2))).hits ⟨['u', 's', 'r'], by decide⟩ := by
  have looser : narrow.threshold ≤ 1 / 2 := by decide +kernel
  have nonneg : narrow.weights.Nonneg := by decide +kernel
  have isHit : { position := 0, element := misspelled, score := 1 / 2 } ∈
      (ofElements [misspelled] narrow).hits ⟨['u', 's', 'r'], by decide⟩ := by
    with_unfolding_all exact List.mem_cons_self
  have atMost : (1 / 2 : Rat) ≤ 1 := by decide +kernel
  obtain ⟨gains, _⟩ :=
    looser_threshold [misspelled] ⟨['u', 's', 'r'], by decide⟩ narrow looser atMost nonneg
  exact ⟨looser, atMost, nonneg, _, isHit, rfl, gains _ isHit⟩

end SearchIndex

end SymbolSearch
