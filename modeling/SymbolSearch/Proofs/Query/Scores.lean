import Mathlib.Algebra.Order.BigOperators.Group.List
import SymbolSearch.Proofs.Alignment.Spans
import SymbolSearch.Proofs.Query.BestHits

set_option autoImplicit false

namespace SymbolSearch

namespace Measure

@[simp] theorem mul_rat (left right : Rat) : mul left right = left * right := rfl

theorem sum_rat (values : List Rat) : sum values = values.sum :=
  List.sum_eq_foldl.symm

theorem order_lt_rat {left right : Rat} : order left right = .lt ↔ left < right :=
  compareOfLessAndEq_eq_lt

instance : Std.TransCmp (order : Rat → Rat → Ordering) :=
  inferInstanceAs (Std.TransCmp (compare : Rat → Rat → Ordering))

end Measure

theorem leastBy_rat (values : List Rat) : leastBy values = values.min? := by
  have least (first next : Rat) :
      (if Measure.order next first = .lt then next else first) = min first next := by
    rw [min_comm, min_def_lt]
    exact if_congr Measure.order_lt_rat rfl rfl
  cases values with
  | nil => rfl
  | cons first rest => simp only [leastBy, least, List.min?_cons']

def totalWeight (fields : List (Rat × Option Rat)) : Rat :=
  (fields.map (·.1)).sum

def weightedDistance (fields : List (Rat × Option Rat)) : Rat :=
  (fields.map fun field => field.1 * field.2.getD 1).sum

theorem combineFields_rat (fields : List (Rat × Option Rat)) :
    combineFields fields =
      if fields.all fun field => field.2.isNone then none
      else if totalWeight fields ≤ 0 then (fields.filterMap (·.2)).min?
      else some (weightedDistance fields / totalWeight fields) := by
  simp only [combineFields, Measure.sum_rat, Measure.le_rat, Measure.ofNat_rat, Measure.mul_rat,
    Measure.div_rat, leastBy_rat, missDistance, decide_eq_true_eq, Nat.cast_zero, Nat.cast_one]
  rfl

theorem combineFields_cases {fields : List (Rat × Option Rat)} {score : Rat}
    (scored : combineFields fields = some score) :
    (totalWeight fields ≤ 0 ∧ (fields.filterMap (·.2)).min? = some score) ∨
      (0 < totalWeight fields ∧ score = weightedDistance fields / totalWeight fields) := by
  rw [combineFields_rat] at scored
  split at scored
  next => cases scored
  next =>
    split at scored
    next light => exact .inl ⟨light, scored⟩
    next heavy => exact .inr ⟨not_le.mp heavy, (Option.some.inj scored).symm⟩

theorem combineFields_heavy {fields : List (Rat × Option Rat)} (heavy : 0 < totalWeight fields)
    (matched : ∃ field ∈ fields, field.2.isSome) :
    combineFields fields = some (weightedDistance fields / totalWeight fields) := by
  have some : ¬ (fields.all fun field => field.2.isNone) = true := by
    simpa [Option.ne_none_iff_isSome] using matched
  rw [combineFields_rat, if_neg some, if_neg (not_le.mpr heavy)]

def Weighed (field : Rat × Option Rat) : Prop :=
  0 ≤ field.1 ∧ ∀ distance ∈ field.2, 0 ≤ distance ∧ distance ≤ 1

theorem totalWeight_nonneg {fields : List (Rat × Option Rat)}
    (weighed : ∀ field ∈ fields, Weighed field) : 0 ≤ totalWeight fields := by
  apply List.sum_nonneg
  intro weight member
  obtain ⟨field, isField, rfl⟩ := List.mem_map.mp member
  exact (weighed field isField).1

theorem Weighed.getD {field : Rat × Option Rat} (weighed : Weighed field) :
    0 ≤ field.2.getD 1 ∧ field.2.getD 1 ≤ 1 := by
  obtain ⟨weight, _ | distance⟩ := field
  · exact ⟨zero_le_one, le_rfl⟩
  · exact weighed.2 distance rfl

theorem weightedDistance_nonneg {fields : List (Rat × Option Rat)}
    (weighed : ∀ field ∈ fields, Weighed field) : 0 ≤ weightedDistance fields := by
  apply List.sum_nonneg
  intro term member
  obtain ⟨field, isField, rfl⟩ := List.mem_map.mp member
  exact mul_nonneg (weighed field isField).1 (weighed field isField).getD.1

theorem weightedDistance_le {fields : List (Rat × Option Rat)}
    (weighed : ∀ field ∈ fields, Weighed field) : weightedDistance fields ≤ totalWeight fields := by
  apply List.sum_le_sum
  intro field isField
  exact mul_le_of_le_one_right (weighed field isField).1 (weighed field isField).getD.2

theorem combineFields_bounds {fields : List (Rat × Option Rat)} {score : Rat}
    (weighed : ∀ field ∈ fields, Weighed field) (scored : combineFields fields = some score) :
    0 ≤ score ∧ score ≤ 1 := by
  rcases combineFields_cases scored with ⟨_, least⟩ | ⟨heavy, rfl⟩
  · obtain ⟨⟨weight, distance⟩, isField, rfl⟩ :=
      List.mem_filterMap.mp (List.min?_eq_some_iff.mp least).1
    exact (weighed _ isField).2 score rfl
  · constructor
    · exact div_nonneg (weightedDistance_nonneg weighed) heavy.le
    · exact (div_le_one heavy).mpr (weightedDistance_le weighed)

section Gains

variable {ι : Type} {sources : List ι} {weight : ι → Rat} {before after : ι → Option Rat}

theorem weightedDistance_anti (gains : ∀ source ∈ sources, ∀ distance ∈ before source,
      distance ∈ after source)
    (weighed : ∀ source ∈ sources, Weighed (weight source, after source)) :
    weightedDistance (sources.map fun source => (weight source, after source)) ≤
      weightedDistance (sources.map fun source => (weight source, before source)) := by
  simp only [weightedDistance, List.map_map, Function.comp_def]
  apply List.sum_le_sum
  intro source isSource
  obtain ⟨weightNonneg, distances⟩ := weighed source isSource
  refine mul_le_mul_of_nonneg_left ?_ weightNonneg
  cases old : before source with
  | some distance => rw [gains source isSource distance old]
  | none =>
    -- A new match is at most as far as a miss.
    cases new : after source with
    | none => exact le_rfl
    | some distance => exact (distances distance new).2

theorem combineFields_gains {score : Rat} (gains : ∀ source ∈ sources,
      ∀ distance ∈ before source, distance ∈ after source)
    (weighed : ∀ source ∈ sources, Weighed (weight source, after source))
    (scored : combineFields (sources.map fun source => (weight source, before source)) =
      some score) :
    ∃ lower, combineFields (sources.map fun source => (weight source, after source)) =
      some lower ∧ lower ≤ score := by
  have sameTotal : totalWeight (sources.map fun source => (weight source, after source)) =
      totalWeight (sources.map fun source => (weight source, before source)) := by
    simp only [totalWeight, List.map_map, Function.comp_def]
  have matched : (combineFields (sources.map fun source => (weight source, after source))).isSome
      = true := by
    have old := combineFields_isSome (sources.map fun source => (weight source, before source))
    rw [scored, Option.isSome_some, eq_comm, List.any_map, List.any_eq_true] at old
    obtain ⟨source, isSource, isMatched⟩ := old
    obtain ⟨distance, same⟩ := Option.isSome_iff_exists.mp isMatched
    rw [combineFields_isSome, List.any_map, List.any_eq_true]
    exact ⟨source, isSource, Option.isSome_of_mem (gains source isSource distance same)⟩
  obtain ⟨lower, isLower⟩ := Option.isSome_iff_exists.mp matched
  refine ⟨lower, isLower, ?_⟩
  rcases combineFields_cases scored with ⟨light, least⟩ | ⟨heavy, rfl⟩ <;>
    rcases combineFields_cases isLower with ⟨light', least'⟩ | ⟨heavy', rfl⟩
  · have isMatch := (List.min?_eq_some_iff.mp least).1
    rw [List.filterMap_map, List.mem_filterMap] at isMatch
    obtain ⟨source, isSource, distance⟩ := isMatch
    refine (List.min?_eq_some_iff.mp least').2 score ?_
    rw [List.filterMap_map, List.mem_filterMap]
    exact ⟨source, isSource, gains source isSource score distance⟩
  · exact absurd light (not_le.mpr (sameTotal ▸ heavy'))
  · exact absurd light' (not_le.mpr (sameTotal.symm ▸ heavy))
  · rw [sameTotal]
    exact div_le_div_of_nonneg_right (weightedDistance_anti gains weighed) heavy.le

end Gains

def FieldWeights.over {α : Type} (weights : FieldWeights α) (entry : IndexEntry) :
    List (α × List Char) :=
  [(weights.name, entry.name), (weights.searchable, entry.searchable),
    (weights.description, entry.description)] ++
    (entry.parentName.map fun parent => (weights.parentName, parent)).toList

def FieldMatcher.distance? {α : Type} (matcher : FieldMatcher α) (pattern : Pattern)
    (field : List Char) : Option α :=
  (matcher pattern field).map (·.distance)

theorem SearchIndex.scoreEntry_eq {α : Type} [Measure α] (index : SearchIndex α)
    (pattern : Pattern) (entry : IndexEntry) :
    index.scoreEntry pattern entry = combineFields ((index.weights.over entry).map
      fun field => (field.1, index.matcher.distance? pattern field.2)) := by
  rw [scoreEntry, FieldWeights.over]
  cases entry.parentName <;> rfl

def FieldWeights.Nonneg (weights : FieldWeights Rat) : Prop :=
  0 ≤ weights.name ∧ 0 ≤ weights.searchable ∧ 0 ≤ weights.description ∧ 0 ≤ weights.parentName

instance (weights : FieldWeights Rat) : Decidable weights.Nonneg :=
  inferInstanceAs (Decidable (_ ∧ _ ∧ _ ∧ _))

theorem FieldWeights.Nonneg.over {weights : FieldWeights Rat} (nonneg : weights.Nonneg)
    (entry : IndexEntry) : ∀ field ∈ weights.over entry, 0 ≤ field.1 := by
  obtain ⟨name, searchable, description, parentName⟩ := nonneg
  cases parent : entry.parentName <;> simp_all [FieldWeights.over]

namespace FieldMatch

variable {settings : SearchSettings Rat} {pattern : Pattern} {field : List Char}

theorem distance?_bounds {distance : Rat}
    (near : (approximate settings).distance? pattern field = some distance) :
    0 ≤ distance ∧ distance ≤ settings.threshold := by
  obtain ⟨found, reported, rfl⟩ := Option.map_eq_some_iff.mp near
  obtain ⟨submitted, inside, _⟩ := approximate_eq_some reported
  have measures : found.Measures settings pattern.chars field :=
    (best?_cases submitted).elim (verbatim?_measures pattern.nonempty) approximate?_measures
  refine ⟨?_, inside⟩
  rw [measures.2]
  positivity

theorem weighed (settings : SearchSettings Rat) (atMost : settings.threshold ≤ 1)
    (nonneg : settings.weights.Nonneg) (pattern : Pattern) (entry : IndexEntry) :
    ∀ field ∈ settings.weights.over entry,
      Weighed (field.1, (approximate settings).distance? pattern field.2) := by
  intro field isField
  refine ⟨nonneg.over entry field isField, fun distance near => ?_⟩
  obtain ⟨lower, upper⟩ := distance?_bounds near
  exact ⟨lower, upper.trans atMost⟩

end FieldMatch

namespace SearchIndex

variable {settings : SearchSettings Rat} {elements : List Element} {pattern : Pattern}
  {hit : Hit Rat}

def fieldDistances (settings : SearchSettings Rat) (pattern : Pattern) (element : Element) :
    List (Rat × Option Rat) :=
  (settings.weights.over (.ofElement element)).map fun field =>
    (field.1, (FieldMatch.approximate settings).distance? pattern field.2)

theorem weighed_fieldDistances (atMost : settings.threshold ≤ 1)
    (nonneg : settings.weights.Nonneg) (pattern : Pattern) (element : Element) :
    ∀ field ∈ fieldDistances settings pattern element, Weighed field := by
  intro field isField
  obtain ⟨source, isSource, rfl⟩ := List.mem_map.mp isField
  exact FieldMatch.weighed settings atMost nonneg pattern _ source isSource

theorem scoreEntry_ofElements (elements : List Element) (element : Element) :
    (ofElements elements settings).scoreEntry pattern (.ofElement element) =
      combineFields (fieldDistances settings pattern element) :=
  scoreEntry_eq _ pattern _

theorem mem_hits_ofElements :
    hit ∈ (ofElements elements settings).hits pattern ↔
      elements[hit.position]? = some hit.element ∧
        combineFields (fieldDistances settings pattern hit.element) = some hit.score := by
  rw [← scoreEntry_ofElements elements]
  exact mem_hits elements settings.weights (FieldMatch.approximate settings) pattern hit

end SearchIndex

end SymbolSearch
