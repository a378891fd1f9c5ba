import SymbolSearch.Proofs.Query.Scores
import SymbolSearch.Settings

set_option autoImplicit false

namespace SymbolSearch

namespace Text

def Bare (text : List Char) : Prop :=
  (∀ c ∈ text.head?, isBlank c = false) ∧ ∀ c ∈ text.getLast?, isBlank c = false

theorem dropWhile_isBlank {text : List Char} (begins : ∀ c ∈ text.head?, isBlank c = false) :
    text.dropWhile isBlank = text := by
  cases text with
  | nil => rfl
  | cons c text => simp [begins c rfl]

theorem Bare.trim {text : List Char} (bare : Bare text) : Text.trim text = text := by
  rw [Text.trim, trimEnd, trimStart, dropWhile_isBlank bare.1, dropWhile_isBlank,
    List.reverse_reverse]
  simpa using bare.2

theorem lowerCase_ne_nil {text : List Char} (nonempty : text ≠ []) : lowerCase text ≠ [] := by
  cases text with
  | nil => exact absurd rfl nonempty
  | cons c rest => exact lowerFrom_ne_nil [] c rest

end Text

theorem Pattern.ofQuery?_eq_some {query : String} (nonblank : Text.trim query.toList ≠ []) :
    ∃ pattern, ofQuery? query = some pattern ∧
      pattern.chars = Text.lowerCase (Text.trim query.toList) := by
  cases trimmed : Text.trim query.toList with
  | nil => exact absurd trimmed nonblank
  | cons c rest =>
    refine ⟨⟨Text.lowerCase (c :: rest), Text.lowerFrom_ne_nil [] c rest⟩, ?_, rfl⟩
    simp only [ofQuery?, trimmed]

namespace FieldMatch

theorem verbatim?_self (settings : SearchSettings Rat) {pattern : List Char}
    (nonempty : pattern ≠ []) :
    verbatim? settings pattern pattern =
      some { distance := penalty settings 0, start := 0, length := pattern.length } := by
  have atStart : Alignment.occurrence? pattern pattern = some 0 := by
    cases pattern with
    | nil => exact absurd rfl nonempty
    | cons c pattern => simp [Alignment.occurrence?]
  rw [verbatim?, atStart]
  rfl

theorem distance?_self {settings : SearchSettings Rat} (atStart : settings.location = 0)
    (lax : 0 ≤ settings.threshold) {pattern : Pattern}
    (long : settings.minLength ≤ pattern.chars.length) :
    (approximate settings).distance? pattern pattern.chars = some 0 := by
  have free : penalty settings 0 = 0 := (penalty_eq_zero settings).mpr atStart.symm
  have positive := List.length_pos_iff.mpr pattern.nonempty
  have passed : accepted settings
      { distance := 0, start := 0, length := pattern.chars.length } = true := by
    simp only [accepted, Measure.le_rat, lax, decide_true, Bool.true_and, decide_eq_true_eq]
    omega
  have reported : approximate settings pattern pattern.chars =
      some { distance := 0, start := 0, length := pattern.chars.length } := by
    rw [approximate, best?, verbatim?_self settings pattern.nonempty, free]
    simp only [Measure.isZero_rat, decide_true, if_true]
    exact Option.filter_eq_some_iff.mpr ⟨rfl, passed⟩
  rw [FieldMatcher.distance?, reported]
  rfl

end FieldMatch

namespace SearchSettings

abbrev exact : SearchSettings Rat := .default

theorem exact_weights : exact.weights = ⟨2 / 5, 3 / 10, 1 / 5, 1 / 10⟩ := by
  simp only [exact, default, FieldWeights.default, FieldWeights.mk.injEq]
  decide +kernel

theorem exact_threshold : exact.threshold = 4 / 5 := by
  decide +kernel

end SearchSettings

namespace SearchIndex

variable {pattern : Pattern} {element : Element}

structure OnlyText (settings : SearchSettings Rat) (pattern : Pattern) (element : Element) :
    Prop where
  name : FieldMatch.approximate settings pattern (foldField element.name) = none
  searchable : (FieldMatch.approximate settings pattern (foldField element.searchable)).isSome
  description : FieldMatch.approximate settings pattern (foldField element.description) = none
  parent : ∀ parent ∈ element.parent,
    FieldMatch.approximate settings pattern (foldField parent.name) = none

theorem exact_weighed (pattern : Pattern) (element : Element) :
    ∀ field ∈ fieldDistances .exact pattern element, Weighed field := by
  refine weighed_fieldDistances ?_ ?_ pattern element
  · rw [SearchSettings.exact_threshold]
    norm_num
  · rw [SearchSettings.exact_weights]
    norm_num [FieldWeights.Nonneg]

theorem exact_totalWeight (pattern : Pattern) (element : Element) :
    9 / 10 ≤ totalWeight (fieldDistances .exact pattern element) ∧
      totalWeight (fieldDistances .exact pattern element) ≤ 1 := by
  simp only [totalWeight, fieldDistances, SearchSettings.exact_weights, FieldWeights.over,
    IndexEntry.ofElement]
  cases element.parent <;> norm_num

theorem exact_scored (pattern : Pattern) (element : Element)
    (matched : ∃ field ∈ fieldDistances .exact pattern element, field.2.isSome) :
    combineFields (fieldDistances .exact pattern element) =
      some (weightedDistance (fieldDistances .exact pattern element) /
        totalWeight (fieldDistances .exact pattern element)) := by
  have heavy := (exact_totalWeight pattern element).1
  exact combineFields_heavy (by linarith) matched

theorem totalWeight_cons (field : Rat × Option Rat) (rest : List (Rat × Option Rat)) :
    totalWeight (field :: rest) = field.1 + totalWeight rest := by
  simp [totalWeight]

theorem weightedDistance_cons (field : Rat × Option Rat) (rest : List (Rat × Option Rat)) :
    weightedDistance (field :: rest) = field.1 * field.2.getD 1 + weightedDistance rest := by
  simp [weightedDistance]

theorem weightedDistance_unmatched {fields : List (Rat × Option Rat)}
    (unmatched : ∀ field ∈ fields, field.2 = none) : weightedDistance fields = totalWeight fields := by
  apply congrArg List.sum
  apply List.map_congr_left
  intro field isField
  rw [unmatched field isField, Option.getD_none, mul_one]

theorem named_score_le (named : foldField element.name = pattern.chars) :
    ∃ score ≤ 3 / 5, combineFields (fieldDistances .exact pattern element) = some score := by
  have free : (FieldMatch.approximate .exact).distance? pattern (foldField element.name) =
      some 0 := by
    rw [named]
    refine FieldMatch.distance?_self rfl ?_ (List.length_pos_iff.mpr pattern.nonempty)
    rw [SearchSettings.exact_threshold]
    norm_num
  obtain ⟨rest, fields⟩ : ∃ rest,
      fieldDistances .exact pattern element = (2 / 5, some 0) :: rest := by
    simp only [fieldDistances, FieldWeights.over, IndexEntry.ofElement, List.cons_append,
      List.map_cons, free, SearchSettings.exact_weights]
    exact ⟨_, rfl⟩
  have weighed := exact_weighed pattern element
  have total := exact_totalWeight pattern element
  have scored := exact_scored pattern element ⟨(2 / 5, some 0), by simp [fields], rfl⟩
  rw [fields] at weighed total scored ⊢
  -- What the other fields add is at most their weight.
  have others := weightedDistance_le (List.forall_mem_of_forall_mem_cons weighed)
  refine ⟨_, ?_, scored⟩
  rw [totalWeight_cons] at total ⊢
  rw [weightedDistance_cons, Option.getD_some, mul_zero, zero_add, div_le_iff₀ (by linarith)]
  linarith

theorem onlyText_le_score (only : OnlyText .exact pattern element) :
    ∃ score, 2 / 3 ≤ score ∧
      combineFields (fieldDistances .exact pattern element) = some score := by
  obtain ⟨found, accepted⟩ := Option.isSome_iff_exists.mp only.searchable
  have near : (FieldMatch.approximate .exact).distance? pattern (foldField element.searchable) =
      some found.distance := by
    rw [FieldMatcher.distance?, accepted]
    rfl
  have unmatched {field : List Char} (none : FieldMatch.approximate .exact pattern field = none) :
      (FieldMatch.approximate .exact).distance? pattern field = Option.none := by
    rw [FieldMatcher.distance?, none]
    rfl
  obtain ⟨rest, fields, missed⟩ : ∃ rest,
      fieldDistances .exact pattern element =
        (2 / 5, none) :: (3 / 10, some found.distance) :: rest ∧
      ∀ field ∈ rest, field.2 = none := by
    simp only [fieldDistances, FieldWeights.over, IndexEntry.ofElement, List.cons_append,
      List.map_cons, near, unmatched only.name, unmatched only.description,
      SearchSettings.exact_weights]
    refine ⟨_, rfl, ?_⟩
    cases parent : element.parent with
    | none => simp
    | some parent' => simp [unmatched (only.parent parent' parent)]
  have total := exact_totalWeight pattern element
  have scored := exact_scored pattern element ⟨(3 / 10, some found.distance), by simp [fields], rfl⟩
  have nonneg := (FieldMatch.distance?_bounds near).1
  rw [fields] at total scored ⊢
  refine ⟨_, ?_, scored⟩
  rw [totalWeight_cons, totalWeight_cons] at total ⊢
  rw [weightedDistance_cons, weightedDistance_cons, weightedDistance_unmatched missed,
    Option.getD_none, Option.getD_some, le_div_iff₀ (by linarith)]
  linarith

theorem Hit.order_exact {left right : Hit Rat} (before : Hit.order left right = .lt) :
    left.score ≤ right.score := by
  by_contra! above
  have reversed : Measure.order left.score right.score = .gt :=
    Std.OrientedCmp.gt_iff_lt.mpr (Measure.order_lt_rat.mpr above)
  simp [Hit.order, reversed] at before

theorem mem_front_of_score_lt (index : SearchIndex Rat) {limit : Nat} {hit better : Hit Rat}
    (isHit : better ∈ index.hits pattern) (less : better.score < hit.score)
    {front behind : List (Hit Rat)}
    (listed : (index.ranked pattern).take limit = front ++ hit :: behind) : better ∈ front := by
  have ranked : index.ranked pattern =
      front ++ hit :: (behind ++ (index.ranked pattern).drop limit) := by
    rw [← List.cons_append, ← List.append_assoc, ← listed, List.take_append_drop]
  have ordered := index.ranked_ordered pattern
  have member := (index.ranked_perm pattern).mem_iff.mpr isHit
  rw [ranked] at ordered member
  rcases List.mem_append.mp member with before | after
  · exact before
  · rcases List.mem_cons.mp after with rfl | later
    · exact absurd less (lt_irrefl _)
    · have order := List.rel_of_pairwise_cons (List.pairwise_append.mp ordered).2.1 later
      exact absurd (Hit.order_exact order) (not_le.mpr less)

theorem mem_ranked_take (elements : List Element) {hit : Hit Rat}
    (isHit : hit ∈ (ofElements elements .exact).hits pattern) :
    hit ∈ ((ofElements elements .exact).ranked pattern).take elements.length := by
  have perm := (ofElements elements .exact).ranked_perm pattern
  have few : ((ofElements elements .exact).ranked pattern).length ≤ elements.length := by
    rw [perm.length_eq]
    exact (length_hits elements _ _ pattern).trans_le List.countP_le_length
  rw [List.take_of_length_le few]
  exact perm.mem_iff.mpr isHit

/-- An element is found under its name. A search for it, however spelled and spaced, puts the
element in front of all elements that match in their text only, since its score is below theirs. -/
theorem exact_name_outranks_text (elements : List Element) {place : Nat} {element : Element}
    (here : elements[place]? = some element) (named : element.name ≠ "")
    (bare : Text.Bare element.name.toList) :
    let index := ofElements elements SearchSettings.exact
    (∃ score, { element, score } ∈ index.search element.name elements.length) ∧
    ∀ query, Text.lowerCase (Text.trim query.toList) = foldField element.name →
      ∃ pattern score, Pattern.ofQuery? query = some pattern ∧
        index.scoreEntry pattern (.ofElement element) = some score ∧
        ∀ otherPlace other, elements[otherPlace]? = some other →
          OnlyText .exact pattern other →
          ∃ otherScore, index.scoreEntry pattern (.ofElement other) = some otherScore ∧
            score < otherScore ∧
            ∀ limit,
              let listed := (index.ranked pattern).take limit
              index.search query limit = listed.map Hit.result ∧
              ∀ front behind,
                listed = front ++ { position := otherPlace, element := other, score := otherScore }
                  :: behind →
                { position := place, element, score } ∈ front := by
  intro index
  have folded : foldField element.name ≠ [] := by
    refine Text.lowerCase_ne_nil fun empty => named ?_
    rw [← String.ofList_toList (s := element.name), empty]
  have found {query : String}
      (same : Text.lowerCase (Text.trim query.toList) = foldField element.name) :
      ∃ pattern score, Pattern.ofQuery? query = some pattern ∧ score ≤ 3 / 5 ∧
        index.scoreEntry pattern (.ofElement element) = some score ∧
        { position := place, element, score } ∈ index.hits pattern := by
    have nonblank : Text.trim query.toList ≠ [] := by
      intro blank
      rw [blank] at same
      exact folded same.symm
    obtain ⟨pattern, looksFor, chars⟩ := Pattern.ofQuery?_eq_some nonblank
    obtain ⟨score, upper, scored⟩ := named_score_le (same.symm.trans chars.symm)
    exact ⟨pattern, score, looksFor, upper, (scoreEntry_ofElements elements element).trans scored,
      mem_hits_ofElements.mpr ⟨here, scored⟩⟩
  constructor
  · have own : Text.lowerCase (Text.trim element.name.toList) = foldField element.name := by
      rw [bare.trim, foldField]
    obtain ⟨pattern, score, looksFor, _, _, isHit⟩ := found own
    refine ⟨score, ?_⟩
    rw [index.search_pattern looksFor]
    exact List.mem_map_of_mem (mem_ranked_take elements isHit)
  · intro query same
    obtain ⟨pattern, score, looksFor, upper, scored, isHit⟩ := found same
    refine ⟨pattern, score, looksFor, scored, ?_⟩
    intro otherPlace other there only
    obtain ⟨otherScore, lower, otherScored⟩ := onlyText_le_score only
    have less : score < otherScore := by linarith
    refine ⟨otherScore, (scoreEntry_ofElements elements other).trans otherScored, less, ?_⟩
    intro limit listed
    exact ⟨index.search_pattern looksFor limit,
      fun front behind split => mem_front_of_score_lt index isHit less split⟩

def mentioning : Element :=
  { (default : Element) with name := "stop", searchable := "run", parent := some ⟨"Job", .file⟩ }

def running : Element :=
  { (default : Element) with name := "Run" }

theorem exact_name_outranks_text_later :
    let index := ofElements [mentioning, running] SearchSettings.exact
    (∃ score, { element := running, score } ∈ index.search "Run" 2) ∧
      ∃ pattern score otherScore, Pattern.ofQuery? " rUn" = some pattern ∧
        OnlyText .exact pattern mentioning ∧
        index.scoreEntry pattern (.ofElement running) = some score ∧
        index.scoreEntry pattern (.ofElement mentioning) = some otherScore ∧
        score < otherScore ∧
        ∃ front behind,
          (index.ranked pattern).take 2 =
            front ++ { position := 0, element := mentioning, score := otherScore } :: behind ∧
          { position := 1, element := running, score } ∈ front := by
  intro index
  have here : [mentioning, running][1]? = some running := rfl
  have there : [mentioning, running][0]? = some mentioning := rfl
  have bare : Text.Bare running.name.toList := by
    constructor <;> rintro _ ⟨⟩ <;> decide
  obtain ⟨own, others⟩ := exact_name_outranks_text [mentioning, running] here (by decide) bare
  obtain ⟨pattern, score, looksFor, scored, ahead⟩ := others " rUn" (by decide +kernel)
  obtain rfl : pattern = ⟨['r', 'u', 'n'], by decide⟩ :=
    Option.some.inj (looksFor.symm.trans (by rfl))
  have only : OnlyText .exact ⟨['r', 'u', 'n'], by decide⟩ mentioning := by
    refine ⟨Option.isNone_iff_eq_none.mp (by decide +kernel), by decide +kernel,
      Option.isNone_iff_eq_none.mp (by decide +kernel), ?_⟩
    rintro _ ⟨⟩
    exact Option.isNone_iff_eq_none.mp (by decide +kernel)
  obtain ⟨otherScore, otherScored, less, inFront⟩ := ahead 0 mentioning there only
  have isHit : { position := 0, element := mentioning, score := otherScore } ∈
      index.hits ⟨['r', 'u', 'n'], by decide⟩ :=
    mem_hits_ofElements.mpr ⟨there, (scoreEntry_ofElements _ mentioning).symm.trans otherScored⟩
  obtain ⟨front, behind, split⟩ := List.append_of_mem (mem_ranked_take _ isHit)
  exact ⟨own, _, score, otherScore, looksFor, only, scored, otherScored, less, front, behind, split,
    (inFront 2).2 front behind split⟩

end SearchIndex

end SymbolSearch
