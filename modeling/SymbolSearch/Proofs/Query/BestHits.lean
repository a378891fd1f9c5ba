import Mathlib.Data.List.DropRight
import SymbolSearch.Query.SearchIndex

set_option autoImplicit false

namespace SymbolSearch

theorem Text.trim_eq_nil {text : List Char} : trim text = [] ↔ text.all isBlank = true := by
  have idempotent := List.dropWhile_idempotent (p := isBlank) (l := text)
  rw [trim, trimEnd, List.reverse_eq_nil_iff, List.dropWhile_eq_nil_iff, trimStart]
  simp only [List.mem_reverse]
  rw [← List.dropWhile_eq_nil_iff, idempotent, List.dropWhile_eq_nil_iff, List.all_eq_true]

theorem Pattern.ofQuery?_eq_none {query : String} :
    ofQuery? query = none ↔ query.toList.all Text.isBlank = true := by
  rw [← Text.trim_eq_nil, ofQuery?]
  cases Text.trim query.toList <;> simp

instance : Std.TransCmp (Measure.order : Float → Float → Ordering) :=
  inferInstanceAs (Std.TransCmp (compareOn bitRank))

variable {α : Type} [Measure α]

theorem combineFields_isSome (fields : List (α × Option α)) :
    (combineFields fields).isSome = fields.any fun field => field.2.isSome := by
  unfold combineFields
  split
  next none => simpa using none
  next some =>
    have matched : ∃ field ∈ fields, field.2.isSome = true := by
      simpa [Option.ne_none_iff_isSome] using some
    rw [List.any_eq_true.mpr matched]
    simp only
    split
    · obtain ⟨field, member, distance⟩ := matched
      obtain ⟨value, same⟩ := Option.isSome_iff_exists.mp distance
      have listed : value ∈ fields.filterMap (·.2) := List.mem_filterMap.mpr ⟨field, member, same⟩
      cases values : fields.filterMap (·.2) with
      | nil => simp [values] at listed
      | cons => rfl
    · rfl

def IndexEntry.fields (entry : IndexEntry) : List (List Char) :=
  [entry.name, entry.searchable, entry.description] ++ entry.parentName.toList

def FieldMatcher.accepts (matcher : FieldMatcher α) (pattern : Pattern) (element : Element) :
    Bool :=
  (IndexEntry.ofElement element).fields.any fun field => (matcher pattern field).isSome

namespace SearchIndex

theorem scoreEntry_isSome (index : SearchIndex α) (pattern : Pattern) (element : Element) :
    (index.scoreEntry pattern (.ofElement element)).isSome =
      FieldMatcher.accepts index.matcher pattern element := by
  rw [scoreEntry, combineFields_isSome, FieldMatcher.accepts, IndexEntry.fields]
  cases (IndexEntry.ofElement element).parentName <;> simp

section Order

variable [Std.TransCmp (Measure.order : α → α → Ordering)]

instance : Std.TransCmp fun left right : Hit α => Measure.order left.score right.score where
  eq_swap := Std.OrientedCmp.eq_swap
  isLE_trans := Std.TransCmp.isLE_trans

instance : Std.TransCmp (Hit.order (α := α)) :=
  inferInstanceAs (Std.TransCmp (compareLex
    (fun left right : Hit α => Measure.order left.score right.score) (compareOn Hit.position)))

theorem Hit.order_total (left right : Hit α) :
    ((Hit.order left right).isLE || (Hit.order right left).isLE) = true := by
  rw [Bool.or_eq_true]
  by_cases le : (Hit.order left right).isLE = true
  · exact .inl le
  · exact .inr (Ordering.isLE_of_eq_lt (Std.OrientedCmp.lt_of_not_isLE le))

end Order

theorem Hit.order_lt {left right : Hit α} (le : (Hit.order left right).isLE = true)
    (apart : left.position ≠ right.position) : Hit.order left right = .lt := by
  cases same : Hit.order left right with
  | lt => rfl
  | eq => exact absurd (Nat.compare_eq_eq.mp (Ordering.then_eq_eq.mp same).2) apart
  | gt => simp [same] at le

section Hits

variable (index : SearchIndex α) (pattern : Pattern)

theorem hits_ordered :
    (index.hits pattern).Pairwise fun left right => left.position < right.position := by
  have indexed : index.entries.zipIdx.Pairwise fun left right => left.2 < right.2 := by
    rw [← List.pairwise_map (f := Prod.snd), List.zipIdx_map_snd]
    exact List.pairwise_lt_range'
  refine indexed.filterMap _ ?_
  rintro ⟨_, _⟩ ⟨_, _⟩ before hit isHit other isOther
  obtain ⟨_, _, rfl⟩ := Option.map_eq_some_iff.mp isHit
  obtain ⟨_, _, rfl⟩ := Option.map_eq_some_iff.mp isOther
  exact before

def ranked : List (Hit α) :=
  (index.hits pattern).mergeSort fun left right => (Hit.order left right).isLE

theorem ranked_perm : (index.ranked pattern).Perm (index.hits pattern) :=
  List.mergeSort_perm _ _

theorem ranked_apart :
    (index.ranked pattern).Pairwise fun left right => left.position ≠ right.position := by
  refine ((index.ranked_perm pattern).pairwise_iff Ne.symm).mpr ?_
  exact (index.hits_ordered pattern).imp Nat.ne_of_lt

theorem ranked_ordered [Std.TransCmp (Measure.order : α → α → Ordering)] :
    (index.ranked pattern).Pairwise fun left right => Hit.order left right = .lt := by
  have sorted : (index.ranked pattern).Pairwise
      fun left right => (Hit.order left right).isLE = true :=
    List.pairwise_mergeSort (fun _ _ _ => Std.TransCmp.isLE_trans) Hit.order_total _
  -- No two hits have one place, which makes the order strict.
  exact (sorted.and (index.ranked_apart pattern)).imp fun ⟨le, apart⟩ => Hit.order_lt le apart

def Hit.result (hit : Hit α) : SearchResult α :=
  { element := hit.element, score := hit.score }

variable {pattern} {query : String}

theorem search_pattern (looksFor : Pattern.ofQuery? query = some pattern) (limit : Nat) :
    index.search query limit = ((index.ranked pattern).take limit).map Hit.result := by
  unfold search
  split
  next none => simp [none]
  next =>
    simp only [looksFor]
    rfl

theorem search_blank (blank : Pattern.ofQuery? query = none) (limit : Nat) :
    index.search query limit =
      (index.elements.take limit).map fun element => { element, score := Measure.ofNat 0 } := by
  unfold search
  split
  next none => simp [none]
  next => simp only [blank]

end Hits

section Elements

variable (elements : List Element) (weights : FieldWeights α) (matcher : FieldMatcher α)
  (pattern : Pattern)

def IsHit (hit : Hit α) : Prop :=
  elements[hit.position]? = some hit.element ∧
    (withMatcher elements weights matcher).scoreEntry pattern (.ofElement hit.element) =
      some hit.score

omit [Measure α] in
theorem elements_withMatcher : (withMatcher elements weights matcher).elements = elements := by
  simp [SearchIndex.elements, withMatcher, IndexEntry.ofElement, Function.comp_def]

theorem hits_withMatcher :
    (withMatcher elements weights matcher).hits pattern =
      elements.zipIdx.filterMap fun (element, position) =>
        ((withMatcher elements weights matcher).scoreEntry pattern (.ofElement element)).map
          fun score => { position, element, score } := by
  rw [hits, withMatcher, List.zipIdx_map, List.filterMap_map]
  rfl

theorem mem_hits (hit : Hit α) :
    hit ∈ (withMatcher elements weights matcher).hits pattern ↔
      IsHit elements weights matcher pattern hit := by
  simp only [hits_withMatcher, List.mem_filterMap, List.mem_zipIdx_iff_getElem?,
    Option.map_eq_some_iff, IsHit, Prod.exists]
  constructor
  · rintro ⟨element, position, here, score, scored, rfl⟩
    exact ⟨here, scored⟩
  · rintro ⟨here, scored⟩
    exact ⟨hit.element, hit.position, here, hit.score, scored, rfl⟩

theorem IsHit.accepted {hit : Hit α} (isHit : IsHit elements weights matcher pattern hit) :
    matcher.accepts pattern hit.element = true := by
  have scored := scoreEntry_isSome (withMatcher elements weights matcher) pattern hit.element
  rw [isHit.2] at scored
  exact scored.symm

theorem length_hits :
    ((withMatcher elements weights matcher).hits pattern).length =
      elements.countP (matcher.accepts pattern) := by
  rw [hits_withMatcher, List.length_filterMap_eq_countP]
  simp only [Option.isSome_map, scoreEntry_isSome]
  conv_rhs => rw [← List.zipIdx_map_fst 0 elements, List.countP_map]
  rfl

/-- A search lists the least hits by score and place, as many as there are up to the limit; a blank
query lists the first elements. With a smaller limit the list is a front of the same list. -/
theorem search_best [Std.TransCmp (Measure.order : α → α → Ordering)] (query : String)
    {fewer limit : Nat} (le : fewer ≤ limit) :
    let search := (withMatcher elements weights matcher).search query
    search fewer <+: search limit ∧
    (query.toList.all Text.isBlank = true →
      search limit =
        (elements.take limit).map fun element => { element, score := Measure.ofNat 0 }) ∧
    (query.toList.all Text.isBlank = false →
      ∃ pattern, ∃ listed : List (Hit α), Pattern.ofQuery? query = some pattern ∧
        search limit = listed.map Hit.result ∧
        listed.length = min limit (elements.countP (matcher.accepts pattern)) ∧
        listed.Pairwise (fun left right => left.position ≠ right.position) ∧
        (∀ hit ∈ listed, IsHit elements weights matcher pattern hit ∧
          matcher.accepts pattern hit.element = true) ∧
        listed.Pairwise (fun left right => Hit.order left right = .lt) ∧
        ∀ other, IsHit elements weights matcher pattern other → other ∉ listed →
          ∀ hit ∈ listed, Hit.order hit other = .lt) := by
  let index := withMatcher elements weights matcher
  intro search
  cases looksFor : Pattern.ofQuery? query with
  | none =>
    have found : ∀ limit, search limit = _ := index.search_blank looksFor
    have blank := Pattern.ofQuery?_eq_none.mp looksFor
    refine ⟨?_, ?_, fun some => absurd (blank.symm.trans some) (by decide)⟩
    · rw [found, found]
      exact (List.take_prefix_take_left le).map _
    · intro _
      rw [found, elements_withMatcher]
  | some pattern =>
    have found : ∀ limit, search limit = _ := index.search_pattern looksFor
    have perm := index.ranked_perm pattern
    have ordered := index.ranked_ordered pattern
    refine ⟨?_, ?_, ?_⟩
    · rw [found, found]
      exact (List.take_prefix_take_left le).map _
    · intro blank
      rw [Pattern.ofQuery?_eq_none.mpr blank] at looksFor
      cases looksFor
    · intro _
      refine ⟨pattern, (index.ranked pattern).take limit, rfl, found limit, ?_, ?_, ?_, ?_, ?_⟩
      · rw [List.length_take, perm.length_eq, length_hits]
      · exact (index.ranked_apart pattern).sublist (List.take_sublist _ _)
      · intro hit member
        have isHit := (mem_hits elements weights matcher pattern hit).mp
          (perm.subset (List.mem_of_mem_take member))
        exact ⟨isHit, isHit.accepted⟩
      · exact ordered.sublist (List.take_sublist _ _)
      · -- What is not in the front of the order is behind all of the front.
        intro other isHit left hit member
        have listed : other ∈ index.ranked pattern := perm.mem_iff.mpr ((mem_hits ..).mpr isHit)
        rw [← List.take_append_drop limit (index.ranked pattern)] at listed ordered
        have behind := (List.mem_append.mp listed).resolve_left left
        exact (List.pairwise_append.mp ordered).2.2 hit member other behind

end Elements

def twoOfThree : List Element :=
  [{ (default : Element) with name := "run" }, { (default : Element) with name := "stop" },
    { (default : Element) with name := "Run" }]

theorem search_best_of_three :
    1 ≤ 2 ∧ "run".toList.all Text.isBlank = false ∧
      ∃ listed : List (Hit Float),
        (withMatcher twoOfThree ⟨1, 1, 1, 1⟩ FieldMatch.equality).search "run" 2 =
          listed.map Hit.result ∧
        listed.length = 2 ∧ listed.Pairwise (fun left right => left.position ≠ right.position) := by
  have some : "run".toList.all Text.isBlank = false := by decide
  obtain ⟨_, _, nonblank⟩ := search_best twoOfThree ⟨1, 1, 1, 1⟩
    (FieldMatch.equality : FieldMatcher Float) "run" (by decide : 1 ≤ 2)
  obtain ⟨pattern, listed, looksFor, found, length, apart, _⟩ := nonblank some
  obtain rfl : pattern = ⟨['r', 'u', 'n'], by decide⟩ :=
    Option.some.inj (looksFor.symm.trans (by rfl))
  have accepted : twoOfThree.countP (FieldMatcher.accepts
      (FieldMatch.equality : FieldMatcher Float) ⟨['r', 'u', 'n'], by decide⟩) = 2 := by
    decide
  rw [accepted] at length
  exact ⟨by decide, some, listed, found, length, apart⟩

end SearchIndex

end SymbolSearch
