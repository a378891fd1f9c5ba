import Mathlib.Data.List.Nodup
import SymbolSearch.Proofs.Lists.FirstOccurrences
import SymbolSearch.Ranking.Exchange

set_option autoImplicit false

namespace SymbolSearch.Ranking

theorem lastWithId_id {candidates : List Element} {id : String} {place : Nat}
    (last : lastWithId candidates id = some place) :
    (candidates[place]?).map (·.id) = some id := by
  obtain ⟨⟨candidate, other⟩, found, rfl⟩ := Option.map_eq_some_iff.mp last
  have listed := List.mem_reverse.mp (List.mem_of_find?_eq_some found)
  have here : candidates[other]? = some candidate := List.mk_mem_zipIdx_iff_getElem?.mp listed
  have same : candidate.id = id := by simpa using List.find?_some found
  simp [here, same]

theorem mem_namedPlaces {candidates : List Element} {taken : List Nat} {ids : List String}
    {place : Nat} (named : place ∈ namedPlaces candidates taken ids) :
    place ∉ taken ∧ ∃ id, lastWithId candidates id = some place := by
  induction ids generalizing taken with
  | nil => simp [namedPlaces] at named
  | cons first ids ih =>
    unfold namedPlaces at named
    split at named
    next => exact ih named
    next other last =>
      split at named
      next => exact ih named
      next free =>
        rcases List.mem_cons.mp named with rfl | named
        · exact ⟨by simpa using free, first, last⟩
        · obtain ⟨notTaken, known⟩ := ih named
          exact ⟨fun before => notTaken (List.mem_cons_of_mem _ before), known⟩

theorem namedPlaces_nodup (candidates : List Element) (taken : List Nat) (ids : List String) :
    (namedPlaces candidates taken ids).Nodup := by
  induction ids generalizing taken with
  | nil => exact List.nodup_nil
  | cons id ids ih =>
    unfold namedPlaces
    split
    next => exact ih taken
    next place _ =>
      split
      next => exact ih taken
      next =>
        refine List.nodup_cons.mpr ⟨fun again => ?_, ih _⟩
        exact (mem_namedPlaces again).1 List.mem_cons_self

variable {α : Type} {candidates : List (SearchResult α)} {ids : List String} {limit : Nat}

theorem select_length_le : (select candidates ids limit).length ≤ limit :=
  Nat.le_trans (List.length_filterMap_le ..) (List.length_take_le ..)

theorem mem_of_mem_select {result : SearchResult α} (member : result ∈ select candidates ids limit) :
    result ∈ candidates := by
  obtain ⟨place, _, here⟩ := List.mem_filterMap.mp member
  exact List.mem_of_getElem? here

theorem select_ids_nodup : ((select candidates ids limit).map (·.element.id)).Nodup := by
  have places := (namedPlaces_nodup (candidates.map (·.element)) [] ids).sublist
    (List.take_sublist limit _)
  rw [List.Nodup, List.pairwise_map, select, List.pairwise_filterMap]
  refine places.imp_of_mem ?_
  intro left right leftNamed rightNamed differ one oneHere other otherHere same
  -- A place that is named is the last one with its id, so two of them with one id are the same.
  have last {place : Nat} {result : SearchResult α}
      (named : place ∈ (namedPlaces (candidates.map (·.element)) [] ids).take limit)
      (here : candidates[place]? = some result) :
      lastWithId (candidates.map (·.element)) result.element.id = some place := by
    obtain ⟨_, id, last⟩ := mem_namedPlaces (List.mem_of_mem_take named)
    have sameId := lastWithId_id last
    simp only [List.getElem?_map, here, Option.map_some, Option.some.injEq] at sameId
    rwa [sameId]
  have leftLast := last leftNamed oneHere
  rw [same, last rightNamed otherHere] at leftLast
  exact differ (Option.some.inj leftLast).symm

theorem lastWithId_injective {candidates : List Element} {id other : String} {place : Nat}
    (last : lastWithId candidates id = some place)
    (otherLast : lastWithId candidates other = some place) : id = other :=
  Option.some.inj ((lastWithId_id last).symm.trans (lastWithId_id otherLast))

theorem filterMap_lastWithId_ne {candidates : List Element} {id : String} {free after : Nat → Bool}
    (ids : List String)
    (taken : ∀ place, lastWithId candidates id = some place → after place = false)
    (others : ∀ other place, other ≠ id → lastWithId candidates other = some place →
      free place = after place) :
    ((ids.filter fun other => !other == id).filterMap (lastWithId candidates)).filter free =
      (ids.filterMap (lastWithId candidates)).filter after := by
  simp only [List.filterMap_filter, List.filter_filterMap]
  apply List.filterMap_congr
  intro other _
  cases last : lastWithId candidates other with
  | none => simp
  | some place =>
    by_cases same : other = id
    · subst same
      simp [Option.filter, taken place last]
    · simp [Option.filter, same, others other place same last]

theorem namedPlaces_eq (candidates : List Element) (taken : List Nat) (ids : List String) :
    namedPlaces candidates taken ids =
      (ids.eraseDups.filterMap (lastWithId candidates)).filter fun place =>
        !taken.contains place := by
  induction ids generalizing taken with
  | nil => rfl
  | cons id ids ih =>
    rw [List.eraseDups_cons, eraseDups_filter, List.filterMap_cons, namedPlaces]
    cases last : lastWithId candidates id with
    | none =>
      rw [filterMap_lastWithId_ne _ (by simp [last]) fun _ _ _ _ => rfl]
      exact ih taken
    | some place =>
      simp only
      by_cases again : taken.contains place = true
      · rw [if_pos again, List.filter_cons_of_neg (by simpa using again),
          filterMap_lastWithId_ne _ (by simpa [last] using again) fun _ _ _ _ => rfl]
        exact ih taken
      · -- Another id stands for another place.
        have others (other : String) (otherPlace : Nat) (differ : other ≠ id)
            (otherLast : lastWithId candidates other = some otherPlace) :
            (!taken.contains otherPlace) = !(place :: taken).contains otherPlace := by
          have apart : otherPlace ≠ place := by
            rintro rfl
            exact differ (lastWithId_injective otherLast last)
          simp [apart]
        rw [if_neg again, List.filter_cons_of_pos (by simpa using again), ih (place :: taken),
          filterMap_lastWithId_ne _ (by simp [last]) others]

def lastNamed? (candidates : List (SearchResult α)) (id : String) : Option (SearchResult α) :=
  candidates.reverse.find? fun candidate => candidate.element.id == id

def isKnown (candidates : List (SearchResult α)) (id : String) : Bool :=
  candidates.any fun candidate => candidate.element.id == id

theorem lastWithId_getElem? (candidates : List (SearchResult α)) (id : String) :
    (lastWithId (candidates.map (·.element)) id).bind (candidates[·]?) =
      lastNamed? candidates id := by
  have places : lastWithId (candidates.map (·.element)) id =
      (candidates.zipIdx.reverse.find? fun candidate => candidate.1.element.id == id).map (·.2) := by
    rw [lastWithId, List.zipIdx_map, ← List.map_reverse, List.find?_map, Option.map_map]
    rfl
  have named : lastNamed? candidates id =
      (candidates.zipIdx.reverse.find? fun candidate => candidate.1.element.id == id).map (·.1) := by
    have placed : candidates.reverse = candidates.zipIdx.reverse.map Prod.fst := by
      rw [List.map_reverse, List.zipIdx_map_fst]
    rw [lastNamed?, placed, List.find?_map]
    rfl
  rw [places, named]
  cases found : candidates.zipIdx.reverse.find? fun candidate => candidate.1.element.id == id with
  | none => rfl
  | some candidate =>
    have listed := List.mem_reverse.mp (List.mem_of_find?_eq_some found)
    exact List.mk_mem_zipIdx_iff_getElem?.mp listed

theorem lastNamed?_isSome (candidates : List (SearchResult α)) (id : String) :
    (lastNamed? candidates id).isSome = isKnown candidates id := by
  rw [Bool.eq_iff_iff, lastNamed?, List.find?_isSome, isKnown, List.any_eq_true]
  simp only [List.mem_reverse]

theorem lastNamed?_id {id : String} {candidate : SearchResult α}
    (last : lastNamed? candidates id = some candidate) :
    candidate.element.id = id := by
  simpa using List.find?_some last

theorem filterMap_take {β γ : Type} {f : β → Option γ} {items : List β}
    (present : ∀ item ∈ items, (f item).isSome) (count : Nat) :
    (items.take count).filterMap f = (items.filterMap f).take count := by
  induction items generalizing count with
  | nil => simp
  | cons item items ih =>
    obtain ⟨value, here⟩ := Option.isSome_iff_exists.mp (present item List.mem_cons_self)
    cases count with
    | zero => simp
    | succ count =>
      have rest := ih (fun other member => present other (List.mem_cons_of_mem _ member)) count
      simp [here, rest]

-- The ids of candidates among those named, each once, in the order of their first naming.
def knownIds (candidates : List (SearchResult α)) (ids : List String) : List String :=
  (ids.filter (isKnown candidates)).eraseDups

theorem select_eq (candidates : List (SearchResult α)) (ids : List String) (limit : Nat) :
    select candidates ids limit =
      ((knownIds candidates ids).filterMap (lastNamed? candidates)).take limit := by
  have places : namedPlaces (candidates.map (·.element)) [] ids =
      ids.eraseDups.filterMap (lastWithId (candidates.map (·.element))) := by
    rw [namedPlaces_eq, List.filter_eq_self]
    simp
  have present : ∀ place ∈ namedPlaces (candidates.map (·.element)) [] ids,
      (candidates[place]?).isSome := by
    intro place named
    obtain ⟨_, id, last⟩ := mem_namedPlaces named
    have here := lastWithId_id last
    rw [List.getElem?_map] at here
    cases found : candidates[place]? with
    | none => simp [found] at here
    | some _ => rfl
  rw [select, filterMap_take present, places, List.filterMap_filterMap, knownIds, eraseDups_filter,
    List.filterMap_filter]
  congr 1
  apply List.filterMap_congr
  intro id _
  have known := lastNamed?_isSome candidates id
  rw [lastWithId_getElem?]
  cases unknown : isKnown candidates id with
  | true => rfl
  | false => simpa [unknown] using known

theorem select_ids (candidates : List (SearchResult α)) (ids : List String) (limit : Nat) :
    (select candidates ids limit).map (·.element.id) = (knownIds candidates ids).take limit := by
  have named : ((knownIds candidates ids).filterMap (lastNamed? candidates)).map (·.element.id) =
      (knownIds candidates ids).filterMap some := by
    rw [List.map_filterMap]
    apply List.filterMap_congr
    intro id member
    have known : isKnown candidates id = true := by
      rw [knownIds, List.mem_eraseDups] at member
      exact (List.mem_filter.mp member).2
    rw [← lastNamed?_isSome] at known
    obtain ⟨candidate, last⟩ := Option.isSome_iff_exists.mp known
    rw [last, Option.map_some, lastNamed?_id last]
  rw [select_eq, List.map_take, named, List.filterMap_some]

theorem knownIds_ordered (candidates : List (SearchResult α)) (ids : List String) :
    (knownIds candidates ids).Pairwise fun first second => ids.idxOf first < ids.idxOf second := by
  rw [knownIds, eraseDups_filter]
  exact (eraseDups_ordered ids).sublist List.filter_sublist

theorem mem_knownIds {id : String} :
    id ∈ knownIds candidates ids ↔
      id ∈ ids ∧ ∃ candidate ∈ candidates, candidate.element.id = id := by
  simp [knownIds, isKnown]

theorem select_perm (distinct : (candidates.map (·.element.id)).Nodup)
    (named : ∀ candidate ∈ candidates, candidate.element.id ∈ ids)
    (enough : candidates.length ≤ limit) : (select candidates ids limit).Perm candidates := by
  have once : (knownIds candidates ids).Nodup := eraseDups_nodup _
  have same : (knownIds candidates ids).Perm (candidates.map (·.element.id)) := by
    rw [List.perm_ext_iff_of_nodup once distinct]
    intro id
    rw [mem_knownIds, List.mem_map]
    exact and_iff_right_of_imp fun ⟨candidate, member, isIt⟩ => isIt ▸ named candidate member
  have fits : (knownIds candidates ids).length ≤ limit := by
    rw [same.length_eq, List.length_map]
    exact enough
  rw [List.perm_ext_iff_of_nodup (.of_map _ select_ids_nodup) (.of_map _ distinct)]
  intro candidate
  refine ⟨mem_of_mem_select, fun member => ?_⟩
  have listed : candidate.element.id ∈ (select candidates ids limit).map (·.element.id) := by
    rw [select_ids, List.take_of_length_le fits, same.mem_iff]
    exact List.mem_map_of_mem member
  obtain ⟨selected, isSelected, sameId⟩ := List.mem_map.mp listed
  have isIt : selected = candidate :=
    List.inj_on_of_nodup_map distinct (mem_of_mem_select isSelected) member sameId
  exact isIt ▸ isSelected

/-- Of the ids that are named, those of no candidate are dropped, and the others keep their first
place and stand for the last candidate with the id; the first `limit` of these are selected. So no
id is selected twice, the order is that of the first naming, and where all candidates are named and
asked for, none is lost. -/
theorem select_first_namings (candidates : List (SearchResult α)) (ids : List String)
    (limit : Nat) :
    let selected := select candidates ids limit
    selected = ((knownIds candidates ids).filterMap (lastNamed? candidates)).take limit ∧
    selected.map (·.element.id) = (knownIds candidates ids).take limit ∧
    (selected.map (·.element.id)).Nodup ∧
    (selected.Pairwise fun first second =>
      ids.idxOf first.element.id < ids.idxOf second.element.id) ∧
    ((candidates.map (·.element.id)).Nodup →
      (∀ candidate ∈ candidates, candidate.element.id ∈ ids) →
      candidates.length ≤ limit → selected.Perm candidates) := by
  intro selected
  have ordered : (selected.map (·.element.id)).Pairwise fun first second =>
      ids.idxOf first < ids.idxOf second := by
    rw [select_ids]
    exact (knownIds_ordered candidates ids).sublist (List.take_sublist limit _)
  rw [List.pairwise_map] at ordered
  exact ⟨select_eq .., select_ids .., select_ids_nodup, ordered, select_perm⟩

def identified (id : String) : SearchResult Nat :=
  { element := { (default : Element) with id }, score := 0 }

theorem select_first_namings_all :
    (["a", "b", "c"].map identified |>.map (·.element.id)).Nodup ∧
      (select (["a", "b", "c"].map identified) ["x", "b", "c", "b", "a"] 5).Perm
        (["a", "b", "c"].map identified) ∧
      (select (["a", "b", "c"].map identified) ["x", "b", "c", "b", "a"] 5).map (·.element.id) =
        ["b", "c", "a"] := by
  obtain ⟨_, named, _, _, all⟩ :=
    select_first_namings (["a", "b", "c"].map identified) ["x", "b", "c", "b", "a"] 5
  have distinct : (["a", "b", "c"].map identified |>.map (·.element.id)).Nodup := by decide
  exact ⟨distinct, all distinct (by decide) (by decide), named.trans (by decide)⟩

end SymbolSearch.Ranking
