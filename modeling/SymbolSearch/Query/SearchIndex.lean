import SymbolSearch.Element
import SymbolSearch.Query.Match

set_option autoImplicit false

namespace SymbolSearch

structure IndexEntry where
  element : Element
  name : List Char
  searchable : List Char
  description : List Char
  parentName : Option (List Char)

def IndexEntry.ofElement (element : Element) : IndexEntry :=
  { element
    name := foldField element.name
    searchable := foldField element.searchable
    description := foldField element.description
    parentName := element.parent.map fun parent => foldField parent.name }

structure SearchResult (α : Type) where
  element : Element
  score : α

structure SearchIndex (α : Type) where
  entries : List IndexEntry
  weights : FieldWeights α
  matcher : FieldMatcher α

namespace SearchIndex

variable {α : Type} [Measure α]

def withMatcher (elements : List Element) (weights : FieldWeights α) (matcher : FieldMatcher α) :
    SearchIndex α :=
  { entries := elements.map IndexEntry.ofElement, weights, matcher }

def ofElements (elements : List Element) (settings : SearchSettings α) : SearchIndex α :=
  withMatcher elements settings.weights (FieldMatch.approximate settings)

def elements (index : SearchIndex α) : List Element :=
  index.entries.map (·.element)

def scoreEntry (index : SearchIndex α) (pattern : Pattern) (entry : IndexEntry) : Option α :=
  let distance field := (index.matcher pattern field).map (·.distance)
  combineFields
    ([(index.weights.name, distance entry.name),
      (index.weights.searchable, distance entry.searchable),
      (index.weights.description, distance entry.description)] ++
      (entry.parentName.map fun parent => (index.weights.parentName, distance parent)).toList)

structure Hit (α : Type) where
  position : Nat
  element : Element
  score : α

def hits (index : SearchIndex α) (pattern : Pattern) : List (Hit α) :=
  index.entries.zipIdx.filterMap fun (entry, position) =>
    (index.scoreEntry pattern entry).map fun score => { position, element := entry.element, score }

def Hit.order (left right : Hit α) : Ordering :=
  (Measure.order left.score right.score).then (compare left.position right.position)

def search (index : SearchIndex α) (query : String) (limit : Nat) : List (SearchResult α) :=
  if limit = 0 then []
  else
    match Pattern.ofQuery? query with
    | none => (index.elements.take limit).map fun element => { element, score := Measure.ofNat 0 }
    | some pattern =>
      -- The place in the index decides between equal scores, so the order is strict.
      (((index.hits pattern).mergeSort fun left right => (Hit.order left right).isLE).take limit).map
        fun hit => { element := hit.element, score := hit.score }

end SearchIndex

end SymbolSearch
