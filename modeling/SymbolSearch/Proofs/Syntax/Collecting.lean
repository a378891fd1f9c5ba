import Mathlib.Data.List.TakeWhile
import SymbolSearch.Declarations
import SymbolSearch.Proofs.Syntax.Heads

set_option autoImplicit false

namespace SymbolSearch

open Syntax

namespace Syntax

-- A method with a body or an abstract one. Accessors with a body are none, and neither is the
-- constructor.
def Member.IsMethod (member : Member) : Prop :=
  (member.sort = .abstractSignature ∨ member.sort = .definition ∧ .accessor ∉ member.front) ∧
    member.name ≠ some "constructor"

instance (member : Member) : Decidable member.IsMethod :=
  inferInstanceAs (Decidable ((_ ∨ _ ∧ _) ∧ _))

inductive Wraps (node : Node) : Node → Prop where
  | bare : Wraps node node
  | declaration {wrapper : Node} {value : Option Node} :
    Wraps node wrapper → Wraps node (.exported (some wrapper) value)
  | value {wrapper : Node} : Wraps node wrapper → Wraps node (.exported none (some wrapper))
  | ambient {wrapper : Node} : Wraps node wrapper → Wraps node (.ambient [wrapper])

end Syntax

namespace Declarations

def class? : Node → Option DeclaredContainer
  | .container .classSort name row members =>
    some { name, line := row + 1
           methods := (members.filter (·.IsMethod)).map declaredMember }
  | _ => none

def interface? : Node → Option DeclaredContainer
  | .container .interfaceSort name row members =>
    some { name, line := row + 1
           methods := (members.filter fun member =>
             member.sort = .signature && member.name.isSome).map declaredMember }
  | _ => none

def function? : Node → Option Declared
  | .function name row => some { name, line := row + 1 }
  | _ => none

def ofPlaces (places : List (List Nat × Node)) : Declarations :=
  { classes := places.filterMap fun place => class? place.2
    interfaces := places.filterMap fun place => interface? place.2
    functions := places.filterMap fun place => function? place.2 }

variable {member : Member} {members : List Member}

theorem isAccessor_eq (headed : member.Headed) :
    isAccessor member = decide (.accessor ∈ member.front) := by
  obtain ⟨-, mark, behind, parts, isName, signature⟩ := headed
  have front : ∀ part ∈ member.front, part ≠ .identifier := by
    intro part member
    have kept := List.mem_takeWhile_imp member
    rintro rfl
    simp at kept
  -- A name that is no identifier does not end the search, but behind a name there are no marks.
  have after : .accessor ∉ (mark :: behind).takeWhile (· ≠ .identifier) := by
    intro found
    rcases List.mem_cons.mp ((List.takeWhile_sublist _).subset found) with rfl | found
    · simp at isName
    · exact absurd (signature _ found) (by simp)
  rw [isAccessor, parts, List.takeWhile_append_of_pos (by simpa using front), Bool.eq_iff_iff]
  simp only [List.contains_iff_mem, List.mem_append, after, or_false, decide_eq_true_iff]

theorem classMethods_eq (headed : ∀ member ∈ members, member.IsCandidate → member.Headed) :
    classMethods members = (members.filter (·.IsMethod)).map declaredMember := by
  rw [classMethods]
  congr 1
  apply List.filter_congr
  intro member listed
  have marked (candidate : member.IsCandidate) :=
    isAccessor_eq (headed member listed candidate)
  have named (candidate : member.IsCandidate) := (headed member listed candidate).named
  rw [Bool.eq_iff_iff]
  cases sort : member.sort with
  | definition =>
    have candidate : member.IsCandidate := .inl sort
    simp [Member.IsMethod, sort, marked candidate, named candidate]
  | abstractSignature =>
    have candidate : member.IsCandidate := .inr sort
    simp [Member.IsMethod, sort, named candidate]
  | signature => simp [Member.IsMethod, sort]
  | other => simp [Member.IsMethod, sort]

theorem ofPlaces_append (left right : List (List Nat × Node)) :
    ofPlaces (left ++ right) = ofPlaces left ++ ofPlaces right := by
  simp only [ofPlaces, List.filterMap_append]
  rfl

theorem ofPlaces_below (i : Nat) (places : List (List Nat × Node)) :
    ofPlaces (places.map (below i)) = ofPlaces places := by
  simp [ofPlaces, List.filterMap_map, below, Function.comp_def]

mutual

theorem ofNode_eq (node : Node) (headed : HeadedClasses [node]) :
    ofNode node = ofPlaces node.declaring := by
  match node with
  | .exported (some declaration) _ =>
    rw [ofNode, Node.declaring, ofPlaces_below]
    exact ofNode_eq declaration ((headedClasses_wrapper rfl).mp headed)
  | .exported none (some value) =>
    rw [ofNode, Node.declaring, ofPlaces_below]
    exact ofNode_eq value ((headedClasses_wrapper rfl).mp headed)
  | .exported none none =>
    rw [ofNode, Node.declaring]
    rfl
  | .ambient children =>
    rw [ofNode, Node.declaring]
    exact ofNodes_eq children ((headedClasses_wrapper rfl).mp headed) 0
  | .other =>
    rw [ofNode, Node.declaring]
    rfl
  | .container .classSort name row members =>
    have own := classMethods_eq (headed _ _ _ _ reached_self)
    rw [ofNode, Node.declaring, own]
    rfl
  | .container .interfaceSort name row members =>
    rw [ofNode, Node.declaring]
    rfl
  | .function name row =>
    rw [ofNode, Node.declaring]
    rfl

theorem ofNodes_eq (nodes : List Node) (headed : HeadedClasses nodes) (start : Nat) :
    ofNodes nodes = ofPlaces (declaringFrom start nodes) := by
  match nodes with
  | [] =>
    rw [ofNodes, declaringFrom]
    rfl
  | node :: nodes =>
    obtain ⟨first, later⟩ := headedClasses_cons.mp headed
    rw [ofNodes, declaringFrom, ofPlaces_append, ofPlaces_below, ofNode_eq node first,
      ofNodes_eq nodes later]

end

theorem append_assoc (first second third : Declarations) :
    first ++ second ++ third = first ++ (second ++ third) := by
  change append (append first second) third = append first (append second third)
  simp [append]

theorem append_empty (declared : Declarations) : declared ++ empty = declared := by
  change append declared empty = declared
  simp [append, empty]

theorem empty_append (declared : Declarations) : empty ++ declared = declared := rfl

theorem ofNodes_append (left right : List Node) :
    ofNodes (left ++ right) = ofNodes left ++ ofNodes right := by
  induction left with
  | nil =>
    rw [List.nil_append, ofNodes, empty_append]
  | cons node left ih =>
    rw [List.cons_append, ofNodes, ofNodes, ih, append_assoc]

theorem ofNode_wraps {node wrapper : Node} (wraps : Wraps node wrapper) :
    ofNode wrapper = ofNode node := by
  induction wraps with
  | bare => rfl
  | declaration _ ih => rw [ofNode, ih]
  | value _ ih => rw [ofNode, ih]
  | ambient _ ih => rw [ofNode, ofNodes, ofNodes, append_empty, ih]

/-- The declarations of a text are those behind wrappers, each at its place, in order; wrappers and
the cut between two parts of the text leave no trace. -/
theorem declarations_collected :
    (∀ markup source, HeadedClasses (outline markup source)) ∧
      (∀ nodes, HeadedClasses nodes → ∃ places : List (List Nat × Node),
        (places.Pairwise fun early late => early.1 < late.1) ∧
        (∀ path node, (path, node) ∈ places ↔ Reached nodes path node ∧ node.declares) ∧
        ofNodes nodes = ofPlaces places) ∧
      (∀ left node wrapper right, Wraps node wrapper →
        ofNodes (left ++ wrapper :: right) = ofNodes (left ++ node :: right)) ∧
      ∀ left right, ofNodes (left ++ right) = ofNodes left ++ ofNodes right := by
  refine ⟨outline_headedClasses, fun nodes headed => ?_, ?_, ofNodes_append⟩
  · refine ⟨declaringFrom 0 nodes, declaringFrom_ordered 0 nodes, fun path node => ?_,
      ofNodes_eq nodes headed 0⟩
    rw [mem_declaringFrom 0 nodes, reached_from_zero]
  · intro left node wrapper right wraps
    rw [ofNodes_append, ofNodes_append, ofNodes, ofNodes, ofNode_wraps wraps]

def smallSource : String :=
  "export abstract class A \x7b get x() \x7b\x7d get() \x7b\x7d constructor() \x7b\x7d " ++
    "abstract set y(v); set 's'(v) \x7b\x7d \x7d\nfunction f() \x7b\x7d"

theorem declarations_collected_small :
    HeadedClasses (outline false smallSource) ∧
      (∃ places : List (List Nat × Node),
        (∀ path node, (path, node) ∈ places ↔
          Reached (outline false smallSource) path node ∧ node.declares) ∧
        ofPlaces places =
          { classes := [{ name := some "A", line := 1
                          methods := [{ name := some "get", line := 1 },
                            { name := some "y", line := 1 }] }]
            interfaces := []
            functions := [{ name := some "f", line := 2 }] }) ∧
      Wraps (.function none 0) (.exported none (some (.ambient [.function none 0]))) ∧
      ofNodes ([] ++ .exported none (some (.ambient [.function none 0])) :: []) =
        ofNodes ([] ++ .function none 0 :: []) := by
  obtain ⟨outlines, collects, transparent, -⟩ := declarations_collected
  have headed := outlines false smallSource
  obtain ⟨places, -, mem, collected⟩ := collects _ headed
  have wraps : Wraps (.function none 0) (.exported none (some (.ambient [.function none 0]))) :=
    .value (.ambient .bare)
  refine ⟨headed, ⟨places, mem, ?_⟩, wraps, transparent [] _ _ [] wraps⟩
  rw [← collected]
  decide +kernel

end Declarations

end SymbolSearch
