import Mathlib.Data.List.Lex
import SymbolSearch.Syntax.Node

set_option autoImplicit false

namespace SymbolSearch.Syntax

def Node.opened : Node → List Node
  | .exported (some declaration) _ => [declaration]
  | .exported none (some value) => [value]
  | .ambient children => children
  | _ => []

inductive Reached : List Node → List Nat → Node → Prop where
  | here {nodes : List Node} {i : Nat} {node : Node} :
    nodes[i]? = some node → Reached nodes [i] node
  | behind {nodes : List Node} {i : Nat} {path : List Nat} {node found : Node} :
    nodes[i]? = some node → Reached node.opened path found → Reached nodes (i :: path) found

-- The path leads from a node to itself or to one behind it.
def Node.Holds (node : Node) (path : List Nat) (found : Node) : Prop :=
  path = [] ∧ found = node ∨ Reached node.opened path found

def Node.declares : Node → Bool
  | .container .. => true
  | .function .. => true
  | _ => false

variable {nodes children : List Node} {node found : Node} {path : List Nat} {i start : Nat}

theorem not_reached_nil : ¬ Reached nodes [] found := by
  rintro ⟨⟩

theorem reached_cons :
    Reached nodes (i :: path) found ↔ ∃ node, nodes[i]? = some node ∧ node.Holds path found := by
  constructor
  · rintro (child | ⟨child, reached⟩)
    · exact ⟨found, child, .inl ⟨rfl, rfl⟩⟩
    · exact ⟨_, child, .inr reached⟩
  · rintro ⟨node, child, ⟨rfl, rfl⟩ | reached⟩
    · exact .here child
    · exact .behind child reached

theorem reached_first : Reached (node :: nodes) (0 :: path) found ↔ node.Holds path found := by
  simp [reached_cons]

theorem reached_later :
    Reached (node :: nodes) ((i + 1) :: path) found ↔ Reached nodes (i :: path) found := by
  simp [reached_cons]

theorem reached_single :
    Reached [node] path found ↔ ∃ rest, path = 0 :: rest ∧ node.Holds rest found := by
  rcases path with _ | ⟨_ | i, path⟩
  · simp [not_reached_nil]
  · simp [reached_first]
  · simp [reached_cons]

theorem reached_self : Reached [node] [0] node :=
  .here rfl

@[simp] theorem not_reached_empty : ¬ Reached [] path found := by
  rintro (child | ⟨child, -⟩) <;> simp at child

theorem holds_wrapper (wraps : node.declares = false) :
    node.Holds path found ∧ found.declares ↔ Reached node.opened path found ∧ found.declares := by
  constructor
  · rintro ⟨⟨-, rfl⟩ | reached, declares⟩
    · simp [wraps] at declares
    · exact ⟨reached, declares⟩
  · exact fun ⟨reached, declares⟩ => ⟨.inr reached, declares⟩

def below (i : Nat) (place : List Nat × Node) : List Nat × Node :=
  (i :: place.1, place.2)

mutual

def Node.declaring : Node → List (List Nat × Node)
  | .exported (some declaration) _ => declaration.declaring.map (below 0)
  | .exported none (some value) => value.declaring.map (below 0)
  | .exported none none => []
  | .ambient children => declaringFrom 0 children
  | .other => []
  | .container sort name row members => [([], .container sort name row members)]
  | .function name row => [([], .function name row)]

def declaringFrom : Nat → List Node → List (List Nat × Node)
  | _, [] => []
  | start, node :: rest => node.declaring.map (below start) ++ declaringFrom (start + 1) rest

end

theorem mem_below {places : List (List Nat × Node)} :
    (path, found) ∈ places.map (below i) ↔ ∃ rest, path = i :: rest ∧ (rest, found) ∈ places := by
  simp only [List.mem_map, below, Prod.exists, Prod.mk.injEq]
  constructor
  · rintro ⟨rest, _, member, rfl, rfl⟩
    exact ⟨rest, rfl, member⟩
  · rintro ⟨rest, rfl, member⟩
    exact ⟨rest, found, member, rfl, rfl⟩

theorem mem_single (declares : node.declares) (leaf : node.opened = []) :
    (path, found) ∈ [([], node)] ↔ node.Holds path found ∧ found.declares := by
  simp only [List.mem_singleton, Prod.mk.injEq, Node.Holds, leaf, not_reached_empty, or_false]
  constructor
  · rintro ⟨rfl, rfl⟩
    exact ⟨⟨rfl, rfl⟩, declares⟩
  · exact fun ⟨here, _⟩ => here

theorem mem_wrapped {places : List (List Nat × Node)}
    (inner : ∀ rest, (rest, found) ∈ places ↔ node.Holds rest found ∧ found.declares) :
    (path, found) ∈ places.map (below 0) ↔ Reached [node] path found ∧ found.declares := by
  simp only [mem_below, reached_single, inner]
  constructor
  · rintro ⟨rest, rfl, held, declares⟩
    exact ⟨⟨rest, rfl, held⟩, declares⟩
  · rintro ⟨⟨rest, rfl, held⟩, declares⟩
    exact ⟨rest, rfl, held, declares⟩

theorem reached_from_zero :
    (∃ i rest, path = (0 + i) :: rest ∧ Reached nodes (i :: rest) found ∧ found.declares) ↔
      Reached nodes path found ∧ found.declares := by
  cases path with
  | nil => simp [not_reached_nil]
  | cons i rest => simp

mutual

-- By recursion on the nodes; the second statement numbers the children from `start` on.
theorem mem_declaring (node : Node) (path : List Nat) :
    (path, found) ∈ node.declaring ↔ node.Holds path found ∧ found.declares := by
  match node with
  | .exported (some declaration) _ =>
    rw [Node.declaring, holds_wrapper rfl, Node.opened]
    exact mem_wrapped (mem_declaring declaration)
  | .exported none (some value) =>
    rw [Node.declaring, holds_wrapper rfl, Node.opened]
    exact mem_wrapped (mem_declaring value)
  | .exported none none =>
    rw [holds_wrapper rfl]
    simp [Node.declaring, Node.opened]
  | .ambient children =>
    rw [Node.declaring, holds_wrapper rfl, Node.opened, mem_declaringFrom 0 children,
      reached_from_zero]
  | .other =>
    rw [holds_wrapper rfl]
    simp [Node.declaring, Node.opened]
  | .container sort name row members =>
    rw [Node.declaring]
    exact mem_single rfl rfl
  | .function name row =>
    rw [Node.declaring]
    exact mem_single rfl rfl

theorem mem_declaringFrom (start : Nat) (nodes : List Node) (path : List Nat) :
    (path, found) ∈ declaringFrom start nodes ↔
      ∃ i rest, path = (start + i) :: rest ∧ Reached nodes (i :: rest) found ∧ found.declares := by
  match nodes with
  | [] => simp [declaringFrom, reached_cons]
  | node :: nodes =>
    simp only [declaringFrom, List.mem_append, mem_below, mem_declaring node,
      mem_declaringFrom (start + 1) nodes]
    have later (i : Nat) : start + 1 + i = start + (i + 1) := by omega
    constructor
    · rintro (⟨rest, rfl, held, declares⟩ | ⟨i, rest, rfl, reached, declares⟩)
      · exact ⟨0, rest, rfl, reached_first.mpr held, declares⟩
      · exact ⟨i + 1, rest, by rw [later], reached_later.mpr reached, declares⟩
    · rintro ⟨_ | i, rest, rfl, reached, declares⟩
      · exact .inl ⟨rest, rfl, reached_first.mp reached, declares⟩
      · exact .inr ⟨i, rest, by rw [later], reached_later.mp reached, declares⟩

end

theorem below_ordered {places : List (List Nat × Node)}
    (ordered : places.Pairwise fun left right => left.1 < right.1) (i : Nat) :
    (places.map (below i)).Pairwise fun left right => left.1 < right.1 := by
  rw [List.pairwise_map]
  apply ordered.imp
  intro left right less
  exact List.cons_lt_cons_iff.mpr (.inr ⟨rfl, less⟩)

mutual

theorem declaring_ordered (node : Node) :
    node.declaring.Pairwise fun left right => left.1 < right.1 := by
  match node with
  | .exported (some declaration) _ =>
    rw [Node.declaring]
    exact below_ordered (declaring_ordered declaration) 0
  | .exported none (some value) =>
    rw [Node.declaring]
    exact below_ordered (declaring_ordered value) 0
  | .exported none none => simp [Node.declaring]
  | .ambient children =>
    rw [Node.declaring]
    exact declaringFrom_ordered 0 children
  | .other => simp [Node.declaring]
  | .container sort name row members => simp [Node.declaring]
  | .function name row => simp [Node.declaring]

theorem declaringFrom_ordered (start : Nat) (nodes : List Node) :
    (declaringFrom start nodes).Pairwise fun left right => left.1 < right.1 := by
  match nodes with
  | [] => simp [declaringFrom]
  | node :: nodes =>
    rw [declaringFrom]
    refine List.pairwise_append.mpr ⟨below_ordered (declaring_ordered node) start,
      declaringFrom_ordered (start + 1) nodes, ?_⟩
    -- The paths of the first child begin with `start`, those of the others with a larger number.
    rintro ⟨early, _⟩ here ⟨late, _⟩ there
    obtain ⟨rest, rfl, -⟩ := mem_below.mp here
    obtain ⟨i, behind, rfl, -⟩ := (mem_declaringFrom (start + 1) nodes late).mp there
    exact List.cons_lt_cons_iff.mpr (.inl (by omega))

end

end SymbolSearch.Syntax
