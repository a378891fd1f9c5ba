import SymbolSearch.Proofs.Syntax.Wrappers
import SymbolSearch.Syntax.Outline

set_option autoImplicit false

namespace SymbolSearch.Syntax

namespace Member

def front (member : Member) : List Part :=
  member.parts.takeWhile fun part => part = .modifier || part = .accessor

structure Headed (member : Member) : Prop where
  named : member.name.isSome
  parts : ∃ mark behind, member.parts = member.front ++ mark :: behind ∧
    (mark = .identifier ∨ mark = .otherName) ∧ ∀ part ∈ behind, part = .signature

-- A member of a class that may be one of its methods.
def IsCandidate (member : Member) : Prop :=
  member.sort = .definition ∨ member.sort = .abstractSignature

end Member

def HeadedClasses (nodes : List Node) : Prop :=
  ∀ path name row members, Reached nodes path (.container .classSort name row members) →
    ∀ member ∈ members, member.IsCandidate → member.Headed

variable {nodes : List Node} {node : Node} {tokens : List Token}

theorem headedClasses_nil : HeadedClasses [] :=
  fun _ _ _ _ reached => absurd reached not_reached_empty

theorem headedClasses_cons :
    HeadedClasses (node :: nodes) ↔ HeadedClasses [node] ∧ HeadedClasses nodes := by
  constructor
  · intro headed
    constructor
    · intro path name row members reached
      obtain ⟨rest, rfl, held⟩ := reached_single.mp reached
      exact headed _ _ _ _ (reached_first.mpr held)
    · intro path name row members reached
      cases path with
      | nil => exact absurd reached not_reached_nil
      | cons i path => exact headed _ _ _ _ (reached_later.mpr reached)
  · rintro ⟨first, later⟩ path name row members reached
    rcases path with _ | ⟨_ | i, path⟩
    · exact absurd reached not_reached_nil
    · exact first _ _ _ _ (reached_single.mpr ⟨path, rfl, reached_first.mp reached⟩)
    · exact later _ _ _ _ (reached_later.mp reached)

theorem headedClasses_wrapper (wraps : node.declares = false) :
    HeadedClasses [node] ↔ HeadedClasses node.opened := by
  constructor
  · intro headed path name row members reached
    exact headed _ _ _ _ (reached_single.mpr ⟨path, rfl, .inr reached⟩)
  · intro headed path name row members reached
    obtain ⟨rest, -, held⟩ := reached_single.mp reached
    exact headed _ _ _ _ ((holds_wrapper wraps).mp ⟨held, rfl⟩).1

theorem HeadedClasses.leaf (leaf : node.opened = [])
    (own : ∀ name row members, node = .container .classSort name row members →
      ∀ member ∈ members, member.IsCandidate → member.Headed) : HeadedClasses [node] := by
  intro path name row members reached
  obtain ⟨rest, -, ⟨-, rfl⟩ | behind⟩ := reached_single.mp reached
  · exact own name row members rfl
  · simp [leaf] at behind

theorem memberHead_front (tokens : List Token) :
    ∀ part ∈ (memberHead tokens).parts, part = .modifier ∨ part = .accessor := by
  induction tokens with
  | nil => simp [memberHead]
  | cons token rest ih =>
    unfold memberHead
    split
    next =>
      split
      next =>
        refine List.forall_mem_cons.mpr ⟨?_, ih⟩
        split
        next => exact .inr rfl
        next => exact .inl rfl
      next => simp
    next =>
      split
      next => exact List.forall_mem_cons.mpr ⟨.inl rfl, ih⟩
      next => simp

theorem namePart_cases (name : Token) : namePart name = .identifier ∨ namePart name = .otherName := by
  unfold namePart
  split
  next => split <;> simp
  next => simp

theorem Member.Headed.of_parts {member : Member} {front : List Part} {mark : Part}
    (named : member.name.isSome) (parts : member.parts = front ++ [mark, .signature])
    (fronts : ∀ part ∈ front, part = .modifier ∨ part = .accessor)
    (isName : mark = .identifier ∨ mark = .otherName) : member.Headed := by
  have own : member.front = front := by
    rw [Member.front, parts, List.takeWhile_append_of_pos (by simpa using fronts)]
    rcases isName with rfl | rfl <;> simp
  exact ⟨named, mark, [.signature], by rw [own, parts], isName, by simp⟩

theorem classMember_headed (tokens : List Token) (candidate : (classMember tokens).1.IsCandidate) :
    (classMember tokens).1.Headed := by
  revert candidate
  unfold classMember
  dsimp only
  split
  next => simp [Member.IsCandidate]
  next name rest _ =>
    have fronts := memberHead_front tokens
    have isName := namePart_cases name
    split
    next => exact fun _ => .of_parts rfl rfl fronts isName
    next => simp [Member.IsCandidate]

theorem forall_mem_members {member : List Token → Member × List Token} {good : Member → Prop}
    (each : ∀ tokens, good (member tokens).1) (fuel : Nat) (tokens : List Token) :
    ∀ found ∈ members member fuel tokens, good found := by
  induction fuel generalizing tokens with
  | zero => simp [members]
  | succ fuel ih =>
    cases tokens with
    | nil => simp [members]
    | cons token rest =>
      have found := List.forall_mem_cons.mpr ⟨each (token :: rest), ih (member (token :: rest)).2⟩
      unfold members
      dsimp only
      split
      next => exact ih rest
      split
      next => exact ih _
      split
      next next behind _ =>
        split
        next => exact ih behind
        next => exact found
      next => exact found

theorem headedClasses_class (row : Nat) (tokens : List Token) :
    HeadedClasses [(classNode row tokens).1] := by
  unfold classNode
  split
  next =>
    apply HeadedClasses.leaf rfl
    rintro _ _ _ ⟨⟩
    exact forall_mem_members classMember_headed _ _
  next =>
    apply HeadedClasses.leaf rfl
    rintro _ _ _ ⟨⟩
    simp

theorem headedClasses_interface (row : Nat) (tokens : List Token) :
    HeadedClasses [(interfaceNode row tokens).1] := by
  unfold interfaceNode
  split
  next => exact .leaf rfl (by simp)
  next => exact .leaf rfl (by simp)

theorem headedClasses_other : HeadedClasses [.other] :=
  .leaf rfl (by simp)

theorem headedClasses_function (row : Nat) (tokens : List Token) :
    HeadedClasses [(functionNode row tokens).1] := by
  unfold functionNode
  dsimp only
  split
  next => exact .leaf rfl (by simp)
  next => exact headedClasses_other

theorem headedClasses_opening (opening : Opening) : HeadedClasses [opening.node.1] := by
  cases opening with
  | classOpening row behind => exact headedClasses_class row behind
  | interfaceOpening row behind => exact headedClasses_interface row behind
  | functionOpening row behind => exact headedClasses_function row behind

theorem headedClasses_defaultExport (tokens : List Token) :
    HeadedClasses [(defaultExport tokens).1] := by
  unfold defaultExport
  split
  next opening _ =>
    dsimp only
    split
    next => exact (headedClasses_wrapper rfl).mpr (headedClasses_opening opening)
    next => exact (headedClasses_wrapper rfl).mpr (headedClasses_opening opening)
  next => exact (headedClasses_wrapper rfl).mpr headedClasses_other

-- Statements and exports call each other, so one induction on the fuel serves both.
theorem headedClasses_statement (fuel : Nat) (tokens : List Token) :
    HeadedClasses [(statement fuel tokens).1] ∧ HeadedClasses [(exportStatement fuel tokens).1] := by
  induction fuel generalizing tokens with
  | zero =>
    rw [statement, exportStatement]
    exact ⟨headedClasses_other, headedClasses_other⟩
  | succ fuel ih =>
    cases tokens with
    | nil =>
      rw [statement, exportStatement]
      exact ⟨headedClasses_other, (headedClasses_wrapper rfl).mpr headedClasses_nil⟩
    | cons token rest =>
      constructor
      · unfold statement
        dsimp only
        split
        next opening _ => exact headedClasses_opening opening
        split
        next => exact headedClasses_other
        split
        next => exact headedClasses_other
        split
        next => exact (ih _).1
        split
        next => exact (ih _).2
        next =>
          split
          next =>
            split
            next => exact (headedClasses_wrapper rfl).mpr (ih _).1
            next => exact headedClasses_other
          next => exact headedClasses_other
        next => exact headedClasses_other
        next => exact headedClasses_other
      · rw [exportStatement]
        split
        next => exact headedClasses_defaultExport rest
        split
        next => exact (headedClasses_wrapper rfl).mpr (ih _).1
        next => exact (headedClasses_wrapper rfl).mpr headedClasses_nil

theorem headedClasses_statements (fuel : Nat) (tokens : List Token) :
    HeadedClasses (statements fuel tokens) := by
  induction fuel generalizing tokens with
  | zero =>
    rw [statements]
    exact headedClasses_nil
  | succ fuel ih =>
    cases tokens with
    | nil =>
      rw [statements]
      exact headedClasses_nil
    | cons token rest =>
      have first := (headedClasses_statement (2 * (rest.length + 2)) (token :: rest)).1
      rw [statements]
      exact headedClasses_cons.mpr ⟨first, ih _⟩

theorem outline_headedClasses (markup : Bool) (source : String) :
    HeadedClasses (outline markup source) :=
  headedClasses_statements _ _

end SymbolSearch.Syntax
