import SymbolSearch.Proofs.Emission.Subjects
import SymbolSearch.Proofs.Syntax.Outlines

set_option autoImplicit false

namespace SymbolSearch

open Syntax

namespace DeclaredContainer

def lines (container : DeclaredContainer) : List Nat :=
  container.line :: container.methods.map (·.line)

end DeclaredContainer

namespace Declarations

def lines (declared : Declarations) : List Nat :=
  declared.classes.flatMap (·.lines) ++ declared.interfaces.flatMap (·.lines) ++
    declared.functions.map (·.line)

structure LinesOf (text : String) (declared : Declarations) : Prop where
  real : ∀ line ∈ declared.lines, 1 ≤ line ∧ line ≤ (Text.lines text).length
  classes : (declared.classes.map (·.line)).Pairwise (· ≤ ·)
  interfaces : (declared.interfaces.map (·.line)).Pairwise (· ≤ ·)
  functions : (declared.functions.map (·.line)).Pairwise (· ≤ ·)
  containers : ∀ container ∈ declared.classes ++ declared.interfaces,
    container.lines.Pairwise (· ≤ ·)

end Declarations

structure LinesWithin (source : List Char) (start stop : Nat) (lines : List Nat) : Prop where
  le : start ≤ stop
  ordered : lines.Pairwise (· ≤ ·)
  stand : ∀ line ∈ lines, ∃ own row, Stands source start own stop row ∧ line = row + 1

variable {source : List Char} {start own next stop row first last : Nat} {lines others : List Nat}

theorem LinesWithin.nil (le : start ≤ stop) : LinesWithin source start stop [] :=
  ⟨le, .nil, by simp⟩

theorem LinesWithin.single (stands : Stands source start own stop row) :
    LinesWithin source start stop [row + 1] := by
  refine ⟨stands.le, List.pairwise_singleton .., ?_⟩
  intro line member
  obtain rfl := List.mem_singleton.mp member
  exact ⟨own, row, stands, rfl⟩

theorem LinesWithin.sublist (within : LinesWithin source start stop lines)
    (sublist : others.Sublist lines) : LinesWithin source start stop others :=
  ⟨within.le, within.ordered.sublist sublist, fun line member =>
    within.stand line (sublist.subset member)⟩

theorem LinesWithin.append (front : LinesWithin source start next lines)
    (back : LinesWithin source next stop others) :
    LinesWithin source start stop (lines ++ others) := by
  refine ⟨Nat.le_trans front.le back.le, ?_, ?_⟩
  · apply List.pairwise_append.mpr
    refine ⟨front.ordered, back.ordered, ?_⟩
    intro line member other otherMember
    obtain ⟨own, row, stands, rfl⟩ := front.stand line member
    obtain ⟨own', row', stands', rfl⟩ := back.stand other otherMember
    have between := Nat.le_trans stands.before stands'.after
    rw [stands.row, stands'.row]
    exact Nat.succ_le_succ (Text.rowAt_mono source between)
  · intro line member
    rcases List.mem_append.mp member with member | member
    · obtain ⟨own, row, stands, same⟩ := front.stand line member
      exact ⟨own, row, stands.later back.le, same⟩
    · obtain ⟨own, row, stands, same⟩ := back.stand line member
      exact ⟨own, row, stands.earlier (Nat.le_trans front.le stands.after), same⟩

theorem LinesWithin.widen (within : LinesWithin source start stop lines) (earlier : first ≤ start)
    (later : stop ≤ last) : LinesWithin source first last lines := by
  have wide := (LinesWithin.nil earlier).append (within.append (.nil later))
  simpa using wide

theorem LinesWithin.cons (stands : Stands source start own stop row)
    (rest : LinesWithin source own stop lines) :
    LinesWithin source start stop ((row + 1) :: lines) := by
  have own : LinesWithin source start own [row + 1] :=
    .single { stands with before := Nat.le_refl _ }
  exact own.append rest

theorem LinesWithin.real {text : String} {start stop : Nat}
    (within : LinesWithin text.toList start stop lines) :
    ∀ line ∈ lines, 1 ≤ line ∧ line ≤ (Text.lines text).length := by
  intro line member
  obtain ⟨own, row, stands, rfl⟩ := within.stand line member
  have inside := Text.rowAt_lt_length_lines stands.inside
  rw [stands.row]
  omega

theorem members_lines {members : List Member} (within : MembersWithin source start stop members) :
    LinesWithin source start stop (members.map (·.row + 1)) := by
  induction members generalizing start with
  | nil => exact .nil within
  | cons member members ih =>
    obtain ⟨own, next, stands, rest⟩ := within
    exact (LinesWithin.single stands).append (ih rest)

theorem declaredMembers_lines {members : List Member}
    (within : MembersWithin source start stop members) (keep : Member → Bool) :
    LinesWithin source start stop
      (((members.filter keep).map Declarations.declaredMember).map (·.line)) := by
  have all := members_lines within
  apply all.sublist
  rw [List.map_map]
  exact List.filter_sublist.map _

namespace Declarations

structure Within (source : List Char) (start stop : Nat) (declared : Declarations) : Prop where
  classes : LinesWithin source start stop (declared.classes.map (·.line))
  interfaces : LinesWithin source start stop (declared.interfaces.map (·.line))
  functions : LinesWithin source start stop (declared.functions.map (·.line))
  containers : ∀ container ∈ declared.classes ++ declared.interfaces,
    LinesWithin source start stop container.lines

variable {left right : Declarations}

@[simp] theorem append_classes : (left ++ right).classes = left.classes ++ right.classes := rfl

@[simp] theorem append_interfaces :
    (left ++ right).interfaces = left.interfaces ++ right.interfaces := rfl

@[simp] theorem append_functions :
    (left ++ right).functions = left.functions ++ right.functions := rfl

theorem Within.empty (le : start ≤ stop) : empty.Within source start stop :=
  ⟨.nil le, .nil le, .nil le, by simp [Declarations.empty]⟩

theorem Within.le {declared : Declarations} (within : declared.Within source start stop) :
    start ≤ stop :=
  within.classes.le

theorem Within.append (front : left.Within source start next)
    (back : right.Within source next stop) : (left ++ right).Within source start stop where
  classes := by simpa using front.classes.append back.classes
  interfaces := by simpa using front.interfaces.append back.interfaces
  functions := by simpa using front.functions.append back.functions
  containers := by
    intro container member
    have parts : container ∈ left.classes ++ left.interfaces ∨
        container ∈ right.classes ++ right.interfaces := by
      simp only [append_classes, append_interfaces, List.mem_append] at member ⊢
      tauto
    rcases parts with member | member
    · exact (front.containers container member).widen (Nat.le_refl _) back.le
    · exact (back.containers container member).widen front.le (Nat.le_refl _)

mutual

theorem ofNode_within {node : Node} {start stop : Nat} (within : node.Within source start stop) :
    (ofNode node).Within source start stop := by
  match node with
  | .container .classSort name row members =>
    rw [Node.Within] at within
    obtain ⟨own, stands, laid⟩ := within
    have methods : LinesWithin source own stop ((classMethods members).map (·.line)) :=
      declaredMembers_lines laid _
    have lines := LinesWithin.cons stands methods
    rw [ofNode]
    exact { Within.empty stands.le with
      classes := .single stands
      containers := by simpa [empty, DeclaredContainer.lines] using lines }
  | .container .interfaceSort name row members =>
    rw [Node.Within] at within
    obtain ⟨own, stands, laid⟩ := within
    have methods : LinesWithin source own stop ((interfaceMethods members).map (·.line)) :=
      declaredMembers_lines laid _
    have lines := LinesWithin.cons stands methods
    rw [ofNode]
    exact { Within.empty stands.le with
      interfaces := .single stands
      containers := by simpa [empty, DeclaredContainer.lines] using lines }
  | .function name row =>
    rw [Node.Within] at within
    obtain ⟨own, stands⟩ := within
    rw [ofNode]
    exact { Within.empty stands.le with functions := .single stands }
  | .exported (some declaration) (some value) =>
    rw [Node.Within] at within
    rw [ofNode]
    exact ofNode_within within.1
  | .exported (some declaration) none =>
    rw [Node.Within] at within
    rw [ofNode]
    exact ofNode_within within
  | .exported none (some value) =>
    rw [Node.Within] at within
    rw [ofNode]
    exact ofNode_within within
  | .exported none none =>
    rw [Node.Within] at within
    rw [ofNode]
    exact .empty within
  | .ambient children =>
    rw [Node.Within] at within
    rw [ofNode]
    exact ofNodes_within within
  | .other =>
    rw [Node.Within] at within
    rw [ofNode]
    exact .empty within

theorem ofNodes_within {nodes : List Node} {start stop : Nat}
    (within : NodesWithin source start stop nodes) : (ofNodes nodes).Within source start stop := by
  match nodes with
  | [] =>
    rw [NodesWithin] at within
    rw [ofNodes]
    exact .empty within
  | node :: rest =>
    rw [NodesWithin] at within
    obtain ⟨next, here, rest⟩ := within
    rw [ofNodes]
    exact (ofNode_within here).append (ofNodes_within rest)

end

theorem linesOf_of_laidOut {text : String} {nodes : List Node} (laid : LaidOut text nodes) :
    (ofNodes nodes).LinesOf text := by
  have within := ofNodes_within laid
  refine ⟨?_, within.classes.ordered, within.interfaces.ordered, within.functions.ordered, ?_⟩
  · intro line member
    simp only [Declarations.lines, List.mem_append, ← List.flatMap_append, List.mem_flatMap]
      at member
    rcases member with ⟨container, member, inside⟩ | member
    · exact (within.containers container (List.mem_append.mpr member)).real line inside
    · exact within.functions.real line member
  · intro container member
    exact (within.containers container member).ordered

end Declarations

namespace Emission

theorem Written.exists_subject {file : SourceFile} {before elements : List Element}
    {next stop : Nat} {subjects : List Subject}
    (written : Written file before next subjects elements stop) :
    ∀ element ∈ elements, element.content = file.content ∧
      ∃ subject ∈ subjects, element.kind = subject.kind ∧ element.line = subject.line := by
  induction written with
  | nil => simp
  | @cons _ _ _ _ subject _ _ shows _ _ ih =>
    refine List.forall_mem_cons.mpr
      ⟨⟨shows.content, subject, List.mem_cons_self, shows.kind, shows.line⟩, ?_⟩
    intro element member
    obtain ⟨content, subject, listed, same⟩ := ih element member
    exact ⟨content, subject, List.mem_cons_of_mem _ listed, same⟩

theorem subjects_lines {kind : Kind} {container : DeclaredContainer} {subject : Subject}
    (member : subject ∈ container.subjects kind) : subject.line ∈ container.lines := by
  rcases List.mem_cons.mp member with rfl | member
  · exact List.mem_cons_self
  · obtain ⟨method, listed, rfl⟩ := List.mem_map.mp member
    exact List.mem_cons_of_mem _ (List.mem_map_of_mem (List.mem_filter.mp listed).1)

theorem mem_lines_of_mem_subjects {file : SourceFile} {subject : Subject}
    (member : subject ∈ file.subjects) (declaration : subject.kind ≠ .file) :
    subject.line ∈ file.declared.lines := by
  simp only [SourceFile.subjects, List.mem_cons, List.mem_append, List.mem_flatMap, List.mem_map]
    at member
  simp only [Declarations.lines, List.mem_append, List.mem_flatMap, List.mem_map]
  rcases member with rfl | (⟨container, listed, inside⟩ | ⟨container, listed, inside⟩) |
    ⟨function, listed, rfl⟩
  · exact absurd rfl declaration
  · exact .inl (.inl ⟨container, listed, subjects_lines inside⟩)
  · exact .inl (.inr ⟨container, listed, subjects_lines inside⟩)
  · exact .inr ⟨function, listed, rfl⟩

theorem emitFile_line {file : SourceFile} {next : Nat} {element : Element}
    (emitted : element ∈ (emitFile file next).1) (declaration : element.kind ≠ .file) :
    element.content = file.content ∧ element.line ∈ file.declared.lines := by
  by_cases declares : file.declared.isEmpty = true
  · simp [emitFile, declares] at emitted
  · have written := emitFile_written (eq_false_of_ne_true declares) next
    obtain ⟨content, subject, listed, kind, line⟩ := written.exists_subject element emitted
    rw [kind] at declaration
    rw [line]
    exact ⟨content, mem_lines_of_mem_subjects listed declaration⟩

end Emission

/-- The outline of any source is laid out in it. And whatever nodes are laid out in a source, the
lines of what they declare are lines of it, in order, and a window around an element that is emitted
for them shows its line. (Lines are numbered by 32-bit numbers.) -/
theorem declared_lines_shown (path : Path) (source : String) :
    LaidOut source (outline (Declarations.allowsMarkup path) source) ∧
      ∀ nodes, LaidOut source nodes →
        (Declarations.ofNodes nodes).LinesOf source ∧
          ∀ next, ∀ element ∈ (Emission.emitFile
              { path, content := source, declared := Declarations.ofNodes nodes } next).1,
            element.kind ≠ .file → element.line < Nat.pow 2 32 →
              ∀ radius, ∃ content,
                (element.line, content) ∈ Text.window element.content element.line radius := by
  refine ⟨outline_laidOut _ source, ?_⟩
  intro nodes laid
  have lines := Declarations.linesOf_of_laidOut laid
  refine ⟨lines, ?_⟩
  intro next element emitted declaration numbered radius
  obtain ⟨content, listed⟩ := Emission.emitFile_line emitted declaration
  obtain ⟨begun, inside⟩ := lines.real element.line listed
  rw [content]
  exact Text.window_shows_line begun inside (Nat.le_sub_one_of_lt numbered) radius

theorem declared_lines_shown_method :
    ∃ element ∈ (Emission.emitFile (.ofSource ⟨"a.ts"⟩ "class A \x7b\r\n  f() \x7b\x7d\n\x7d") 0).1,
      element.kind = .method ∧ element.line = 2 ∧
        ∃ content, (2, content) ∈ Text.window element.content 2 0 := by
  have listed : (Kind.method, 2) ∈
      (Emission.emitFile (.ofSource ⟨"a.ts"⟩ "class A \x7b\r\n  f() \x7b\x7d\n\x7d") 0).1.map
        fun element => (element.kind, element.line) := by decide +kernel
  obtain ⟨element, emitted, same⟩ := List.mem_map.mp listed
  obtain ⟨kind, line⟩ := Prod.mk.inj same
  have shown := declared_lines_shown ⟨"a.ts"⟩ "class A \x7b\r\n  f() \x7b\x7d\n\x7d"
  have window := (shown.2 _ shown.1).2 0 element emitted (by simp [kind])
    (by simp [line]) 0
  rw [line] at window
  exact ⟨element, emitted, kind, line, window⟩

end SymbolSearch
