import Mathlib.Data.List.Forall2
import SymbolSearch.Emission

set_option autoImplicit false

namespace SymbolSearch

structure Subject where
  kind : Kind
  name : Option String
  line : Nat

def Element.subject (element : Element) : Subject :=
  { kind := element.kind, name := some element.name, line := element.line }

def Declared.subject (kind : Kind) (declared : Declared) : Subject :=
  { kind, name := declared.name, line := declared.line }

def DeclaredContainer.subjects (kind : Kind) (container : DeclaredContainer) : List Subject :=
  { kind, name := container.name, line := container.line } ::
    (container.methods.filter (·.name.isSome)).map (Declared.subject .method)

def SourceFile.subjects (file : SourceFile) : List Subject :=
  { kind := .file, name := some file.path.baseName, line := 0 } ::
    (file.declared.classes.flatMap (DeclaredContainer.subjects .classDecl) ++
      file.declared.interfaces.flatMap (DeclaredContainer.subjects .interfaceDecl) ++
      file.declared.functions.map (Declared.subject .function))

def Kind.madeUpLabel : Kind → String
  | .classDecl => "AnonymousClass"
  | .interfaceDecl => "AnonymousInterface"
  | .function => "AnonymousFunction"
  | .file => ""
  | .method => ""

def NameFilled (label : String) (given filled : Option String) : Prop :=
  match given with
  | some name => filled = some name
  | none => ∃ number : Nat, filled = some (label ++ toString number)

def Subject.Filled (given filled : Subject) : Prop :=
  filled.kind = given.kind ∧ filled.line = given.line ∧
    NameFilled given.kind.madeUpLabel given.name filled.name

def Subject.number (subject : Subject) (next : Nat) : Nat :=
  if subject.name.isSome then next else next + 1

def Element.isContainer (element : Element) : Bool :=
  element.kind = .classDecl || element.kind = .interfaceDecl

def nearestOwner? (before : List Element) : Option Parent :=
  (before.reverse.find? Element.isContainer).map fun container =>
    { name := container.name, kind := container.kind }

-- The element has the owner that it should have behind these elements of its file.
def Owned (file : SourceFile) (before : List Element) (element : Element) : Prop :=
  match element.kind with
  | .file => element.parent = none
  | .method => ∃ owner, nearestOwner? before = some owner ∧ element.parent = some owner
  | .classDecl | .interfaceDecl | .function =>
    element.parent = some { name := file.path.baseName, kind := .file }

namespace Emission

structure Shows (file : SourceFile) (next : Nat) (subject : Subject) (element : Element) :
    Prop where
  kind : element.kind = subject.kind
  line : element.line = subject.line
  name : element.name = subject.name.getD (subject.kind.madeUpLabel ++ toString next)
  id : ∃ label, element.id = numbered label (subject.number next)
  path : element.path = file.path
  content : element.content = file.content

theorem Shows.filled {file : SourceFile} {next : Nat} {subject : Subject}
    {element : Element}
    (shows : Shows file next subject element) : subject.Filled element.subject := by
  refine ⟨shows.kind, shows.line, ?_⟩
  have name := shows.name
  unfold NameFilled
  cases given : subject.name with
  | none => exact ⟨next, by simp [Element.subject, name, given]⟩
  | some text => simp [Element.subject, name, given]

-- Behind the elements `before` of a file, and with `next` the first free number, the subjects have
-- these elements, and `stop` is the first free number afterwards.
inductive Written (file : SourceFile) :
    List Element → Nat → List Subject → List Element → Nat → Prop where
  | nil (before : List Element) (next : Nat) : Written file before next [] [] next
  | cons {before elements : List Element} {next stop : Nat} {subject : Subject}
      {subjects : List Subject} {element : Element} (shows : Shows file next subject element)
      (owned : Owned file before element)
      (rest : Written file (before ++ [element]) (subject.number next + 1) subjects elements stop) :
      Written file before next (subject :: subjects) (element :: elements) stop

variable {file : SourceFile} {before elements : List Element} {next stop : Nat}
  {subjects : List Subject}

theorem Written.single {subject : Subject} {element : Element}
    (shows : Shows file next subject element) (owned : Owned file before element) :
    Written file before next [subject] [element] (subject.number next + 1) :=
  .cons shows owned (.nil _ _)

theorem Written.append {more : List Element} {last : Nat} {others : List Subject}
    (written : Written file before next subjects elements stop)
    (rest : Written file (before ++ elements) stop others more last) :
    Written file before next (subjects ++ others) (elements ++ more) last := by
  induction written with
  | nil => simpa using rest
  | cons shows owned _ ih => exact .cons shows owned (ih (by simpa using rest))

theorem emitEach_written {α : Type} {emit : α → Nat → Block} {subjectsOf : α → List Subject}
    (each : ∀ item before next,
      Written file before next (subjectsOf item) (emit item next).1 (emit item next).2)
    (items : List α) (before : List Element) (next : Nat) :
    Written file before next (items.flatMap subjectsOf) (emitEach emit items next).1
      (emitEach emit items next).2 := by
  induction items generalizing before next with
  | nil => exact .nil _ _
  | cons item items ih => exact (each item before next).append (ih _ _)

theorem givenName_eq (name : Option String) (label : String) (next : Nat) :
    givenName name label next =
      (name.getD (label ++ toString next), if name.isSome then next else next + 1) := by
  cases name <;> rfl

theorem nearestOwner?_concat (before : List Element) (element : Element) :
    nearestOwner? (before ++ [element]) =
      if element.isContainer then some { name := element.name, kind := element.kind }
      else nearestOwner? before := by
  simp only [nearestOwner?, List.reverse_append, List.reverse_singleton, List.singleton_append,
    List.find?_cons]
  cases element.isContainer <;> rfl

theorem emitMethods_written {owner : Parent} (nearest : nearestOwner? before = some owner)
    (methods : List Declared) (next : Nat) :
    Written file before next ((methods.filter (·.name.isSome)).map (Declared.subject .method))
      (emitEach (emitMethod file owner) methods next).1
      (emitEach (emitMethod file owner) methods next).2 := by
  induction methods generalizing before next with
  | nil => exact .nil _ _
  | cons method methods ih =>
    obtain ⟨name, line⟩ := method
    cases name with
    | none => simpa [emitEach, emitMethod] using ih nearest next
    | some name =>
      refine .cons ⟨rfl, rfl, rfl, ⟨_, rfl⟩, rfl, rfl⟩ ⟨owner, nearest, rfl⟩ (ih ?_ _)
      rw [nearestOwner?_concat]
      exact nearest

theorem emitContainer_written {kind : Kind}
    (container : kind = .classDecl ∨ kind = .interfaceDecl) (title : String)
    (declared : DeclaredContainer) (before : List Element) (next : Nat) :
    Written file before next (declared.subjects kind)
      (emitContainer file kind title kind.madeUpLabel declared next).1
      (emitContainer file kind title kind.madeUpLabel declared next).2 := by
  simp only [emitContainer, givenName_eq]
  refine .cons ⟨rfl, rfl, rfl, ⟨_, rfl⟩, rfl, rfl⟩ ?_ (emitMethods_written ?_ _ _)
  · rcases container with rfl | rfl <;> rfl
  · rw [nearestOwner?_concat]
    rcases container with rfl | rfl <;> rfl

theorem emitFunction_written (function : Declared) (before : List Element) (next : Nat) :
    Written file before next [function.subject .function] (emitFunction file function next).1
      (emitFunction file function next).2 := by
  simp only [emitFunction, givenName_eq]
  exact .single ⟨rfl, rfl, rfl, ⟨_, rfl⟩, rfl, rfl⟩ rfl

theorem emitHeading_written (before : List Element) (next : Nat) :
    Written file before next [{ kind := .file, name := some file.path.baseName, line := 0 }]
      (emitHeading file next).1 (emitHeading file next).2 :=
  .single ⟨rfl, rfl, rfl, ⟨_, rfl⟩, rfl, rfl⟩ rfl

theorem emitFile_written (declares : file.declared.isEmpty = false) (next : Nat) :
    Written file [] next file.subjects (emitFile file next).1 (emitFile file next).2 := by
  have heading : Written file [] next _ _ _ := emitHeading_written [] next
  have classes := heading.append
    (emitEach_written (emitContainer_written (.inl rfl) "Class") file.declared.classes _ _)
  have interfaces := classes.append
    (emitEach_written (emitContainer_written (.inr rfl) "Interface") file.declared.interfaces _ _)
  have functions := interfaces.append
    (emitEach_written emitFunction_written file.declared.functions _ _)
  simpa [emitFile, declares, SourceFile.subjects, Kind.madeUpLabel, List.map_eq_flatMap]
    using functions

end Emission

end SymbolSearch
