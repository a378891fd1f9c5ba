import SymbolSearch.Proofs.Emission.Subjects

set_option autoImplicit false

namespace SymbolSearch

def readSubjects : List Subject → List Declared × Declarations
  | [] => ([], .empty)
  | subject :: subjects =>
    let (methods, declared) := readSubjects subjects
    match subject.kind with
    | .file => (methods, declared)
    | .method => ({ name := subject.name, line := subject.line } :: methods, declared)
    | .function =>
      (methods,
        { declared with
          functions := { name := subject.name, line := subject.line } :: declared.functions })
    | .classDecl =>
      ([],
        { declared with
          classes := { name := subject.name, line := subject.line, methods } :: declared.classes })
    | .interfaceDecl =>
      ([],
        { declared with
          interfaces :=
            { name := subject.name, line := subject.line, methods } :: declared.interfaces })

def readBlock (block : List Element) : List Declared × Declarations :=
  readSubjects (block.map Element.subject)

def Declared.Filled (label : String) (given filled : Declared) : Prop :=
  filled.line = given.line ∧ NameFilled label given.name filled.name

-- The container with its name filled, and of its methods those that have a name.
def DeclaredContainer.Restored (label : String) (given read : DeclaredContainer) : Prop :=
  read.line = given.line ∧ NameFilled label given.name read.name ∧
    read.methods = given.methods.filter (·.name.isSome)

structure Declarations.Restored (given read : Declarations) : Prop where
  classes : List.Forall₂ (DeclaredContainer.Restored "AnonymousClass") given.classes read.classes
  interfaces : List.Forall₂ (DeclaredContainer.Restored "AnonymousInterface") given.interfaces
    read.interfaces
  functions : List.Forall₂ (Declared.Filled "AnonymousFunction") given.functions read.functions

def DeclaredContainer.named (container : DeclaredContainer) : DeclaredContainer :=
  { container with methods := container.methods.filter (·.name.isSome) }

theorem readSubjects_methods (methods : List Declared) (rest : List Subject) :
    readSubjects (methods.map (Declared.subject .method) ++ rest) =
      (methods ++ (readSubjects rest).1, (readSubjects rest).2) := by
  induction methods with
  | nil => rfl
  | cons method methods ih =>
    rw [List.map_cons, List.cons_append, readSubjects, ih]
    rfl

theorem readSubjects_functions (functions : List Declared) :
    readSubjects (functions.map (Declared.subject .function)) =
      ([], { Declarations.empty with functions }) := by
  induction functions with
  | nil => rfl
  | cons function functions ih =>
    rw [List.map_cons, readSubjects, ih]
    rfl

def Declarations.prepend (kind : Kind) (containers : List DeclaredContainer)
    (declared : Declarations) : Declarations :=
  match kind with
  | .classDecl => { declared with classes := containers ++ declared.classes }
  | .interfaceDecl => { declared with interfaces := containers ++ declared.interfaces }
  | .file | .function | .method => declared

theorem readSubjects_containers {kind : Kind}
    (isContainer : kind = .classDecl ∨ kind = .interfaceDecl)
    {rest : List Subject} {declared : Declarations} (read : readSubjects rest = ([], declared))
    (containers : List DeclaredContainer) :
    readSubjects (containers.flatMap (DeclaredContainer.subjects kind) ++ rest) =
      ([], declared.prepend kind (containers.map DeclaredContainer.named)) := by
  induction containers with
  | nil => rcases isContainer with rfl | rfl <;> exact read
  | cons container containers ih =>
    rw [List.flatMap_cons, DeclaredContainer.subjects, List.append_assoc, List.cons_append,
      readSubjects, readSubjects_methods, ih]
    rcases isContainer with rfl | rfl <;> simp [DeclaredContainer.named, Declarations.prepend]

theorem readSubjects_file (file : SourceFile) :
    readSubjects file.subjects =
      ([], { file.declared with
        classes := file.declared.classes.map DeclaredContainer.named
        interfaces := file.declared.interfaces.map DeclaredContainer.named }) := by
  have functions := readSubjects_functions file.declared.functions
  have interfaces := readSubjects_containers (.inr rfl) functions file.declared.interfaces
  have classes := readSubjects_containers (.inl rfl) interfaces file.declared.classes
  rw [SourceFile.subjects, List.append_assoc, readSubjects, classes]
  simp [Declarations.prepend, Declarations.empty]

def DeclaredContainer.Filled (label : String) (given read : DeclaredContainer) : Prop :=
  read.line = given.line ∧ NameFilled label given.name read.name ∧
    List.Forall₂ (Declared.Filled (Kind.madeUpLabel .method)) given.methods read.methods

structure ReadFilled (given read : List Declared × Declarations) : Prop where
  methods : List.Forall₂ (Declared.Filled (Kind.madeUpLabel .method)) given.1 read.1
  classes : List.Forall₂ (DeclaredContainer.Filled "AnonymousClass") given.2.classes read.2.classes
  interfaces : List.Forall₂ (DeclaredContainer.Filled "AnonymousInterface") given.2.interfaces
    read.2.interfaces
  functions : List.Forall₂ (Declared.Filled "AnonymousFunction") given.2.functions read.2.functions

theorem readSubjects_filled {given filled : List Subject}
    (alike : List.Forall₂ Subject.Filled given filled) :
    ReadFilled (readSubjects given) (readSubjects filled) := by
  induction alike with
  | nil => exact ⟨.nil, .nil, .nil, .nil⟩
  | @cons subject filledSubject given filled same _ ih =>
    obtain ⟨kind, name, line⟩ := subject
    obtain ⟨kind', name', line'⟩ := filledSubject
    obtain ⟨rfl, sameLine, sameName⟩ := same
    obtain ⟨methods, classes, interfaces, functions⟩ := ih
    cases kind' with
    | file => exact ⟨methods, classes, interfaces, functions⟩
    | classDecl =>
      exact ⟨.nil, .cons ⟨sameLine, sameName, methods⟩ classes, interfaces, functions⟩
    | interfaceDecl =>
      exact ⟨.nil, classes, .cons ⟨sameLine, sameName, methods⟩ interfaces, functions⟩
    | function => exact ⟨methods, classes, interfaces, .cons ⟨sameLine, sameName⟩ functions⟩
    | method => exact ⟨.cons ⟨sameLine, sameName⟩ methods, classes, interfaces, functions⟩

theorem Declared.filled_named {label : String} {given read : List Declared}
    (alike : List.Forall₂ (Declared.Filled label) given read)
    (named : ∀ declared ∈ given, declared.name.isSome = true) : read = given := by
  induction alike with
  | nil => rfl
  | @cons declared readDeclared given read same _ ih =>
    obtain ⟨headNamed, restNamed⟩ := List.forall_mem_cons.mp named
    obtain ⟨name, line⟩ := declared
    obtain ⟨name', line'⟩ := readDeclared
    obtain ⟨text, rfl⟩ := Option.isSome_iff_exists.mp headNamed
    obtain ⟨rfl, rfl⟩ := same
    rw [ih restNamed]

theorem DeclaredContainer.restored {label : String} {given read : DeclaredContainer}
    (filled : given.named.Filled label read) : given.Restored label read := by
  obtain ⟨sameLine, sameName, methods⟩ := filled
  refine ⟨sameLine, sameName, Declared.filled_named methods ?_⟩
  intro method member
  exact (List.mem_filter.mp member).2

theorem readBlock_restored {file : SourceFile} {block : List Element}
    (listed : List.Forall₂ Subject.Filled file.subjects (block.map Element.subject)) :
    (readBlock block).1 = [] ∧ file.declared.Restored (readBlock block).2 := by
  have filled := readSubjects_filled listed
  rw [readSubjects_file] at filled
  obtain ⟨methods, classes, interfaces, functions⟩ := filled
  refine ⟨List.forall₂_nil_left_iff.mp methods, ?_, ?_, functions⟩
  · exact (List.forall₂_map_left_iff.mp classes).imp fun _ _ => DeclaredContainer.restored
  · exact (List.forall₂_map_left_iff.mp interfaces).imp fun _ _ => DeclaredContainer.restored

namespace Emission

-- The block tells of a file: in their order, what its elements stand for; where they are from; who
-- owns them; and, read back, what the file declares.
structure Faithful (file : SourceFile) (block : List Element) : Prop where
  listed : List.Forall₂ Subject.Filled file.subjects (block.map Element.subject)
  origin : ∀ element ∈ block, element.path = file.path ∧ element.content = file.content
  owned : ∀ place element, block[place]? = some element → Owned file (block.take place) element
  restored : (readBlock block).1 = [] ∧ file.declared.Restored (readBlock block).2

variable {file : SourceFile} {before elements : List Element} {next stop : Nat}
  {subjects : List Subject}

theorem Written.filled (written : Written file before next subjects elements stop) :
    List.Forall₂ Subject.Filled subjects (elements.map Element.subject) := by
  induction written with
  | nil => exact .nil
  | cons shows _ _ ih => exact .cons shows.filled ih

theorem Written.origin (written : Written file before next subjects elements stop) :
    ∀ element ∈ elements, element.path = file.path ∧ element.content = file.content := by
  induction written with
  | nil => simp
  | cons shows _ _ ih => exact List.forall_mem_cons.mpr ⟨⟨shows.path, shows.content⟩, ih⟩

theorem Written.owned (written : Written file before next subjects elements stop) :
    ∀ place element, elements[place]? = some element →
      Owned file (before ++ elements.take place) element := by
  induction written with
  | nil => simp
  | cons _ owned _ ih =>
    intro place element found
    cases place with
    | zero =>
      obtain rfl := Option.some.inj found
      simpa using owned
    | succ place => simpa using ih place element found

theorem Written.faithful (written : Written file [] next file.subjects elements stop) :
    Faithful file elements where
  listed := written.filled
  origin := written.origin
  owned := written.owned
  restored := readBlock_restored written.filled

/-- The elements of files are blocks one behind the other, one for each file that declares
something, and each block tells of its file. -/
theorem blocks_faithful (files : List SourceFile) (next : Nat) :
    ∃ blocks : List (List Element),
      (emitEach emitFile files next).1 = blocks.flatten ∧
        List.Forall₂ Faithful (files.filter fun file => !file.declared.isEmpty) blocks := by
  induction files generalizing next with
  | nil => exact ⟨[], rfl, .nil⟩
  | cons file files ih =>
    obtain ⟨blocks, rest, faithful⟩ := ih (emitFile file next).2
    cases declares : file.declared.isEmpty with
    | true =>
      refine ⟨blocks, ?_, by simpa [declares] using faithful⟩
      simpa [emitEach, emitFile, declares] using rest
    | false =>
      refine ⟨(emitFile file next).1 :: blocks, by simp [emitEach, rest], ?_⟩
      simpa [declares] using List.Forall₂.cons (emitFile_written declares next).faithful faithful

end Emission

end SymbolSearch
