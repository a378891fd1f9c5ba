import SymbolSearch.Declarations
import SymbolSearch.Element

set_option autoImplicit false

namespace SymbolSearch

structure SourceFile where
  path : Path
  content : String
  declared : Declarations

namespace Emission

abbrev Block : Type :=
  List Element × Nat

def emitEach {α : Type} (emit : α → Nat → Block) : List α → Nat → Block
  | [], next => ([], next)
  | item :: rest, next =>
    let (elements, next) := emit item next
    let (more, next) := emitEach emit rest next
    (elements ++ more, next)

theorem emitEach_append {α : Type} (emit : α → Nat → Block) (front rest : List α) (next : Nat) :
    emitEach emit (front ++ rest) next =
      ((emitEach emit front next).1 ++ (emitEach emit rest (emitEach emit front next).2).1,
        (emitEach emit rest (emitEach emit front next).2).2) := by
  induction front generalizing next with
  | nil => rfl
  | cons item front ih => simp [emitEach, ih]

def givenName (name : Option String) (label : String) (next : Nat) : String × Nat :=
  match name with
  | some name => (name, next)
  | none => (label ++ toString next, next + 1)

def numbered (label : String) (number : Nat) : String :=
  label ++ "-" ++ toString number

def methodLabel : Kind → String
  | .interfaceDecl => "interface-method"
  | _ => "method"

def element (file : SourceFile) (kind : Kind) (id name : String) (parent : Option Parent)
    (line : Nat) (description searchable : String) : Element :=
  { id, kind, name, parent, path := file.path, line, description, searchable
    content := file.content }

def fileParent (file : SourceFile) : Parent :=
  { name := file.path.baseName, kind := .file }

def emitMethod (file : SourceFile) (owner : Parent) (method : Declared) (next : Nat) : Block :=
  match method.name with
  -- A method without a name takes no number either.
  | none => ([], next)
  | some name =>
    ([element file .method (numbered (methodLabel owner.kind) next) name (some owner) method.line
        ("Method " ++ name ++ " in " ++ owner.kind.name ++ " " ++ owner.name)
        ("method " ++ name ++ " " ++ owner.name ++ " " ++ owner.kind.name ++ " " ++
          file.path.baseName ++ " " ++ file.path.text)],
      next + 1)

def emitContainer (file : SourceFile) (kind : Kind) (title label : String)
    (container : DeclaredContainer) (next : Nat) : Block :=
  -- A made-up name takes its number before the element does.
  let (name, next) := givenName container.name label next
  let own := element file kind (numbered kind.name next) name (some (fileParent file))
    container.line (title ++ " " ++ name ++ " in " ++ file.path.baseName)
    (kind.name ++ " " ++ name ++ " " ++ file.path.baseName ++ " " ++ file.path.text)
  let (methods, next) := emitEach (emitMethod file { name, kind }) container.methods (next + 1)
  (own :: methods, next)

def emitFunction (file : SourceFile) (function : Declared) (next : Nat) : Block :=
  let (name, next) := givenName function.name "AnonymousFunction" next
  ([element file .function (numbered "function" next) name (some (fileParent file)) function.line
      ("Function " ++ name ++ " in " ++ file.path.baseName)
      ("function " ++ name ++ " " ++ file.path.baseName ++ " " ++ file.path.text)],
    next + 1)

def emitHeading (file : SourceFile) (next : Nat) : Block :=
  let folder := (file.path.parent?.map Path.text).getD ""
  ([element file .file (numbered "file" next) file.path.baseName none 0
      ("File " ++ file.path.baseName ++ " in " ++ folder)
      ("file " ++ file.path.baseName ++ " " ++ file.path.text)],
    next + 1)

def emitFile (file : SourceFile) (next : Nat) : Block :=
  if file.declared.isEmpty then ([], next)
  else
    let (heading, next) := emitHeading file next
    let (classes, next) :=
      emitEach (emitContainer file .classDecl "Class" "AnonymousClass") file.declared.classes next
    let (interfaces, next) :=
      emitEach (emitContainer file .interfaceDecl "Interface" "AnonymousInterface")
        file.declared.interfaces next
    let (functions, next) := emitEach (emitFunction file) file.declared.functions next
    (heading ++ classes ++ interfaces ++ functions, next)

def emitFiles (files : List SourceFile) : List Element :=
  (emitEach emitFile files 0).1

end Emission

def SourceFile.ofSource (path : Path) (content : String) : SourceFile :=
  { path, content, declared := Declarations.ofSource path content }

end SymbolSearch
