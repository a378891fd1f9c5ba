import SymbolSearch.Path

set_option autoImplicit false

namespace SymbolSearch

inductive Kind where
  | file
  | classDecl
  | interfaceDecl
  | function
  | method
deriving DecidableEq, Inhabited, Repr

namespace Kind

def all : List Kind :=
  [file, classDecl, interfaceDecl, function, method]

def name : Kind → String
  | file => "file"
  | classDecl => "class"
  | interfaceDecl => "interface"
  | function => "function"
  | method => "method"

def ofName? (name : String) : Option Kind :=
  all.find? fun kind => kind.name == name

def icon : Kind → String
  | file => "F"
  | classDecl => "C"
  | interfaceDecl => "I"
  | function => "ƒ"
  | method => "m"

theorem ofName_name (kind : Kind) : ofName? kind.name = some kind := by
  cases kind <;> decide

end Kind

structure Parent where
  name : String
  kind : Kind
deriving DecidableEq, Inhabited, Repr

structure Element where
  id : String
  kind : Kind
  name : String
  parent : Option Parent
  path : Path
  -- The first line, counted from one; zero for a file.
  line : Nat
  description : String
  searchable : String
  content : String
deriving Inhabited

namespace Element

def scopedName (element : Element) : String :=
  match element.parent with
  | some parent => parent.name ++ "." ++ element.name
  | none => element.name

def qualifiedName (element : Element) : String :=
  match element.parent with
  | some parent => if parent.kind = .file then element.name else element.scopedName
  | none => element.name

end Element

end SymbolSearch
