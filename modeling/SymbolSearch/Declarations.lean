import SymbolSearch.Path
import SymbolSearch.Syntax.Outline

set_option autoImplicit false

namespace SymbolSearch

structure Declared where
  name : Option String
  line : Nat
deriving DecidableEq, Repr

structure DeclaredContainer where
  name : Option String
  line : Nat
  methods : List Declared
deriving DecidableEq, Repr

structure Declarations where
  classes : List DeclaredContainer
  interfaces : List DeclaredContainer
  functions : List Declared
deriving DecidableEq, Repr

namespace Declarations

def empty : Declarations :=
  { classes := [], interfaces := [], functions := [] }

def isEmpty (declared : Declarations) : Bool :=
  declared.classes.isEmpty && declared.interfaces.isEmpty && declared.functions.isEmpty

def append (left right : Declarations) : Declarations :=
  { classes := left.classes ++ right.classes
    interfaces := left.interfaces ++ right.interfaces
    functions := left.functions ++ right.functions }

instance : Append Declarations where
  append := append

open Syntax

def isAccessor (member : Member) : Bool :=
  -- A name that is no identifier does not end the search; behind it nothing is an accessor mark.
  (member.parts.takeWhile (· ≠ .identifier)).contains .accessor

def declaredMember (member : Member) : Declared :=
  { name := member.name, line := member.row + 1 }

-- The methods of a class: those with a body and abstract ones, without accessors with a body and
-- without the constructor.
def classMethods (members : List Member) : List Declared :=
  (members.filter fun member =>
    (match member.sort with
      | .definition => !isAccessor member
      | .abstractSignature => true
      | _ => false) &&
    member.name.isSome && member.name ≠ some "constructor").map declaredMember

def interfaceMethods (members : List Member) : List Declared :=
  (members.filter fun member => member.sort = .signature && member.name.isSome).map declaredMember

mutual

def ofNode : Node → Declarations
  | .container .classSort name row members =>
    { empty with classes := [{ name, line := row + 1, methods := classMethods members }] }
  | .container .interfaceSort name row members =>
    { empty with interfaces := [{ name, line := row + 1, methods := interfaceMethods members }] }
  | .function name row => { empty with functions := [{ name, line := row + 1 }] }
  -- A declaration goes before a value.
  | .exported (some declaration) _ => ofNode declaration
  | .exported none (some value) => ofNode value
  | .exported none none => empty
  | .ambient children => ofNodes children
  | .other => empty

def ofNodes : List Node → Declarations
  | [] => empty
  | node :: rest => ofNode node ++ ofNodes rest

end

def allowsMarkup (path : Path) : Bool :=
  match path.extension? with
  | some extension => ["tsx", "jsx"].contains extension.toLower
  | none => false

def ofSource (path : Path) (source : String) : Declarations :=
  ofNodes (outline (allowsMarkup path) source)

end Declarations

end SymbolSearch
