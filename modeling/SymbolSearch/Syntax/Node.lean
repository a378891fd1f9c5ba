set_option autoImplicit false

namespace SymbolSearch.Syntax

inductive Part where
  | modifier
  | accessor
  | identifier
  | otherName
  | signature
deriving DecidableEq, Repr

inductive MemberSort where
  | definition
  | abstractSignature
  | signature
  | other
deriving DecidableEq, Repr

structure Member where
  sort : MemberSort
  name : Option String
  row : Nat
  parts : List Part
deriving Repr

inductive ContainerSort where
  | classSort
  | interfaceSort
deriving DecidableEq, Repr

inductive Node where
  | container (sort : ContainerSort) (name : Option String) (row : Nat) (members : List Member)
  | function (name : Option String) (row : Nat)
  | exported (declaration value : Option Node)
  | ambient (children : List Node)
  | other

end SymbolSearch.Syntax
