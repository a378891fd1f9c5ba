import SymbolSearch.Interactive.Session

set_option autoImplicit false

namespace SymbolSearch

structure Modifiers where
  control : Bool
  shift : Bool
  alt : Bool
  superKey : Bool
  metaKey : Bool
deriving DecidableEq, Repr

def Modifiers.none : Modifiers :=
  { control := false, shift := false, alt := false, superKey := false, metaKey := false }

inductive KeyCode where
  | char (char : Char)
  | escape
  | tab
  | backspace
  | delete
  | up
  | down
  | enter
  | other
deriving DecidableEq, Repr

inductive KeyAction where
  | session (event : Session.Event)
  | selectNext
  | selectPrevious
  | openSelected
deriving DecidableEq, Repr

-- Characters are typed with no other key or with shift alone, and control alone with `c` ends the
-- session.
def KeyAction.ofKey? (code : KeyCode) (modifiers : Modifiers) : Option KeyAction :=
  match code with
  | .escape => some (.session .cancel)
  | .tab => some (.session .toggleMode)
  | .backspace | .delete => some (.session .deleteBack)
  | .down => some .selectNext
  | .up => some .selectPrevious
  | .enter => some .openSelected
  | .char char =>
    if char = 'c' && modifiers = { Modifiers.none with control := true } then
      some (.session .cancel)
    else if modifiers = .none || modifiers = { Modifiers.none with shift := true } then
      some (.session (.insert char))
    else none
  | .other => none

end SymbolSearch
