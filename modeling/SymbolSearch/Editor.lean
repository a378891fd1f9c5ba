import SymbolSearch.Path
import SymbolSearch.Text.Basic
import SymbolSearch.Text.Words

set_option autoImplicit false

namespace SymbolSearch

inductive EditorFailure where
  | unclosedQuote (template : String)
  | empty
deriving DecidableEq, Repr

def EditorFailure.messages : EditorFailure → List String
  | unclosedQuote template => ["Invalid editor command: " ++ template, "missing closing quote"]
  | empty => ["Editor command is empty"]

def EditorFailure.message (failure : EditorFailure) : String :=
  failure.messages.headD ""

structure EditorCommand where
  program : String
  words : List String
deriving DecidableEq, Repr

namespace EditorCommand

def pathMark : List Char := ['{', 'p', 'a', 't', 'h', '}']

def lineMark : List Char := ['{', 'l', 'i', 'n', 'e', '}']

def namesPath (word : String) : Bool :=
  Text.occursIn pathMark word.toList

def withPosition (words : List String) : List String :=
  if words.any namesPath then words else words ++ [String.ofList (pathMark ++ ':' :: lineMark)]

def ofTemplate (template : String) : Except EditorFailure EditorCommand :=
  match Text.words? template with
  | none => .error (.unclosedQuote template)
  | some [] => .error .empty
  | some (program :: words) => .ok { program, words := withPosition words }

def fill (path : Path) (line : Nat) (word : String) : String :=
  String.ofList
    (Text.replace lineMark (toString (max line 1)).toList
      (Text.replace pathMark path.text.toList word.toList))

def arguments (command : EditorCommand) (path : Path) (line : Nat) : List String :=
  command.words.map (fill path line)

end EditorCommand

end SymbolSearch
