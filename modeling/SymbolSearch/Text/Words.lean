set_option autoImplicit false

namespace SymbolSearch.Text

inductive WordPlace where
  | between
  | plain
  | singleQuoted
  | doubleQuoted
  | comment
deriving DecidableEq, Repr

def escapable : List Char :=
  ['$', '\x60', '"', '\\']

-- `word` is the current word, last character first. Without its closing quote a command has no
-- words.
def wordsFrom (place : WordPlace) (word : List Char) (command : List Char) :
    Option (List String) :=
  let finished := String.ofList word.reverse
  match place, command with
  | .between, [] => some []
  | .between, '\'' :: rest => wordsFrom .singleQuoted [] rest
  | .between, '"' :: rest => wordsFrom .doubleQuoted [] rest
  | .between, '\\' :: [] => some ["\\"]
  | .between, '\\' :: '\n' :: rest => wordsFrom .between [] rest
  | .between, '\\' :: c :: rest => wordsFrom .plain [c] rest
  | .between, '#' :: rest => wordsFrom .comment [] rest
  | .between, c :: rest =>
    if c = '\t' || c = ' ' || c = '\n' then wordsFrom .between [] rest
    else wordsFrom .plain [c] rest
  | .plain, [] => some [finished]
  | .plain, '\'' :: rest => wordsFrom .singleQuoted word rest
  | .plain, '"' :: rest => wordsFrom .doubleQuoted word rest
  | .plain, '\\' :: [] => some [String.ofList ('\\' :: word).reverse]
  | .plain, '\\' :: '\n' :: rest => wordsFrom .plain word rest
  | .plain, '\\' :: c :: rest => wordsFrom .plain (c :: word) rest
  | .plain, c :: rest =>
    if c = '\t' || c = ' ' || c = '\n' then (wordsFrom .between [] rest).map (finished :: ·)
    else wordsFrom .plain (c :: word) rest
  | .singleQuoted, [] => none
  | .singleQuoted, '\'' :: rest => wordsFrom .plain word rest
  | .singleQuoted, c :: rest => wordsFrom .singleQuoted (c :: word) rest
  | .doubleQuoted, [] => none
  | .doubleQuoted, '"' :: rest => wordsFrom .plain word rest
  | .doubleQuoted, '\\' :: [] => none
  | .doubleQuoted, '\\' :: '\n' :: rest => wordsFrom .doubleQuoted word rest
  | .doubleQuoted, '\\' :: c :: rest =>
    wordsFrom .doubleQuoted (if escapable.contains c then c :: word else c :: '\\' :: word) rest
  | .doubleQuoted, c :: rest => wordsFrom .doubleQuoted (c :: word) rest
  | .comment, [] => some []
  | .comment, c :: rest => wordsFrom (if c = '\n' then .between else .comment) [] rest
termination_by structural command

def words? (command : String) : Option (List String) :=
  wordsFrom .between [] command.toList

end SymbolSearch.Text
