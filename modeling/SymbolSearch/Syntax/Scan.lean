import SymbolSearch.Syntax.Token
import SymbolSearch.Text.Basic

set_option autoImplicit false

namespace SymbolSearch.Syntax

structure Place where
  rest : List Char
  row : Nat
  offset : Nat

namespace Place

def ofText (text : List Char) : Place :=
  { rest := text, row := 0, offset := 0 }

def next (place : Place) : Place :=
  match place.rest with
  | [] => place
  | c :: rest =>
    { rest, row := if c = '\n' then place.row + 1 else place.row, offset := place.offset + 1 }

def skip : Nat → Place → Place
  | 0, place => place
  | count + 1, place => skip count place.next

def span (start stop : Place) : String :=
  String.ofList (start.rest.take (stop.offset - start.offset))

def skipWhile (keep : Char → Bool) (place : Place) : Place :=
  go place.rest place
where
  go : List Char → Place → Place
    | [], place => place
    | c :: rest, place => if keep c then go rest place.next else place

end Place

def isSpace (c : Char) : Bool :=
  Text.isBlank c || c = '\uFEFF' || c = '\u2060' || c = '\u200B'

def separators : List Char :=
  [':', ';', '\'', '"', '@', '#', '.', ',', '|', '^', '&', '<', '=', '>', '+', '-', '*', '/',
    '%', '?', '!', '~', '(', ')', '[', ']', '{', '}', Char.ofNat 0x60]

def isWordChar (c : Char) : Bool :=
  !(isSpace c || c.toNat < 0x20 || separators.contains c)

inductive Gap where
  | space
  | lineComment
  | blockComment

-- The flag says that a newline was among the space.
def skipGap : Gap → Bool → List Char → Place → Bool × Place
  | _, fresh, [], place => (fresh, place)
  | .space, fresh, '/' :: '/' :: rest, place => skipGap .lineComment fresh rest (place.skip 2)
  | .space, fresh, '/' :: '*' :: rest, place => skipGap .blockComment fresh rest (place.skip 2)
  | .space, fresh, c :: rest, place =>
    if isSpace c then skipGap .space (fresh || c = '\n') rest place.next else (fresh, place)
  | .lineComment, fresh, c :: rest, place =>
    if c = '\n' then skipGap .space true rest place.next
    else skipGap .lineComment fresh rest place.next
  | .blockComment, fresh, '*' :: '/' :: rest, place => skipGap .space fresh rest (place.skip 2)
  -- A newline in a block comment does not make the next token fresh.
  | .blockComment, fresh, _ :: rest, place => skipGap .blockComment fresh rest place.next

def skipSpace (place : Place) : Bool × Place :=
  skipGap .space false place.rest place

def stringEnd (quote : Char) : List Char → Place → Place
  | [], place => place
  | ['\\'], place => place.next
  | '\\' :: _ :: rest, place => stringEnd quote rest (place.skip 2)
  | c :: rest, place => if c = quote then place.next else stringEnd quote rest place.next

def patternEnd (inClass : Bool) : List Char → Place → Place
  | [], place => place
  | ['\\'], place => place.next
  | '\\' :: _ :: rest, place => patternEnd inClass rest (place.skip 2)
  | c :: rest, place =>
    if c = '[' then patternEnd true rest place.next
    else if c = ']' then patternEnd false rest place.next
    else if c = '/' && !inClass then place.next
    else patternEnd inClass rest place.next

def numberEnd (start : Place) : Place :=
  let radix := match start.rest with
    | '0' :: mark :: _ => ['x', 'X', 'o', 'O', 'b', 'B'].contains mark
    | _ => false
  match start.rest with
  | '.' :: rest => go false true rest start.next
  | _ => go radix radix start.rest start
where
  go (radix dotted : Bool) : List Char → Place → Place
    | '.' :: rest, place => if dotted then place else go radix true rest place.next
    | 'e' :: '+' :: rest, place => if radix then place.next else go radix true rest (place.skip 2)
    | 'e' :: '-' :: rest, place => if radix then place.next else go radix true rest (place.skip 2)
    | 'E' :: '+' :: rest, place => if radix then place.next else go radix true rest (place.skip 2)
    | 'E' :: '-' :: rest, place => if radix then place.next else go radix true rest (place.skip 2)
    | c :: rest, place => if isWordChar c then go radix dotted rest place.next else place
    | [], place => place

def longSigns : List (List Char) :=
  [['.', '.', '.'], ['=', '>'], ['+', '+'], ['-', '-'], ['?', '.'], ['!', '=']]

structure Context where
  -- An operand may start here: `/` opens a regular expression and `<` a markup element.
  operand : Bool
  block : Bool
  -- A round bracket holds a condition, behind which a statement starts.
  condition : Bool
  -- A word is the name of a property.
  property : Bool

namespace Context

def statement : Context :=
  { operand := true, block := true, condition := false, property := false }

def expression : Context :=
  { operand := true, block := false, condition := false, property := false }

def operator : Context :=
  { operand := false, block := true, condition := false, property := false }

def afterWord (context : Context) (word : String) : Context :=
  if context.property then operator
  else if ["else", "do", "try", "finally"].contains word then statement
  else if ["if", "while", "for", "with"].contains word then { operator with condition := true }
  else if word = "await" then { expression with condition := context.condition }
  else if ["return", "typeof", "instanceof", "in", "of", "new", "delete", "void", "throw", "case",
      "yield", "default", "extends"].contains word then expression
  else operator

def afterSign (context : Context) (sign : String) : Context :=
  if sign = ";" then statement
  else if sign = "." || sign = "?." then { expression with property := true }
  else if sign = ">" then { expression with block := true }
  else if (sign = "++" || sign = "--" || sign = "!") && !context.operand then operator
  else expression

def afterGroup (context : Context) (bracket : Char) : Context :=
  if bracket = '(' && context.condition then statement
  else if bracket = '{' && context.block then statement
  else operator

def inGroup (context : Context) (bracket : Char) : Context :=
  if bracket = '{' && context.block then statement else expression

end Context

def closing (bracket : Char) : Char :=
  if bracket = '(' then ')' else if bracket = '[' then ']' else '}'

def isMarkupNameChar (c : Char) : Bool :=
  isWordChar c || c = '-' || c = '.' || c = ':'

def skipAngles : Nat → List Char → Place → Place
  | depth, '<' :: rest, place => skipAngles (depth + 1) rest place.next
  | 0, _, place => place
  | _ + 1, [], place => place
  | 1, '>' :: _, place => place.next
  | depth + 2, '>' :: rest, place => skipAngles (depth + 1) rest place.next
  | depth + 1, _ :: rest, place => skipAngles (depth + 1) rest place.next

mutual

def scanItems (markup : Bool) :
    Nat → Option Char → Context → Place → List Token → List Token × Place
  | 0, _, _, place, scanned => (scanned.reverse, place)
  | fuel + 1, close, context, place, scanned =>
    let (fresh, start) := skipSpace place
    let row := start.row
    let literal (stop : Place) :=
      scanItems markup fuel close .operator stop
        (.leaf .literal (start.span stop) row fresh :: scanned)
    let sign (length : Nat) :=
      let stop := start.skip length
      let text := start.span stop
      scanItems markup fuel close (context.afterSign text) stop
        (.leaf .sign text row fresh :: scanned)
    match start.rest with
    | [] => (scanned.reverse, start)
    | c :: rest =>
      if close = some c then (scanned.reverse, start.next)
      else if c = '(' || c = '[' || c = '{' then
        let (items, stop) :=
          scanItems markup fuel (some (closing c)) (context.inGroup c) start.next []
        let text := if c = '[' then start.span stop else ""
        scanItems markup fuel close (context.afterGroup c) stop
          (.group c items text row fresh :: scanned)
      else if c = '"' || c = '\'' then literal (stringEnd c rest start.next)
      else if c = Char.ofNat 0x60 then literal (scanTemplate markup fuel start.next)
      else if c.isDigit || (c = '.' && (rest.headD ' ').isDigit) then literal (numberEnd start)
      -- Comments are gone, so a slash here divides or opens a regular expression.
      else if c = '/' && context.operand then
        literal ((patternEnd false rest start.next).skipWhile isWordChar)
      else if c = '<' && markup && context.operand then
        match scanMarkup markup fuel start with
        | some stop => literal stop
        -- No element: a type argument or an assertion.
        | none => sign 1
      else if isWordChar c || (c = '#' && isWordChar (rest.headD ' ')) then
        let stop := start.next.skipWhile isWordChar
        let text := start.span stop
        scanItems markup fuel close (context.afterWord text) stop
          (.leaf .word text row fresh :: scanned)
      else
        match longSigns.find? fun long => long.isPrefixOf start.rest with
        | some long => sign long.length
        | none => sign 1

def scanTemplate (markup : Bool) : Nat → Place → Place
  | 0, place => place
  | fuel + 1, place =>
    match place.rest with
    | [] => place
    | '\\' :: _ => scanTemplate markup fuel (place.skip 2)
    -- Code in a template may hold templates of its own.
    | '$' :: '{' :: _ =>
      scanTemplate markup fuel (scanItems markup fuel (some '}') .expression (place.skip 2) []).2
    | c :: _ => if c = Char.ofNat 0x60 then place.next else scanTemplate markup fuel place.next

def scanMarkup (markup : Bool) : Nat → Place → Option Place
  | 0, _ => none
  | fuel + 1, place =>
    let start := (skipSpace place.next).2
    match start.rest with
    | '>' :: _ => scanChildren markup fuel "" start.next
    | c :: _ =>
      if isWordChar c then
        let stop := start.skipWhile isMarkupNameChar
        scanAttributes markup fuel (start.span stop) (skipAngles 0 stop.rest stop)
      else none
    | [] => none

def scanAttributes (markup : Bool) : Nat → String → Place → Option Place
  | 0, _, _ => none
  | fuel + 1, name, place =>
    let start := (skipSpace place).2
    match start.rest with
    | '/' :: '>' :: _ => some (start.skip 2)
    | '>' :: _ => scanChildren markup fuel name start.next
    | '{' :: _ =>
      scanAttributes markup fuel name
        (scanItems markup fuel (some '}') .expression start.next []).2
    | c :: _ =>
      if isWordChar c then
        let stop := start.skipWhile isMarkupNameChar
        let equals := (skipSpace stop).2
        match equals.rest with
        | '=' :: _ =>
          let value := (skipSpace equals.next).2
          match value.rest with
          | '"' :: _ =>
            scanAttributes markup fuel name (value.next.skipWhile (· ≠ '"')).next
          | '\'' :: _ =>
            scanAttributes markup fuel name (value.next.skipWhile (· ≠ '\'')).next
          | '{' :: _ =>
            scanAttributes markup fuel name
              (scanItems markup fuel (some '}') .expression value.next []).2
          | '<' :: _ =>
            match scanMarkup markup fuel value with
            | some stop => scanAttributes markup fuel name stop
            | none => none
          | _ => none
        | _ => scanAttributes markup fuel name stop
      else none
    | [] => none

def scanChildren (markup : Bool) : Nat → String → Place → Option Place
  | 0, _, _ => none
  | fuel + 1, name, place =>
    match place.rest with
    | [] => none
    | '<' :: _ =>
      let inner := (skipSpace place.next).2
      match inner.rest with
      | '/' :: _ =>
        let start := (skipSpace inner.next).2
        let stop := start.skipWhile isMarkupNameChar
        let final := (skipSpace stop).2
        match final.rest with
        | '>' :: _ => if start.span stop = name then some final.next else none
        | _ => none
      | _ =>
        match scanMarkup markup fuel place with
        | some stop => scanChildren markup fuel name stop
        | none => none
    | '{' :: _ =>
      scanChildren markup fuel name (scanItems markup fuel (some '}') .expression place.next []).2
    | _ => scanChildren markup fuel name place.next

end

def tokens (markup : Bool) (source : String) : List Token :=
  let start := Place.ofText source.toList
  let first := match start.rest with
    | '#' :: '!' :: _ => start.skipWhile (· ≠ '\n')
    | _ => start
  -- Every step passes a character or leaves a bracket, an element or a template.
  (scanItems markup (4 * first.rest.length + 16) none .statement first []).1

end SymbolSearch.Syntax
