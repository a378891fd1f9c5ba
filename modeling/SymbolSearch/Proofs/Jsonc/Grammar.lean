import SymbolSearch.Decimal
import SymbolSearch.Json.Text

set_option autoImplicit false

/-!
The grammar of JSON, with and without comments and trailing commas. A value is first put down as
tokens (`Reads`), and the tokens as characters with gaps around them (`Dialect.Spaced`); the two
dialects differ in what a gap may hold and in whether a comma may follow the last item.
-/

namespace SymbolSearch.Jsonc

-- A value without parts. Strings are UTF-16 code units, since escapes may spell half a pair.
inductive Scalar where
  | null
  | bool (value : Bool)
  | number (negative : Bool) (magnitude : Decimal.Digits)
  | text (units : List Nat)
deriving DecidableEq, Repr

inductive Value where
  | scalar (scalar : Scalar)
  | array (items : List Value)
  | object (members : List (List Nat × Value))

inductive Mark where
  | openArray
  | closeArray
  | openObject
  | closeObject
  | comma
  | colon
deriving DecidableEq, Repr

def Mark.char : Mark → Char
  | openArray => '['
  | closeArray => ']'
  | openObject => '\x7b'
  | closeObject => '\x7d'
  | comma => ','
  | colon => ':'

def Mark.closes : Mark → Bool
  | closeArray => true
  | closeObject => true
  | _ => false

inductive Token where
  | mark (mark : Mark)
  | scalar (scalar : Scalar)
deriving DecidableEq, Repr

def Token.isMark : Token → Bool
  | mark _ => true
  | scalar _ => false

def Token.closes : Token → Bool
  | mark bracket => bracket.closes
  | scalar _ => false

def wordLetters : List Char :=
  ['+', '-', '.', 'E', 'a', 'e', 'f', 'l', 'n', 'r', 's', 't', 'u']

def isWordChar (c : Char) : Bool :=
  c.isDigit || wordLetters.contains c

def digitsValue (digits : List Char) : Nat :=
  digits.foldl (fun total c => total * 10 + (c.toNat - 48)) 0

def AllDigits (digits : List Char) : Prop :=
  ∀ c ∈ digits, c.isDigit

def Whole (digits : List Char) : Prop :=
  AllDigits digits ∧ digits ≠ [] ∧ (digits.head? = some '0' → digits = ['0'])

inductive Sign (plusAllowed : Bool) : Bool → List Char → Prop
  | absent : Sign plusAllowed false []
  | plus (allowed : plusAllowed = true) : Sign plusAllowed false ['+']
  | minus : Sign plusAllowed true ['-']

inductive Fraction : List Char → List Char → Prop
  | absent : Fraction [] []
  | digits {digits : List Char} (digital : AllDigits digits) (some : digits ≠ []) :
      Fraction digits ('.' :: digits)

inductive Exponent : Int → List Char → Prop
  | absent : Exponent 0 []
  | digits {letter : Char} {down : Bool} {sign digits : List Char}
      (mark : letter = 'e' ∨ letter = 'E') (signed : Sign true down sign)
      (digital : AllDigits digits) (some : digits ≠ []) :
      Exponent (if down then -digitsValue digits else digitsValue digits)
        (letter :: (sign ++ digits))

inductive Word : Scalar → List Char → Prop
  | null : Word .null ['n', 'u', 'l', 'l']
  | yes : Word (.bool true) ['t', 'r', 'u', 'e']
  | no : Word (.bool false) ['f', 'a', 'l', 's', 'e']
  | number {negative : Bool} {scale : Int} {sign whole places fraction exponent : List Char}
      (signed : Sign false negative sign) (integral : Whole whole)
      (pointed : Fraction places fraction) (scaled : Exponent scale exponent) :
      Word (.number negative ⟨digitsValue (whole ++ places), scale - places.length⟩)
        (sign ++ (whole ++ (fraction ++ exponent)))

def codeUnits (c : Char) : List Nat :=
  if c.toNat < 0x10000 then [c.toNat]
  else [0xD800 + (c.toNat - 0x10000) / 0x400, 0xDC00 + (c.toNat - 0x10000) % 0x400]

inductive Piece : List Nat → List Char → Prop
  | plain {c : Char} (printable : 0x20 ≤ c.toNat) (quote : c ≠ '"') (backslash : c ≠ '\\') :
      Piece (codeUnits c) [c]
  | short {letter meant : Char} (known : Json.unescape? letter = some meant) :
      Piece (codeUnits meant) ['\\', letter]
  | hex {a b c d : Char} {p q r s : Nat} (first : Json.hexValue? a = some p)
      (second : Json.hexValue? b = some q) (third : Json.hexValue? c = some r)
      (fourth : Json.hexValue? d = some s) :
      Piece [((p * 16 + q) * 16 + r) * 16 + s] ['\\', 'u', a, b, c, d]

inductive Spelled : List Nat → List Char → Prop
  | nil : Spelled [] []
  | cons {units more : List Nat} {piece body : List Char} (first : Piece units piece)
      (rest : Spelled more body) :
      Spelled (units ++ more) (piece ++ body)

inductive Spelling : Token → List Char → Prop
  | mark (mark : Mark) : Spelling (.mark mark) [mark.char]
  | word {scalar : Scalar} {word : List Char} (spelled : Word scalar word) :
      Spelling (.scalar scalar) word
  | text {units : List Nat} {body : List Char} (spelled : Spelled units body) :
      Spelling (.scalar (.text units)) ('"' :: (body ++ ['"']))

def Space (text : List Char) : Prop :=
  ∀ c ∈ text, Json.Cursor.isSpace c

-- Space and comments in front of a token. A line comment has its newline with it.
inductive Gap : List Char → Prop
  | nil : Gap []
  | space {c : Char} {text : List Char} (white : Json.Cursor.isSpace c) (rest : Gap text) :
      Gap (c :: text)
  | line {body text : List Char} (oneLine : '\n' ∉ body) (rest : Gap text) :
      Gap ('/' :: '/' :: (body ++ '\n' :: text))
  | block {body text : List Char} (unclosed : ¬ ['*', '/'] <:+: body) (rest : Gap text) :
      Gap ('/' :: '*' :: (body ++ '*' :: '/' :: text))

-- Space and comments behind the last token, where the end of the text may end a comment.
inductive LastGap : List Char → Prop
  | closed {text : List Char} (gap : Gap text) : LastGap text
  | line {text body : List Char} (gap : Gap text) (oneLine : '\n' ∉ body) :
      LastGap (text ++ '/' :: '/' :: body)

structure Dialect where
  gap : List Char → Prop
  lastGap : List Char → Prop
  trailingCommas : Bool

def plain : Dialect where
  gap := Space
  lastGap := Space
  trailingCommas := false

def relaxed : Dialect where
  gap := Gap
  lastGap := LastGap
  trailingCommas := true

inductive Dialect.Spaced (dialect : Dialect) : List Token → List Char → Prop
  | nil {text : List Char} (gap : dialect.lastGap text) : dialect.Spaced [] text
  | cons {token : Token} {tokens : List Token} {gap spelling text : List Char}
      (between : dialect.gap gap) (spelled : Spelling token spelling)
      (rest : dialect.Spaced tokens text) :
      dialect.Spaced (token :: tokens) (gap ++ (spelling ++ text))

-- A value, or what stands behind an opening bracket that has something in it: items or members,
-- together with the closing bracket.
inductive Form where
  | value (value : Value)
  | items (items : List Value)
  | members (members : List (List Nat × Value))

inductive Closes (trailingCommas : Bool) (bracket : Mark) (rest : List Token) : List Token → Prop
  | bare : Closes trailingCommas bracket rest (.mark bracket :: rest)
  | comma (allowed : trailingCommas = true) :
      Closes trailingCommas bracket rest (.mark .comma :: .mark bracket :: rest)

inductive Reads (trailingCommas : Bool) : Form → List Token → List Token → Prop
  | scalar {scalar : Scalar} {rest : List Token} :
      Reads trailingCommas (.value (.scalar scalar)) (.scalar scalar :: rest) rest
  | emptyArray {rest : List Token} :
      Reads trailingCommas (.value (.array [])) (.mark .openArray :: .mark .closeArray :: rest) rest
  | array {items : List Value} {tokens rest : List Token}
      (inside : Reads trailingCommas (.items items) tokens rest) :
      Reads trailingCommas (.value (.array items)) (.mark .openArray :: tokens) rest
  | emptyObject {rest : List Token} :
      Reads trailingCommas (.value (.object [])) (.mark .openObject :: .mark .closeObject :: rest)
        rest
  | object {members : List (List Nat × Value)} {tokens rest : List Token}
      (inside : Reads trailingCommas (.members members) tokens rest) :
      Reads trailingCommas (.value (.object members)) (.mark .openObject :: tokens) rest
  | lastItem {value : Value} {tokens behind rest : List Token}
      (last : Reads trailingCommas (.value value) tokens behind)
      (close : Closes trailingCommas .closeArray rest behind) :
      Reads trailingCommas (.items [value]) tokens rest
  | item {value : Value} {items : List Value} {tokens behind rest : List Token}
      (first : Reads trailingCommas (.value value) tokens (.mark .comma :: behind))
      (more : Reads trailingCommas (.items items) behind rest) :
      Reads trailingCommas (.items (value :: items)) tokens rest
  | lastMember {name : List Nat} {value : Value} {tokens behind rest : List Token}
      (last : Reads trailingCommas (.value value) tokens behind)
      (close : Closes trailingCommas .closeObject rest behind) :
      Reads trailingCommas (.members [(name, value)])
        (.scalar (.text name) :: .mark .colon :: tokens) rest
  | member {name : List Nat} {value : Value} {members : List (List Nat × Value)}
      {tokens behind rest : List Token}
      (first : Reads trailingCommas (.value value) tokens (.mark .comma :: behind))
      (more : Reads trailingCommas (.members members) behind rest) :
      Reads trailingCommas (.members ((name, value) :: members))
        (.scalar (.text name) :: .mark .colon :: tokens) rest

def closesFirst : List Token → Bool
  | token :: _ => token.closes
  | [] => false

def Dialect.Renders (dialect : Dialect) (value : Value) (text : List Char) : Prop :=
  ∃ tokens, Reads dialect.trailingCommas (.value value) tokens [] ∧ dialect.Spaced tokens text

end SymbolSearch.Jsonc
