set_option autoImplicit false

namespace SymbolSearch.Text

-- One carriage return before the newline belongs to the ending. The characters come last first.
def endedLine : List Char → List Char
  | '\r' :: line => line.reverse
  | line => line.reverse

def linesFrom (line : List Char) : List Char → List (List Char)
  | [] => if line.isEmpty then [] else [line.reverse]
  | '\n' :: rest => endedLine line :: linesFrom [] rest
  | c :: rest => linesFrom (c :: line) rest

def lines (text : String) : List String :=
  (linesFrom [] text.toList).map String.ofList

def endedByteLine (line : List UInt8) : List UInt8 :=
  (if line.head? = some 0x0D then line.tail else line).reverse

-- Unlike `linesFrom` it finds an empty last line behind a newline at the end.
def byteLinesFrom (line : List UInt8) : List UInt8 → List (List UInt8)
  | [] => [line.reverse]
  | byte :: rest =>
    if byte = 0x0A then endedByteLine line :: byteLinesFrom [] rest
    else byteLinesFrom (byte :: line) rest

def ofBytes? (bytes : List UInt8) : Option (List Char) :=
  (String.fromUTF8? ⟨bytes.toArray⟩).map String.toList

-- Lines are numbered from one by 32-bit numbers.
def lineLimit : Nat := Nat.pow 2 32 - 1

def window (text : String) (line radius : Nat) : List (Nat × String) :=
  -- Numbers stop at zero here, and at the largest line number below.
  let first := max (line - radius) 1
  let last := min (line + radius) lineLimit
  (((lines text).zipIdx 1).map fun (content, number) => (number, content))
    |>.dropWhile (fun entry => entry.1 < first)
    |>.takeWhile (fun entry => entry.1 ≤ last)

def joinLines (parts : List String) : String :=
  String.intercalate "\n" parts

end SymbolSearch.Text
