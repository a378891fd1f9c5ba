import SymbolSearch.Json.Reader
import SymbolSearch.Query.SearchIndex
import SymbolSearch.Text.Lines

set_option autoImplicit false

namespace SymbolSearch

def addToGroup (element : Element) : List (Path × List Element) → List (Path × List Element)
  | [] => [(element.path, [element])]
  | group :: rest =>
    -- Another spelling of the path is the same file.
    if group.1.same element.path then (group.1, group.2 ++ [element]) :: rest
    else group :: addToGroup element rest

def groupByFile (elements : List Element) : List (Path × List Element) :=
  elements.foldl (fun groups element => addToGroup element groups) []

inductive Colour where
  | magenta
  | cyan
deriving DecidableEq, Repr

structure Style where
  bold : Bool
  colour : Option Colour
deriving DecidableEq, Repr

structure Fragment where
  style : Option Style
  text : String
deriving DecidableEq, Repr

namespace Listing

def escape (code : String) : String :=
  "\x1b[" ++ code ++ "m"

def Style.escapes (style : Style) : String :=
  escape "0" ++ (if style.bold then escape "1" else "") ++
    match style.colour with
    | some .magenta => escape "35"
    | some .cyan => escape "36"
    | none => ""

def plain (text : String) : Fragment :=
  { style := none, text }

def entry (element : Element) : List Fragment :=
  [plain "- ", { style := some ⟨false, some .cyan⟩, text := "**" ++ element.kind.name ++ "**" },
    plain (": " ++ element.scopedName ++ "\n")]

def group (file : Path × List Element) : List Fragment :=
  [plain "\n", { style := some ⟨true, some .magenta⟩, text := "## " ++ file.1.baseName ++ "\n" },
    plain ("*Path: " ++ file.1.text ++ "*\n"), plain "\n"] ++ file.2.flatMap entry

def grouped (elements : List Element) : List Fragment :=
  { style := some ⟨true, none⟩, text := "# Code Structure Analysis\n" } ::
    (groupByFile elements).flatMap group

def plainText (fragments : List Fragment) : String :=
  String.join (fragments.map (·.text))

def colouredText (fragments : List Fragment) : String :=
  String.join (fragments.map fun fragment =>
    match fragment.style with
    | some style => Style.escapes style ++ fragment.text ++ escape "0"
    | none => fragment.text)

end Listing

structure ExportedElement where
  id : String
  name : String
  kind : Kind
  parentName : Option String
  parentKind : Option Kind
  path : String
  line : Nat
  context : String
deriving DecidableEq, Repr

namespace ExportedElement

def contextRadius : Nat := 5

def ofElement (element : Element) : ExportedElement :=
  { id := element.id
    name := element.name
    kind := element.kind
    parentName := element.parent.map (·.name)
    parentKind := element.parent.map (·.kind)
    path := element.path.text
    line := element.line
    context := Text.joinLines
      ((Text.window element.content element.line contextRadius).map (·.2)) }

def toJson (element : ExportedElement) : Json :=
  .object
    ([("id", .text element.id), ("name", .text element.name), ("type", .text element.kind.name)] ++
      (element.parentName.map fun name => ("parentName", Json.text name)).toList ++
      (element.parentKind.map fun kind => ("parentType", Json.text kind.name)).toList ++
      [("filePath", .text element.path), ("lineNumber", .natural element.line),
        ("context", .text element.context)])

open Json.Reader in
def kindReader : Json.Reader Kind :=
  choice (Kind.all.map fun kind => (kind.name, kind))

open Json.Reader in
def reader : Json.Reader ExportedElement :=
  record "struct ExportedElement"
    [.of "id" text (fun value element => { element with id := value }) true,
      .of "name" text (fun value element => { element with name := value }) true,
      .of "type" kindReader (fun value element => { element with kind := value }) true,
      .of "parentName" (nullable text) fun value element => { element with parentName := value },
      .of "parentType" (nullable kindReader)
        fun value element => { element with parentKind := value },
      .of "filePath" text (fun value element => { element with path := value }) true,
      .of "lineNumber" (natural "u32" (Text.lineLimit + 1))
        (fun value element => { element with line := value }) true,
      .of "context" text (fun value element => { element with context := value }) true]
    { id := "", name := "", kind := .file, parentName := none, parentKind := none, path := "",
      line := 0, context := "" }

def document (elements : List Element) : String :=
  (Json.array (elements.map fun element => (ofElement element).toJson)).pretty ++ "\n"

end ExportedElement

end SymbolSearch
