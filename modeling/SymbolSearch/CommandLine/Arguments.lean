import SymbolSearch.Path

set_option autoImplicit false

namespace SymbolSearch.CommandLine

inductive Format where
  | grouped
  | json
deriving DecidableEq, Repr

structure Query where
  text : String
  limit : Nat
  format : Format
  ranked : Bool
  colored : Bool
deriving DecidableEq, Repr

inductive Command where
  | search
  | query (query : Query)
  | stats
  | config
deriving DecidableEq, Repr

structure Invocation where
  roots : List Path
  skipFailedRoots : Bool
  config : Option Path
  command : Command

def Invocation.rootsOrHere (invocation : Invocation) : List Path :=
  if invocation.roots.isEmpty then [⟨"."⟩] else invocation.roots

inductive Ending where
  | usage
  | version
  | help
deriving DecidableEq, Repr

inductive Setting where
  | root
  | skipFailedRoots
  | config
  | verbose
  | limit
  | format
  | ranked
  | plain
  | help
  | version
deriving DecidableEq, Repr

namespace Setting

def takesValue : Setting → Bool
  | root | config | limit | format => true
  | _ => false

def longName : Setting → String
  | root => "root"
  | skipFailedRoots => "skip-failed-roots"
  | config => "config"
  | verbose => "verbose"
  | limit => "limit"
  | format => "format"
  | ranked => "ai"
  | plain => "no-color"
  | help => "help"
  | version => "version"

def shortName : Setting → Option Char
  | root => some 'r'
  | verbose => some 'v'
  | limit => some 'n'
  | help => some 'h'
  | version => some 'V'
  | _ => none

end Setting

inductive Level where
  | front
  | query
  | other
deriving DecidableEq, Repr

namespace Level

def settings : Level → List Setting
  | front => [.root, .skipFailedRoots, .config, .verbose, .help, .version]
  | query =>
    [.root, .skipFailedRoots, .config, .verbose, .limit, .format, .ranked, .plain, .help]
  | other => [.root, .skipFailedRoots, .config, .verbose, .help]

def named? (level : Level) (name : String) : Option Setting :=
  level.settings.find? fun setting => setting.longName = name

def lettered? (level : Level) (letter : Char) : Option Setting :=
  level.settings.find? fun setting => setting.shortName = some letter

end Level

def limitBound : Nat := Nat.pow 2 64 - 1

def limitOf? (value : String) : Option Nat :=
  let digits :=
    match value.toList with
    | '+' :: rest => rest
    | text => text
  if digits.isEmpty || !digits.all Char.isDigit then none
  else
    let number := digits.foldl (fun total digit => 10 * total + (digit.toNat - '0'.toNat)) 0
    if number ≤ limitBound then some number else none

def formatOf? : String → Option Format
  | "grouped" => some .grouped
  | "json" => some .json
  | _ => none

def isValid (setting : Setting) (value : String) : Bool :=
  match setting with
  | .root | .config => !value.isEmpty
  | .limit => (limitOf? value).isSome
  | .format => (formatOf? value).isSome
  | _ => true

structure Given where
  settings : List (Setting × String)
  words : List String

namespace Given

def nothing : Given :=
  { settings := [], words := [] }

def has (given : Given) (setting : Setting) : Bool :=
  given.settings.any fun entry => entry.1 = setting

def value? (given : Given) (setting : Setting) : Option String :=
  given.settings.lookup setting

def roots (given : Given) : List Path :=
  (given.settings.filter fun entry => entry.1 = .root).map fun entry => ⟨entry.2⟩

-- All but the root may be given once.
def take (given : Given) (setting : Setting) (value : String) : Except Ending Given :=
  match setting with
  | .help => .error .help
  | .version => .error .version
  | _ =>
    if !isValid setting value || (setting ≠ .root && given.has setting) then .error .usage
    else .ok { given with settings := given.settings ++ [(setting, value)] }

def addWords (given : Given) (words : List String) : Given :=
  { given with words := given.words ++ words }

end Given

abbrev Cluster : Type :=
  Except Ending (Given × Option Setting)

def attached? : List Char → Option String
  | [] => none
  | '=' :: rest => some (String.ofList rest)
  | rest => some (String.ofList rest)

def takeLetters (level : Level) (given : Given) : List Char → Cluster
  | [] => .ok (given, none)
  | letter :: rest =>
    match level.lettered? letter with
    | none => .error .usage
    | some setting =>
      if setting.takesValue then
        match attached? rest with
        | none => .ok (given, some setting)
        | some value => (given.take setting value).map fun given => (given, none)
      else
        match given.take setting "" with
        | .error ending => .error ending
        | .ok given => takeLetters level given rest

def takeLong (level : Level) (given : Given) (text : List Char) : Cluster :=
  let name := String.ofList (text.takeWhile (· ≠ '='))
  let value := (text.dropWhile (· ≠ '=')).tail?.map String.ofList
  match level.named? name, value with
  | none, _ => .error .usage
  | some setting, some value =>
    if setting.takesValue then (given.take setting value).map fun given => (given, none)
    else .error .usage
  | some setting, none =>
    if setting.takesValue then .ok (given, some setting)
    else (given.take setting "").map fun given => (given, none)

inductive Shape where
  | long (text : List Char)
  | letters (text : List Char)
  | separator
  | word

def Shape.of (argument : String) : Shape :=
  match argument.toList with
  | ['-', '-'] => .separator
  | '-' :: '-' :: text => .long text
  | ['-'] => .word
  | '-' :: text => .letters text
  | _ => .word

def Shape.isWord : Shape → Bool
  | word => true
  | _ => false

def Shape.takeInto (shape : Shape) (level : Level) (given : Given) : Cluster :=
  match shape with
  | long text => takeLong level given text
  | letters text => takeLetters level given text
  | separator | word => .ok (given, none)

-- Behind `--` all arguments are words.
def readLevel (level : Level) (given : Given) :
    List String → Except Ending (Given × Option (String × List String))
  | [] => .ok (given, none)
  | argument :: rest =>
    match Shape.of argument with
    | .separator =>
      if level = .query || rest.isEmpty then .ok (given.addWords rest, none) else .error .usage
    | .word =>
      match level with
      | .front => .ok (given, some (argument, rest))
      | .query => readLevel level (given.addWords [argument]) rest
      | .other => .error .usage
    | shape =>
      match shape.takeInto level given, rest with
      | .error ending, _ => .error ending
      | .ok (given, none), rest => readLevel level given rest
      | .ok (_, some _), [] => .error .usage
      | .ok (given, some setting), value :: rest =>
        -- What looks like a setting is no value.
        if (Shape.of value).isWord then
          match given.take setting value with
          | .error ending => .error ending
          | .ok given => readLevel level given rest
        else .error .usage

def invocation (front behind : Given) (command : Command) : Invocation :=
  { roots := if behind.roots.isEmpty then front.roots else behind.roots
    skipFailedRoots := front.has .skipFailedRoots || behind.has .skipFailedRoots
    config := ((behind.value? .config).or (front.value? .config)).map Path.mk
    command }

def defaultLimit : Nat := 20

def queryOf? (given : Given) : Option Query :=
  if given.words.isEmpty then none
  else
    some
      { text := " ".intercalate given.words
        limit := ((given.value? .limit).bind limitOf?).getD defaultLimit
        format := ((given.value? .format).bind formatOf?).getD .grouped
        ranked := given.has .ranked
        colored := !given.has .plain }

def helpTopics : List String :=
  ["search", "query", "stats", "config", "help"]

def readCommand (front : Given) (name : String) (rest : List String) :
    Except Ending Invocation := do
  match name with
  | "query" =>
    let (behind, _) ← readLevel .query .nothing rest
    match queryOf? behind with
    | some query => pure (invocation front behind (.query query))
    | none => throw .usage
  | "search" => pure (invocation front (← readLevel .other .nothing rest).1 .search)
  | "stats" => pure (invocation front (← readLevel .other .nothing rest).1 .stats)
  | "config" => pure (invocation front (← readLevel .other .nothing rest).1 .config)
  | "help" => throw (if rest.all helpTopics.contains && rest.length ≤ 1 then .help else .usage)
  | _ => throw .usage

def read (arguments : List String) : Except Ending Invocation := do
  match ← readLevel .front .nothing arguments with
  | (front, none) => pure (invocation front .nothing .search)
  | (front, some (name, rest)) => readCommand front name rest

end SymbolSearch.CommandLine
