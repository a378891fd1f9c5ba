import SymbolSearch.Syntax.Node
import SymbolSearch.Syntax.Scan

set_option autoImplicit false

namespace SymbolSearch.Syntax

structure Skim where
  complete : Bool
  -- Angle brackets that may still be closed.
  angles : Nat
  -- Functions and classes whose body is still to come.
  heads : Nat
  inType : Bool

namespace Skim

def expression : Skim :=
  { complete := false, angles := 0, heads := 0, inType := false }

def type : Skim :=
  { expression with inType := true }

def afterHead : Skim :=
  { type with complete := true }

def asksForOperand (inType : Bool) (word : String) : Bool :=
  ["typeof", "new", "delete", "in", "instanceof", "extends", "implements"].contains word ||
    (inType && ["keyof", "is", "infer", "unique", "readonly"].contains word)

def step (skim : Skim) (token : Token) : Skim :=
  match token with
  | .leaf .literal _ _ _ => { skim with complete := true }
  | .leaf .word text _ _ =>
    if !skim.inType && (text = "function" || text = "class") then
      { skim with complete := true, heads := skim.heads + 1 }
    else { skim with complete := !asksForOperand (skim.inType || skim.heads > 0) text }
  | .leaf .sign text _ fresh =>
    -- An angle that closes one ends a type; another one compares.
    if text = "<" then { skim with complete := false, angles := skim.angles + 1 }
    else if text = ">" then
      { skim with complete := decide (skim.angles > 0), angles := skim.angles - 1 }
    else if text = "++" || text = "--" || (text = "!" && !fresh) then skim
    else { skim with complete := false }
  | .group bracket _ _ _ _ =>
    { skim with
      complete := true
      heads := if bracket = '{' && skim.complete then skim.heads - 1 else skim.heads }

def endsBefore (skim : Skim) (token : Token) : Bool :=
  skim.complete && skim.heads == 0 && token.endsStatement skim.inType

end Skim

def skipStatementTail (skim : Skim) : List Token → List Token
  | [] => []
  | token :: rest =>
    if token.isSign ";" then rest
    else if skim.endsBefore token then token :: rest
    else skipStatementTail (skim.step token) rest

def skipMemberTail (skim : Skim) : List Token → List Token
  | [] => []
  | token :: rest =>
    if token.isSign ";" || (token.isSign "," && skim.angles == 0) then rest
    else if skim.endsBefore token then token :: rest
    else skipMemberTail
      (if token.isSign "=" then { skim with complete := false, inType := false }
        else skim.step token) rest

def findBody (skim : Skim) : List Token → Option (List Token × List Token)
  | [] => none
  | token :: rest =>
    match skim.complete && skim.heads == 0, token.block? with
    | true, some items => some (items, rest)
    | _, _ => findBody (skim.step token) rest

def findFunctionBody (skim : Skim) : List Token → Option (List Token) × List Token
  | [] => (none, [])
  | token :: rest =>
    if token.isSign ";" || (token.isSign "," && skim.angles == 0) then (none, rest)
    else
      match skim.complete, token.block? with
      | true, some items => (some items, rest)
      | _, _ =>
        if skim.endsBefore token then (none, token :: rest)
        else findFunctionBody (skim.step token) rest

def skipDecorator : List Token → List Token
  | token :: rest =>
    if token.isGroup '(' then rest
    else
      match rest with
      | next :: behind =>
        if next.isSign "." then skipDecorator behind
        else if next.isGroup '(' then behind
        else rest
      | [] => []
  | [] => []

def skipDecorators : Nat → List Token → List Token
  | 0, tokens => tokens
  | fuel + 1, tokens =>
    match tokens with
    | token :: rest => if token.isSign "@" then skipDecorators fuel (skipDecorator rest) else tokens
    | [] => []

def modifierWords : List String :=
  ["public", "private", "protected", "static", "override", "readonly", "async", "declare", "get",
    "set"]

-- A newline behind it makes it a name, unless it can be no name at all.
def modifies (word : String) (next : Token) : Bool :=
  (modifierWords.contains word && (next.isName || next.isSign "*") && !next.endsStatement true) ||
    (["abstract", "accessor"].contains word && next.isName)

structure Head where
  parts : List Part
  isAbstract : Bool
  rest : List Token

def memberHead : List Token → Head
  | [] => ⟨[], false, []⟩
  | token :: rest =>
    match token.word?, rest with
    | some word, next :: _ =>
      if modifies word next then
        let head := memberHead rest
        { head with
          parts := (if word = "get" || word = "set" then .accessor else .modifier) :: head.parts
          isAbstract := word = "abstract" || head.isAbstract }
      else ⟨[], false, token :: rest⟩
    | _, _ =>
      if token.isSign "*" then
        let head := memberHead rest
        { head with parts := .modifier :: head.parts }
      else ⟨[], false, token :: rest⟩

def namePart : Token → Part
  | .leaf .word text _ _ => if text.toList.head? = some '#' then .otherName else .identifier
  | _ => .otherName

def opensSignature : List Token → Bool
  | token :: rest =>
    token.isSign "<" || token.isGroup '(' ||
      ((token.isSign "?" || token.isSign "!") &&
        match rest with
        | next :: _ => next.isSign "<" || next.isGroup '('
        | [] => false)
  | [] => false

def dropMark : List Token → List Token
  | token :: rest => if token.isSign "?" || token.isSign "!" then rest else token :: rest
  | [] => []

def sameLine : List Token → Bool
  | token :: _ => !token.fresh || token.isSign "<"
  | [] => true

def classMember (tokens : List Token) : Member × List Token :=
  let row := (tokens.head?.map Token.row).getD 0
  let head := memberHead tokens
  match head.rest with
  | [] => (⟨.other, none, row, head.parts⟩, [])
  | name :: rest =>
    let parts := head.parts ++ [namePart name, .signature]
    -- Parameters make it a method, with a body or without; anything else is a field.
    if opensSignature rest && sameLine rest then
      let (body, behind) := findFunctionBody { Skim.afterHead with complete := false } (dropMark rest)
      let sort := if body.isSome then .definition
        else if head.isAbstract then .abstractSignature
        else .signature
      (⟨sort, some name.text, row, parts⟩, behind)
    else
      (⟨.other, some name.text, row, parts⟩, skipMemberTail Skim.afterHead (dropMark rest))

def interfaceMember (tokens : List Token) : Member × List Token :=
  let row := (tokens.head?.map Token.row).getD 0
  let head := memberHead tokens
  let other := (⟨.other, none, row, head.parts⟩ : Member)
  match head.rest with
  | [] => (other, [])
  | name :: rest =>
    if !name.isName || (name.isWord "new" && opensSignature rest && sameLine rest) then
      (other, skipMemberTail Skim.type (name :: rest))
    else
      let parts := head.parts ++ [namePart name, .signature]
      let behind := skipMemberTail Skim.afterHead (dropMark rest)
      if opensSignature rest && sameLine rest then
        (⟨.signature, some name.text, row, parts⟩,
          skipMemberTail { Skim.afterHead with complete := false } (dropMark rest))
      else (⟨.other, some name.text, row, parts⟩, behind)

def members (member : List Token → Member × List Token) : Nat → List Token → List Member
  | 0, _ => []
  | fuel + 1, tokens =>
    match tokens with
    | [] => []
    | token :: rest =>
      if token.isSign ";" || token.isSign "," then members member fuel rest
      else if token.isSign "@" then members member fuel (skipDecorator rest)
      else
        match token.isWord "static", rest with
        -- A static block is no member.
        | true, next :: behind =>
          if next.isGroup '{' then members member fuel behind
          else
            let (found, behind) := member tokens
            found :: members member fuel behind
        | _, _ =>
          let (found, behind) := member tokens
          found :: members member fuel behind

def classMembers (items : List Token) : List Member :=
  members classMember (2 * items.length + 1) items

def interfaceMembers (items : List Token) : List Member :=
  members interfaceMember (2 * items.length + 1) items

def headName (tokens : List Token) : Option String :=
  match tokens with
  | token :: _ => token.word?.filter fun word => word ≠ "extends" && word ≠ "implements"
  | [] => none

def classNode (row : Nat) (tokens : List Token) : Node × List Token :=
  match findBody Skim.afterHead tokens with
  | some (items, behind) => (.container .classSort (headName tokens) row (classMembers items), behind)
  | none => (.container .classSort (headName tokens) row [], [])

def interfaceNode (row : Nat) (tokens : List Token) : Node × List Token :=
  match findBody Skim.afterHead tokens with
  | some (items, behind) =>
    (.container .interfaceSort (headName tokens) row (interfaceMembers items), behind)
  | none => (.container .interfaceSort (headName tokens) row [], [])

structure FunctionHead where
  generator : Bool
  name : Option String
  rest : List Token

def functionHead (tokens : List Token) : FunctionHead :=
  let (generator, rest) := match tokens with
    | token :: rest => if token.isSign "*" then (true, rest) else (false, tokens)
    | [] => (false, [])
  match rest with
  | token :: behind =>
    match token.word? with
    | some name => ⟨generator, some name, behind⟩
    | none => ⟨generator, none, rest⟩
  | [] => ⟨generator, none, []⟩

-- A generator without a name and a signature without a body are no function nodes.
def functionNode (row : Nat) (tokens : List Token) : Node × List Token :=
  let head := functionHead tokens
  let (body, behind) := findFunctionBody { Skim.afterHead with complete := false } head.rest
  (if body.isSome && (head.name.isSome || !head.generator) then .function head.name row else .other,
    behind)

def leads (word : String) (next : Token → Bool) : List Token → Bool
  | token :: follower :: _ => token.isWord word && !follower.fresh && next follower
  | _ => false

inductive Opening where
  | classOpening (row : Nat) (behind : List Token)
  | interfaceOpening (row : Nat) (behind : List Token)
  | functionOpening (row : Nat) (behind : List Token)

def opening? (tokens : List Token) : Option Opening :=
  match tokens with
  | [] => none
  | first :: _ =>
    match skipDecorators tokens.length tokens with
    | token :: rest =>
      if token.isWord "class" then some (.classOpening first.row rest)
      else if token.isWord "abstract" then
        match rest with
        | next :: behind => if next.isWord "class" then some (.classOpening first.row behind) else none
        | [] => none
      else if token.isWord "interface" then some (.interfaceOpening token.row rest)
      else if token.isWord "function" then some (.functionOpening token.row rest)
      else if leads "async" (fun next => next.isWord "function") (token :: rest) then
        some (.functionOpening token.row rest.tail)
      else none
    | [] => none

def Opening.node : Opening → Node × List Token
  | classOpening row behind => classNode row behind
  | interfaceOpening row behind => interfaceNode row behind
  | functionOpening row behind => functionNode row behind

-- A node that stands for the value of an export rather than for a declaration: a function without a
-- name.
def Node.isNameless : Node → Bool
  | function none _ => true
  | container _ none _ _ => true
  | _ => false

def defaultExport (tokens : List Token) : Node × List Token :=
  match opening? tokens with
  | some opening =>
    let (node, behind) := opening.node
    -- Without a name it is an expression, and so the value of the export.
    (if node.isNameless then .exported none (some node) else .exported (some node) none, behind)
  | none => (.exported none (some .other), skipStatementTail Skim.expression tokens)

def declarationWords : List String :=
  ["class", "abstract", "interface", "function", "async", "enum", "const", "let", "var", "type",
    "namespace", "module", "global", "import", "declare", "using"]

def skipGroup (bracket : Char) : List Token → List Token
  | token :: rest => if token.isGroup bracket then rest else token :: rest
  | [] => []

mutual

def statement : Nat → List Token → Node × List Token
  | 0, _ => (.other, [])
  | _ + 1, [] => (.other, [])
  | fuel + 1, token :: rest =>
    match opening? (token :: rest) with
    | some opening => opening.node
    | none =>
      if token.isSign ";" then (.other, rest)
      else if token.isGroup '{' then (.other, rest)
      else if token.isSign "@" then
        statement fuel (skipDecorators (rest.length + 1) (token :: rest))
      else
        match token.word? with
        | some "export" => exportStatement fuel rest
        | some "declare" =>
          match rest with
          | next :: _ =>
            if !next.fresh && (next.word?.map declarationWords.contains).getD false then
              let (node, behind) := statement fuel rest
              (.ambient [node], behind)
            else (.other, skipStatementTail Skim.afterHead rest)
          | [] => (.other, [])
        | some word => (.other, skipOther fuel word rest)
        | none => (.other, skipStatementTail Skim.expression (token :: rest))

def exportStatement : Nat → List Token → Node × List Token
  | 0, _ => (.other, [])
  | _ + 1, [] => (.exported none none, [])
  | fuel + 1, token :: rest =>
    if token.isWord "default" then defaultExport rest
    else if token.isSign "@" || ((token.word?.map declarationWords.contains).getD false &&
        !exportsNames (token :: rest)) then
      let (node, behind) := statement fuel (token :: rest)
      (.exported (some node) none, behind)
    else (.exported none none, skipStatementTail Skim.expression (token :: rest))
where
  exportsNames : List Token → Bool
    | token :: next :: _ => token.isWord "type" && (next.isGroup '{' || next.isSign "*")
    | _ => false

def skipOther : Nat → String → List Token → List Token
  | 0, _, _ => []
  | fuel + 1, word, rest =>
    let next := rest.head?
    let named := match next with
      | some token => !token.fresh && (token.word?.isSome || token.lead = '"' || token.lead = '\'')
      | none => false
    let opensRound := (next.map fun token => token.isGroup '(').getD false
    -- A label.
    if (next.map fun token => token.isSign ":").getD false then (statement fuel rest.tail).2
    else if word = "if" && opensRound then
      let behind := (statement fuel rest.tail).2
      match behind with
      | token :: more => if token.isWord "else" then (statement fuel more).2 else behind
      | [] => []
    else if (word = "while" || word = "with" || word = "for") && opensRound then
      (statement fuel rest.tail).2
    else if word = "for" then (statement fuel (skipGroup '(' rest.tail)).2
    else if word = "do" then
      match (statement fuel rest).2 with
      | token :: more =>
        if token.isWord "while" then
          match skipGroup '(' more with
          | last :: behind => if last.isSign ";" then behind else last :: behind
          | [] => []
        else token :: more
      | [] => []
    else if word = "try" then skipHandlers fuel (skipGroup '{' rest)
    else if word = "switch" && opensRound then skipGroup '{' rest.tail
    else if word = "global" && (next.map fun token => token.isGroup '{').getD false then rest.tail
    else if (word = "namespace" || word = "module") && named then
      match findBody Skim.afterHead rest with
      | some (_, behind) => behind
      | none => skipStatementTail Skim.afterHead rest
    else if word = "enum" || (word = "const" && leads "enum" (fun _ => true) rest) then
      match findBody Skim.afterHead rest with
      | some (_, behind) => behind
      | none => []
    else if word = "type" && named then skipStatementTail Skim.afterHead rest
    else skipStatementTail (Skim.expression.step (.leaf .word word 0 false)) rest

def skipHandlers : Nat → List Token → List Token
  | 0, tokens => tokens
  | _ + 1, [] => []
  | fuel + 1, token :: rest =>
    if token.isWord "catch" then skipHandlers fuel (skipGroup '{' (skipGroup '(' rest))
    else if token.isWord "finally" then skipGroup '{' rest
    else token :: rest

end

def statements : Nat → List Token → List Node
  | 0, _ => []
  | _ + 1, [] => []
  | fuel + 1, token :: rest =>
    let (node, behind) := statement (2 * (rest.length + 2)) (token :: rest)
    node :: statements fuel behind

def outline (markup : Bool) (source : String) : List Node :=
  let all := tokens markup source
  statements (all.length + 1) all

end SymbolSearch.Syntax
