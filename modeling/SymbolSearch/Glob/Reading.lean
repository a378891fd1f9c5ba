import SymbolSearch.Glob.Basic

set_option autoImplicit false

namespace SymbolSearch.Glob

inductive Cause where
  | unclosedGroup
  | unopenedGroup
  | unclosedClass
  | invalidRange (low high : Char)
  | danglingEscape
deriving DecidableEq, Repr

def Cause.message : Cause → String
  | unclosedGroup =>
    "unclosed alternate group; missing '\x7d' (maybe escape '\x7b' with '[\x7b]'?)"
  | unopenedGroup =>
    "unopened alternate group; missing '\x7b' (maybe escape '\x7d' with '[\x7d]'?)"
  | unclosedClass => "unclosed character class; missing ']'"
  | invalidRange low high =>
    "invalid range; '" ++ String.ofList [low] ++ "' > '" ++ String.ofList [high] ++ "'"
  | danglingEscape => "dangling '\\'"

structure Fault where
  glob : String
  cause : Cause
deriving DecidableEq, Repr

def Fault.message (fault : Fault) : String :=
  "error parsing glob '" ++ fault.glob ++ "': " ++ fault.cause.message

-- The members of a class read so far, last one first, and whether the last one starts a range.
structure ClassState where
  members : List (Char × Char)
  inRange : Bool

def ClassState.add (state : ClassState) (char : Char) : Except Cause ClassState :=
  match state.members, state.inRange with
  | (low, _) :: rest, true =>
    if char < low then .error (.invalidRange low char)
    else .ok { members := (low, char) :: rest, inRange := false }
  | members, _ => .ok { members := (char, char) :: members, inRange := false }

def ClassState.ranges (state : ClassState) : List (Char × Char) :=
  (if state.inRange then ('-', '-') :: state.members else state.members).reverse

def classFrom (state : ClassState) : List Char → Except Cause (List (Char × Char) × List Char)
  | [] => .error .unclosedClass
  | ']' :: rest => .ok (state.ranges, rest)
  | char :: rest =>
    if char = '-' && !state.inRange then classFrom { state with inRange := true } rest
    else
      match state.add char with
      | .error cause => .error cause
      | .ok state => classFrom state rest

def classOf (text : List Char) : Except Cause (Token × List Char) :=
  let (negated, body) :=
    match text with
    | '!' :: rest => (true, rest)
    | '^' :: rest => (true, rest)
    | _ => (false, text)
  match body with
  | [] => .error .unclosedClass
  | first :: rest =>
    match classFrom { members := [(first, first)], inRange := false } rest with
    | .error cause => .error cause
    | .ok (ranges, rest) => .ok (.oneOf negated ranges, rest)

theorem classFrom_length {state : ClassState} {text rest : List Char}
    {ranges : List (Char × Char)} (read : classFrom state text = .ok (ranges, rest)) :
    rest.length < text.length := by
  induction text generalizing state with
  | nil => simp [classFrom] at read
  | cons char text ih =>
    unfold classFrom at read
    split at read
    · simp at *
    · simp_all
    · rename_i same
      obtain ⟨rfl, rfl⟩ := List.cons.inj same
      split at read
      · have := ih read
        simp only [List.length_cons]
        omega
      · split at read
        · cases read
        · have := ih read
          simp only [List.length_cons]
          omega

theorem classOf_length {text rest : List Char} {token : Token}
    (read : classOf text = .ok (token, rest)) : rest.length ≤ text.length := by
  unfold classOf at read
  split at read
  · rename_i negated body same
    have shorter : body.length ≤ text.length := by
      split at same <;> simp_all
    cases body with
    | nil => simp at read
    | cons first body =>
      simp only at read
      split at read
      · cases read
      · rename_i ranges rest' found
        have := classFrom_length found
        simp only [Except.ok.injEq, Prod.mk.injEq] at read
        obtain ⟨-, rfl⟩ := read
        simp only [List.length_cons] at shorter
        omega

structure Group where
  choices : List (List Token)
  around : List Token

-- The tokens of the current choice, last one first, and the groups that it stands in.
structure State where
  current : List Token
  groups : List Group

namespace State

def start : State :=
  { current := [], groups := [] }

def push (state : State) (token : Token) : State :=
  { state with current := token :: state.current }

def openGroup (state : State) : State :=
  { current := [], groups := { choices := [], around := state.current } :: state.groups }

def closeGroup (state : State) : Except Cause State :=
  match state.groups with
  | [] => .error .unopenedGroup
  | group :: groups =>
    let choices := (state.current.reverse :: group.choices).reverse
    .ok { current := .either choices :: group.around, groups }

def comma (state : State) : State :=
  match state.groups with
  | [] => state.push (.literal ',')
  | group :: groups =>
    { current := []
      groups := { group with choices := state.current.reverse :: group.choices } :: groups }

def inGroup (state : State) : Bool :=
  !state.groups.isEmpty

def plainStars (state : State) : State :=
  (state.push .anyBytes).push .anyBytes

def widen (state : State) (token : Token) : State :=
  match state.current with
  | .anyFoldersBefore :: _ => state
  | .anythingBelow :: _ => state
  | _ :: before => { state with current := token :: before }
  | [] => state.push token

def startsComponent (state : State) (previous : Option Char) : Bool :=
  previous == some '/' || (state.inGroup && (previous == some ',' || previous == some '{'))

def stars (state : State) (previous : Option Char) (rest : List Char) : State × Bool :=
  if state.current.isEmpty then
    match rest with
    | [] => (state.push .anyFoldersBefore, false)
    | '/' :: _ => (state.push .anyFoldersBefore, true)
    | _ => (state.plainStars, false)
  -- Behind a part of a name they are two stars like any other.
  else if !state.startsComponent previous then (state.plainStars, false)
  else
    match rest with
    | [] => (state.widen .anythingBelow, false)
    | '/' :: _ => (state.widen .anyFoldersBetween, true)
    | next :: _ =>
      if state.inGroup && (next = ',' || next = '}') then (state.widen .anythingBelow, false)
      else (state.plainStars, false)

end State

-- `previous` is the character before `text`. To a lenient reader a bracket that is never closed is
-- a character like others.
def tokensFrom (lenient : Bool) (state : State) (previous : Option Char) (text : List Char) :
    Except Cause (List Token) :=
  match text with
  | [] => if state.inGroup then .error .unclosedGroup else .ok state.current.reverse
  | '?' :: rest => tokensFrom lenient (state.push .anyByte) (some '?') rest
  | '*' :: '*' :: rest =>
    match state.stars previous rest with
    | (state, true) => tokensFrom lenient state (some '/') rest.tail
    | (state, false) => tokensFrom lenient state (some '*') rest
  | '*' :: rest => tokensFrom lenient (state.push .anyBytes) (some '*') rest
  | '[' :: rest =>
    match _read : classOf rest with
    | .error .unclosedClass =>
      if lenient then tokensFrom lenient (state.push (.literal '[')) (some '[') rest
      else .error .unclosedClass
    | .error cause => .error cause
    | .ok (token, rest) => tokensFrom lenient (state.push token) (some ']') rest
  | '{' :: rest => tokensFrom lenient state.openGroup (some '{') rest
  | '}' :: rest =>
    match state.closeGroup with
    | .error cause => .error cause
    | .ok state => tokensFrom lenient state (some '}') rest
  | ',' :: rest => tokensFrom lenient state.comma (some ',') rest
  | '\\' :: [] => .error .danglingEscape
  | '\\' :: char :: rest => tokensFrom lenient (state.push (.literal char)) (some char) rest
  | char :: rest => tokensFrom lenient (state.push (.literal char)) (some char) rest
termination_by text.length
decreasing_by
  all_goals first
    | (have shorter := classOf_length _read; simp only [List.length_cons]; omega)
    | (simp only [List.length_cons, List.length_tail]; omega)

def ofText (text : String) : Except Fault Glob :=
  match tokensFrom false .start none text.toList with
  | .ok tokens => .ok { tokens }
  | .error cause => .error { glob := text, cause }

def ofText? (text : List Char) : Option Glob :=
  (tokensFrom true .start none text).toOption.map fun tokens => { tokens }

end SymbolSearch.Glob
