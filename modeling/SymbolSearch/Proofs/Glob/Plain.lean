import Mathlib.Data.List.Basic
import SymbolSearch.Glob.Reading

set_option autoImplicit false

namespace SymbolSearch.Glob

def marks : List Char :=
  ['?', '*', '[', '{', '}', '\\']

def Plain (text : List Char) : Prop :=
  ∀ c ∈ text, c ∉ marks

namespace State

def pushAll (state : State) (text : List Char) : State :=
  { state with current := (text.map Token.literal).reverse ++ state.current }

theorem pushAll_cons (state : State) (c : Char) (text : List Char) :
    state.pushAll (c :: text) = (state.push (.literal c)).pushAll text := by
  simp [pushAll, push]

end State

variable {state : State} {text path : List Char}

theorem tokensFrom_ordinary (lenient : Bool) (previous : Option Char) {c : Char}
    (ordinary : c ∉ marks) (outside : state.groups = []) (rest : List Char) :
    tokensFrom lenient state previous (c :: rest) =
      tokensFrom lenient (state.push (.literal c)) (some c) rest := by
  have comma : state.comma = state.push (.literal ',') := by simp [State.comma, outside]
  simp only [marks, List.mem_cons, List.not_mem_nil, or_false, not_or] at ordinary
  by_cases isComma : c = ','
  · subst isComma
    rw [tokensFrom, comma]
  · rw [tokensFrom.eq_def]
    split <;> simp_all

def lastOr (previous : Option Char) (text : List Char) : Option Char :=
  text.foldl (fun _ c => some c) previous

theorem tokensFrom_plain (lenient : Bool) (previous : Option Char) (plain : Plain text)
    (outside : state.groups = []) (rest : List Char) :
    tokensFrom lenient state previous (text ++ rest) =
      tokensFrom lenient (state.pushAll text) (lastOr previous text) rest := by
  induction text generalizing state previous with
  | nil => simp [State.pushAll, lastOr]
  | cons c text ih =>
    obtain ⟨ordinary, plain⟩ := List.forall_mem_cons.mp plain
    rw [List.cons_append, tokensFrom_ordinary lenient previous ordinary outside,
      ih _ plain (by simpa [State.push] using outside), State.pushAll_cons]
    rfl

theorem ofText_plain (plain : Plain text) :
    ofText (String.ofList text) = .ok ⟨text.map .literal⟩ := by
  have read := tokensFrom_plain false none plain (rfl : State.start.groups = []) []
  rw [List.append_nil] at read
  rw [ofText, String.toList_ofList, read, tokensFrom]
  simp [State.pushAll, State.start, State.inGroup]

theorem ofText_below (plain : Plain text) :
    ofText (String.ofList text ++ "/**") =
      .ok ⟨text.map .literal ++ [.anythingBelow]⟩ := by
  have plainSlash : Plain (text ++ ['/']) := by
    simpa [Plain, or_imp, forall_and, marks] using plain
  have read := tokensFrom_plain false none plainSlash (rfl : State.start.groups = []) ['*', '*']
  have opened : State.start.pushAll (text ++ ['/']) =
      { current := .literal '/' :: (text.map .literal).reverse, groups := [] } := by
    simp [State.pushAll, State.start]
  have last : lastOr none (text ++ ['/']) = some '/' := by simp [lastOr]
  have whole : (String.ofList text ++ "/**").toList = text ++ ['/'] ++ ['*', '*'] := by simp
  have stars : State.stars { current := .literal '/' :: (text.map .literal).reverse, groups := [] }
      (some '/') [] =
      ({ current := .anythingBelow :: (text.map .literal).reverse, groups := [] }, false) := rfl
  rw [ofText, whole, read, opened, last, tokensFrom, stars]
  simp [tokensFrom, State.inGroup]

theorem mem_rests_cons {token : Token} {tokens : List Token} {bytes behind : List UInt8} :
    behind ∈ rests (token :: tokens) bytes ↔
      ∃ middle ∈ token.rests bytes, behind ∈ rests tokens middle := by
  simp [rests, List.mem_eraseDups, List.mem_flatMap]

theorem afterBytes_eq_some {bytes path rest : List UInt8} :
    afterBytes bytes path = some rest ↔ path = bytes ++ rest := by
  fun_induction afterBytes bytes path with
  | case1 path => simp [eq_comm]
  | case2 => simp
  | case3 byte bytes path ih => simp [ih]
  | case4 byte bytes other path differ => simp [Ne.symm differ]

theorem mem_rests_literals {tokens : List Token} {bytes behind : List UInt8} :
    behind ∈ rests (text.map .literal ++ tokens) bytes ↔
      ∃ middle, bytes = text.flatMap bytesOf ++ middle ∧ behind ∈ rests tokens middle := by
  induction text generalizing bytes with
  | nil => simp
  | cons c text ih =>
    simp only [List.map_cons, List.cons_append, mem_rests_cons, Token.rests, Option.mem_toList,
      afterBytes_eq_some, ih, List.flatMap_cons, List.append_assoc]
    constructor
    · rintro ⟨_, rfl, middle, rfl, found⟩
      exact ⟨middle, rfl, found⟩
    · rintro ⟨middle, rfl, found⟩
      exact ⟨_, rfl, middle, rfl, found⟩

theorem utf8_eq_flatMap (path : String) :
    path.toUTF8.data.toList = path.toList.flatMap bytesOf := by
  rw [String.toUTF8_eq_toByteArray, ← String.utf8Encode_toList, List.utf8Encode,
    List.toList_data_toByteArray]
  rfl

theorem bytes_split {behind : List UInt8} :
    path.flatMap bytesOf = text.flatMap bytesOf ++ behind ↔
      ∃ rest, path = text ++ rest ∧ behind = rest.flatMap bytesOf := by
  constructor
  · intro split
    have encoded : text.utf8Encode ++ behind.toByteArray = path.utf8Encode := by
      rw [List.utf8Encode, List.utf8Encode, ← List.toByteArray_append]
      exact congrArg List.toByteArray split.symm
    obtain ⟨rest, rfl⟩ := List.isPrefix_of_utf8Encode_append_eq_utf8Encode _ encoded
    rw [List.flatMap_append, List.append_cancel_left_eq] at split
    exact ⟨rest, rfl, split.symm⟩
  · rintro ⟨rest, rfl, rfl⟩
    exact List.flatMap_append

theorem isMatch_iff {tokens : List Token} (ordinary : tokens ≠ [.anyFoldersBefore])
    (path : String) :
    Glob.isMatch ⟨tokens⟩ path ↔ [] ∈ rests tokens (path.toList.flatMap bytesOf) := by
  rw [Glob.isMatch, utf8_eq_flatMap, Glob.matchesBytes]
  split
  next special => exact absurd special ordinary
  next => simp

theorem isMatch_literals (path : String) :
    Glob.isMatch ⟨text.map .literal⟩ path ↔ path.toList = text := by
  have ordinary : text.map Token.literal ≠ [.anyFoldersBefore] := by
    cases text <;> simp
  have behind := @mem_rests_literals text [] (path.toList.flatMap bytesOf) []
  rw [List.append_nil] at behind
  rw [isMatch_iff ordinary, behind]
  simp only [bytes_split, rests, List.mem_singleton]
  constructor
  · rintro ⟨_, ⟨rest, split, nothing⟩, rfl⟩
    cases rest with
    | nil => simpa using split
    | cons c rest => simp [bytesOf] at nothing
  · exact fun same => ⟨[], ⟨[], by simpa using same, rfl⟩, rfl⟩

theorem mem_ends (bytes : List UInt8) : [] ∈ ends bytes := by
  induction bytes with
  | nil => simp [ends]
  | cons byte bytes ih => simp [ends, ih]

theorem isMatch_below (path : String) :
    Glob.isMatch ⟨text.map .literal ++ [.anythingBelow]⟩ path ↔
      ∃ rest, path.toList = text ++ '/' :: rest := by
  have ordinary : text.map Token.literal ++ [.anythingBelow] ≠ [.anyFoldersBefore] := by
    cases text <;> simp
  have below (bytes : List UInt8) :
      [] ∈ rests [.anythingBelow] bytes ↔ ∃ more, bytes = ['/'].flatMap bytesOf ++ more := by
    have slashBytes : ['/'].flatMap bytesOf = [slash] := by decide
    rw [mem_rests_cons, slashBytes]
    cases bytes with
    | nil => simp [Token.rests]
    | cons byte bytes =>
      by_cases isSlash : byte = slash
      · simp [Token.rests, isSlash, rests, mem_ends]
      · simp [Token.rests, isSlash]
  rw [isMatch_iff ordinary, mem_rests_literals]
  simp only [bytes_split, below]
  constructor
  · rintro ⟨_, ⟨rest, split, rfl⟩, more, starts⟩
    obtain ⟨rest, rfl, -⟩ := bytes_split.mp starts
    exact ⟨rest, split⟩
  · rintro ⟨rest, split⟩
    exact ⟨_, ⟨'/' :: rest, split, rfl⟩, rest.flatMap bytesOf, rfl⟩

end SymbolSearch.Glob
