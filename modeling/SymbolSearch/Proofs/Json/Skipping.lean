import SymbolSearch.Proofs.Json.Tokens
import SymbolSearch.Proofs.Json.Words

set_option autoImplicit false

namespace SymbolSearch.Json

open Jsonc (Form Mark MarkFirst Reads Scalar Token Value Word plain)
open Reader (skipValueFrom skipValue)
open Reader.skipValueFrom (skipRest)

inductive Bracket where
  | list
  | object

namespace Bracket

def opening : Bracket → Mark
  | list => .openArray
  | object => .openObject

def closing : Bracket → Mark
  | list => .closeArray
  | object => .closeObject

def Holds (first : Bool) (tokens rest : List Token) : Bracket → Prop
  | list => ∃ items, ItemTokens first items tokens rest
  | object => ∃ members, MemberTokens first members tokens rest

variable {bracket : Bracket} {first : Bool} {tokens rest : List Token}

theorem holds_nothing : bracket.Holds first (.mark bracket.closing :: rest) rest := by
  cases bracket with
  | list => exact ⟨[], itemTokens_nil.mpr rfl⟩
  | object => exact ⟨[], memberTokens_nil.mpr rfl⟩

theorem Holds.reads (holds : bracket.Holds true tokens rest) :
    ∃ value, Reads false (.value value) (.mark bracket.opening :: tokens) rest := by
  cases bracket with
  | list =>
    obtain ⟨items, listed⟩ := holds
    exact ⟨.array items, reads_array.mpr ⟨tokens, rfl, listed⟩⟩
  | object =>
    obtain ⟨members, listed⟩ := holds
    exact ⟨.object members, reads_object.mpr ⟨tokens, rfl, listed⟩⟩

theorem closing_char (bracket : Bracket) :
    (if bracket.opening.char = '[' then ']' else '\x7d') = bracket.closing.char := by
  cases bracket <;> rfl

end Bracket

open Reader.skipValueFrom (inside)

def stack (brackets : List Bracket) : List Char :=
  brackets.map fun bracket => bracket.opening.char

def Unread : List Bracket → List Token → List Token → Prop
  | [], tokens, rest => tokens = rest
  | bracket :: outer, tokens, rest =>
    ∃ middle, bracket.Holds false tokens middle ∧ Unread outer middle rest

section Steps

variable {cursor stop : Cursor} {fuel : Nat} {opened : List Char} {rest : List Token}

theorem skipValueFrom_cases (skipped : skipValueFrom (fuel + 1) opened cursor = .ok stop) :
    (∃ scalar place, skipRest fuel opened true place = .ok stop ∧
      ∀ rest, Ahead place rest → Ahead cursor (.scalar scalar :: rest)) ∨
    ∃ bracket : Bracket, skipRest fuel (bracket.opening.char :: opened) false
        cursor.skipSpace.next = .ok stop ∧
      ∀ rest, Ahead cursor.skipSpace.next rest → Ahead cursor (.mark bracket.opening :: rest) := by
  have word {scalar : Scalar} {c : Char} {more letters : List Char}
      (spelled : Word scalar (c :: letters)) (here : cursor.skipSpace.rest = c :: more)
      (skipped : (do skipRest fuel opened true (← Reader.letters letters cursor.skipSpace.next)) =
        .ok stop) :
      ∃ scalar place, skipRest fuel opened true place = .ok stop ∧
        ∀ rest, Ahead place rest → Ahead cursor (.scalar scalar :: rest) := by
    obtain ⟨place, read, skipped⟩ := run_bind skipped
    have behind := letters_came read
    rw [Cursor.rest_next here] at behind
    exact ⟨scalar, place, skipped, fun rest ahead =>
      ahead_of_spelled (.word spelled) (by rw [here, behind]; rfl) ahead⟩
  unfold skipValueFrom at skipped
  simp only at skipped
  split at skipped
  next => cases skipped
  next here => exact .inl (word .null here skipped)
  next here => exact .inl (word .yes here skipped)
  next here => exact .inl (word .no here skipped)
  next more here =>
    obtain ⟨place, read, skipped⟩ := run_bind skipped
    obtain ⟨units, body, spelled, behind⟩ := skipTextFrom_came read
    rw [Cursor.rest_next here] at behind
    exact .inl ⟨_, place, skipped, fun rest ahead => ahead_of_quoted spelled here behind ahead⟩
  next c more _ _ _ _ here =>
    split at skipped
    next bracket =>
      rcases (by simpa using bracket : c = '[' ∨ c = '\x7b') with rfl | rfl
      · exact .inr ⟨.list, skipped, fun rest ahead => ahead_of_mark .openArray here ahead⟩
      · exact .inr ⟨.object, skipped, fun rest ahead => ahead_of_mark .openObject here ahead⟩
    next =>
      split at skipped
      next =>
        obtain ⟨place, read, skipped⟩ := run_bind skipped
        obtain ⟨_, _, word, spelled, behind⟩ := skipNumber_came read
        exact .inl ⟨_, place, skipped, fun rest ahead =>
          ahead_of_spelled (.word spelled) behind ahead⟩
      next => cases skipped

theorem skipRest_none (fuel : Nat) (behindValue : Bool) :
    skipRest fuel [] behindValue cursor = .ok cursor := by
  cases fuel <;> rfl

theorem skipRest_cases {bracket : Bracket} {behindValue : Bool}
    (skipped : skipRest (fuel + 1) (bracket.opening.char :: opened) behindValue cursor =
      .ok stop) :
    (skipRest fuel opened true cursor.skipSpace.next = .ok stop ∧
      ∀ rest, Ahead cursor.skipSpace.next rest → Ahead cursor (.mark bracket.closing :: rest)) ∨
    (behindValue = true ∧
      inside fuel (bracket.opening.char :: opened) cursor.skipSpace.next = .ok stop ∧
      ∀ rest, Ahead cursor.skipSpace.next rest → Ahead cursor (.mark .comma :: rest)) ∨
    (behindValue = false ∧
      inside fuel (bracket.opening.char :: opened) cursor.skipSpace = .ok stop) := by
  unfold skipRest at skipped
  simp only [Bracket.closing_char] at skipped
  split at skipped
  next => cases skipped
  next c more here =>
    split at skipped
    next comma =>
      obtain ⟨rfl, value⟩ : c = ',' ∧ behindValue = true := by simpa using comma
      exact .inr (.inl ⟨value, skipped, fun rest ahead => ahead_of_mark .comma here ahead⟩)
    next =>
      split at skipped
      next closes =>
        rw [closes] at here
        exact .inl ⟨skipped, fun rest ahead => ahead_of_mark bracket.closing here ahead⟩
      next =>
        split at skipped
        next => cases skipped
        next first => exact .inr (.inr ⟨by simpa using first, skipped⟩)

theorem inside_list : inside (fuel + 1) ('[' :: opened) cursor =
    skipValueFrom fuel ('[' :: opened) cursor := by
  unfold inside
  rfl

theorem inside_object_cases (skipped : inside (fuel + 1) ('\x7b' :: opened) cursor = .ok stop) :
    ∃ name place, skipValueFrom fuel ('\x7b' :: opened) place = .ok stop ∧
      ∀ rest, Ahead place rest → Ahead cursor (.scalar (.text name) :: .mark .colon :: rest) := by
  unfold inside at skipped
  simp only at skipped
  split at skipped
  next more quote =>
    obtain ⟨place, read, skipped⟩ := run_bind skipped
    obtain ⟨name, body, spelled, behind⟩ := skipTextFrom_came read
    rw [Cursor.rest_next quote] at behind
    split at skipped
    next here =>
      exact ⟨name, _, skipped, fun rest ahead =>
        ahead_of_quoted spelled quote behind (ahead_of_mark .colon here ahead)⟩
    next => cases skipped
    next => cases skipped
  next => cases skipped
  next => cases skipped

end Steps

structure Passes (fuel : Nat) : Prop where
  value : ∀ {outer cursor stop rest}, skipValueFrom fuel (stack outer) cursor = .ok stop →
    Ahead stop rest → ∃ value tokens middle, Reads false (.value value) tokens middle ∧
      Unread outer middle rest ∧ Ahead cursor tokens
  behind : ∀ {outer cursor stop rest}, skipRest fuel (stack outer) true cursor = .ok stop →
    Ahead stop rest → ∃ tokens, Unread outer tokens rest ∧ Ahead cursor tokens
  opened : ∀ {bracket outer cursor stop rest},
    skipRest fuel (stack (bracket :: outer)) false cursor = .ok stop → Ahead stop rest →
      ∃ tokens middle, bracket.Holds true tokens middle ∧ Unread outer middle rest ∧
        Ahead cursor tokens
  inside : ∀ {bracket outer cursor stop rest},
    inside fuel (stack (bracket :: outer)) cursor = .ok stop → Ahead stop rest →
      ∃ tokens middle, (∀ first, bracket.Holds first (separated first tokens) middle) ∧
        Unread outer middle rest ∧ Ahead cursor tokens

theorem passes (fuel : Nat) : Passes fuel := by
  -- Each of the three calls the others with less fuel, so one induction carries them all.
  induction fuel with
  | zero =>
    constructor
    case behind =>
      intro outer cursor stop rest skipped ahead
      cases outer with
      | nil =>
        cases skipped
        exact ⟨rest, rfl, ahead⟩
      | cons => cases skipped
    all_goals
      intros
      rename_i skipped ahead
      cases skipped
  | succ fuel ih =>
    constructor
    case value =>
      intro outer cursor stop rest skipped ahead
      rcases skipValueFrom_cases skipped with ⟨scalar, place, skipped, before⟩ |
        ⟨bracket, skipped, before⟩
      · obtain ⟨tokens, unread, ahead⟩ := ih.behind skipped ahead
        exact ⟨_, _, tokens, .scalar, unread, before tokens ahead⟩
      · obtain ⟨tokens, middle, holds, unread, ahead⟩ := ih.opened skipped ahead
        obtain ⟨value, reads⟩ := holds.reads
        exact ⟨value, _, middle, reads, unread, before tokens ahead⟩
    case behind =>
      intro outer cursor stop rest skipped ahead
      cases outer with
      | nil =>
        cases skipped
        exact ⟨rest, rfl, ahead⟩
      | cons bracket outer =>
        rcases skipRest_cases skipped with ⟨skipped, before⟩ | ⟨-, skipped, before⟩ | ⟨⟨⟩, -⟩
        · obtain ⟨tokens, unread, ahead⟩ := ih.behind skipped ahead
          exact ⟨_, ⟨tokens, Bracket.holds_nothing, unread⟩, before tokens ahead⟩
        · obtain ⟨tokens, middle, holds, unread, ahead⟩ := ih.inside skipped ahead
          exact ⟨_, ⟨middle, holds false, unread⟩, before tokens ahead⟩
    case opened =>
      intro bracket outer cursor stop rest skipped ahead
      rcases skipRest_cases skipped with ⟨skipped, before⟩ | ⟨⟨⟩, -⟩ | ⟨-, skipped⟩
      · obtain ⟨tokens, unread, ahead⟩ := ih.behind skipped ahead
        exact ⟨_, tokens, Bracket.holds_nothing, unread, before tokens ahead⟩
      · obtain ⟨tokens, middle, holds, unread, ahead⟩ := ih.inside skipped ahead
        exact ⟨tokens, middle, holds true, unread, ahead_of_skipSpace ahead⟩
    case inside =>
      intro bracket outer cursor stop rest skipped ahead
      cases bracket with
      | list =>
        obtain ⟨value, tokens, middle, reads, ⟨close, ⟨items, listed⟩, unread⟩, ahead⟩ :=
          @Passes.value _ ih (.list :: outer) _ _ _ (inside_list ▸ skipped) ahead
        exact ⟨tokens, close, fun _ =>
          ⟨_, itemTokens_cons.mpr ⟨tokens, middle, rfl, reads, listed⟩⟩, unread, ahead⟩
      | object =>
        obtain ⟨name, place, skipped, before⟩ := inside_object_cases skipped
        obtain ⟨value, tokens, middle, reads, ⟨close, ⟨members, listed⟩, unread⟩, ahead⟩ :=
          @Passes.value _ ih (.object :: outer) _ _ _ skipped ahead
        exact ⟨_, close, fun _ =>
          ⟨_, memberTokens_cons.mpr ⟨tokens, middle, rfl, reads, listed⟩⟩, unread,
          before tokens ahead⟩

theorem skipValue_came {cursor stop : Cursor} {rest : List Token}
    (skipped : skipValue cursor = .ok stop) (ahead : Ahead stop rest) :
    ∃ value tokens, Reads false (.value value) tokens rest ∧ Ahead cursor tokens := by
  obtain ⟨value, tokens, _, reads, rfl, before⟩ :=
    @Passes.value _ (passes _) [] _ _ _ skipped ahead
  exact ⟨value, tokens, reads, before⟩

section Steps

variable {cursor : Cursor} {fuel : Nat} {opened : List Char} {rest : List Token}
  {bracket : Bracket}

theorem skipValueFrom_scalar {scalar : Scalar} (ahead : Ahead cursor (.scalar scalar :: rest))
    (mark : MarkFirst rest) :
    ∃ stop, skipValueFrom (fuel + 1) opened cursor = skipRest fuel opened true stop ∧
      Ahead stop rest := by
  obtain ⟨_, text, spelled, here, spaced⟩ := ahead.spelled
  have behind {stop : Cursor} (same : stop.rest = text) : Ahead stop rest := by rwa [Ahead, same]
  cases spelled with
  | @text _ body spelled =>
    have start : cursor.skipSpace.rest = '"' :: (body ++ '"' :: text) := by simpa using here
    obtain ⟨stop, skipped, same⟩ := skipText_comes spelled (Cursor.rest_next start)
    exact ⟨stop, by simp [skipValueFrom, start, skipped, bind, Except.bind], behind same⟩
  | word spelled =>
    cases spelled with
    | number signed integral pointed scaled =>
      obtain ⟨c, more, begins, number⟩ := Word.number_head signed integral _
      have word := Word.number signed integral pointed scaled
      obtain ⟨stop, skipped, same⟩ := skipNumber_comes word (spaced.stops mark) here
      have start : cursor.skipSpace.rest = c :: (more ++ text) := by rw [here, begins]; rfl
      refine ⟨stop, ?_, behind same⟩
      rcases number with rfl | digit
      · simp [skipValueFrom, start, skipped, bind, Except.bind]
      · have apart : c ≠ 'n' ∧ c ≠ 't' ∧ c ≠ 'f' ∧ c ≠ '"' ∧ c ≠ '[' ∧ c ≠ '\x7b' := by
          refine ⟨?_, ?_, ?_, ?_, ?_, ?_⟩ <;> rintro rfl <;> cases digit
        simp [skipValueFrom, start, skipped, apart, digit, bind, Except.bind]
    | _ =>
      obtain ⟨stop, read, same⟩ := letters_comes (Cursor.rest_next here)
      exact ⟨stop, by simp [skipValueFrom, here, read, bind, Except.bind], behind same⟩

theorem skipValueFrom_opening (ahead : Ahead cursor (.mark bracket.opening :: rest)) :
    ∃ place, skipValueFrom (fuel + 1) opened cursor =
        skipRest fuel (bracket.opening.char :: opened) false place ∧ Ahead place rest := by
  obtain ⟨⟨text, here⟩, ahead⟩ := ahead.marked
  refine ⟨_, ?_, ahead⟩
  cases bracket <;> simp [skipValueFrom, here, Bracket.opening, Mark.char]

theorem skipRest_closing {behindValue : Bool}
    (ahead : Ahead cursor (.mark bracket.closing :: rest)) :
    ∃ place, skipRest (fuel + 1) (bracket.opening.char :: opened) behindValue cursor =
        skipRest fuel opened true place ∧ Ahead place rest := by
  obtain ⟨⟨text, here⟩, ahead⟩ := ahead.marked
  refine ⟨_, ?_, ahead⟩
  have noComma : bracket.closing.char ≠ ',' := by cases bracket <;> decide
  rw [skipRest]
  simp only [here, Bracket.closing_char, noComma, decide_false, Bool.false_and, Bool.false_eq_true,
    if_false, if_true]

theorem skipRest_comma (ahead : Ahead cursor (.mark .comma :: rest)) :
    ∃ place, skipRest (fuel + 1) (bracket.opening.char :: opened) true cursor =
        inside fuel (bracket.opening.char :: opened) place ∧ Ahead place rest := by
  obtain ⟨⟨text, here⟩, ahead⟩ := ahead.marked
  refine ⟨_, ?_, ahead⟩
  rw [skipRest]
  simp [here, Mark.char]

theorem skipRest_first {token : Token} (goesOn : token.closes = false)
    (ahead : Ahead cursor (token :: rest)) :
    ∃ place, skipRest (fuel + 1) (bracket.opening.char :: opened) false cursor =
        inside fuel (bracket.opening.char :: opened) place ∧ Ahead place (token :: rest) := by
  refine ⟨_, ?_, ahead.skipSpace⟩
  obtain ⟨_, text, spelled, here, -⟩ := ahead.spelled
  obtain ⟨c, more, rfl, -, closes⟩ := spelled.head
  have apart : c ≠ bracket.closing.char := by
    rintro rfl
    rw [goesOn] at closes
    cases bracket <;> cases closes
  rw [skipRest]
  simp [here, Bracket.closing_char, apart]

theorem inside_object_name {name : List Nat}
    (ahead : Ahead cursor (.scalar (.text name) :: .mark .colon :: rest)) :
    ∃ place, inside (fuel + 1) ('\x7b' :: opened) cursor =
        skipValueFrom fuel ('\x7b' :: opened) place ∧ Ahead place rest := by
  obtain ⟨body, text, spelled, here, spaced⟩ := ahead.quoted
  obtain ⟨stop, skipped, rfl⟩ := skipText_comes spelled (Cursor.rest_next here)
  obtain ⟨⟨more, colon⟩, ahead⟩ := Ahead.marked spaced
  refine ⟨_, ?_, ahead⟩
  rw [inside]
  simp [here, skipped, colon, Mark.char, bind, Except.bind]

end Steps

def skipForm (fuel : Nat) (opened : List Char) (cursor : Cursor) : Form → Except Fault Cursor
  | .value _ => skipValueFrom fuel opened cursor
  | .items _ => inside fuel ('[' :: opened) cursor
  | .members _ => inside fuel ('\x7b' :: opened) cursor

-- The steps that skipping a form takes beside three for each token.
def extraSteps : Form → Nat
  | .value _ => 0
  | .items _ => 1
  | .members _ => 1

section Forms

variable {cursor : Cursor} {fuel : Nat} {opened : List Char} {tokens rest : List Token}

def GoesOn (run : Except Fault Cursor) (opened : List Char) (rest : List Token) : Prop :=
  ∃ left stop, run = skipRest left opened true stop ∧ Ahead stop rest ∧ 3 * rest.length ≤ left

theorem GoesOn.close (bracket : Bracket) {run : Except Fault Cursor}
    (goesOn : GoesOn run (bracket.opening.char :: opened) (.mark bracket.closing :: rest)) :
    GoesOn run opened rest := by
  obtain ⟨left, stop, rfl, ahead, enough⟩ := goesOn
  rw [List.length_cons] at enough
  obtain ⟨left, rfl⟩ := Nat.exists_eq_add_of_le' (show 1 ≤ left by omega)
  obtain ⟨place, skipped, ahead⟩ := skipRest_closing ahead
  exact ⟨left, place, skipped, ahead, by omega⟩

theorem goesOn_empty (bracket : Bracket)
    (ahead : Ahead cursor (.mark bracket.opening :: .mark bracket.closing :: rest))
    (enough : 3 * (rest.length + 1 + 1) ≤ fuel) :
    GoesOn (skipValueFrom fuel opened cursor) opened rest := by
  obtain ⟨fuel, rfl⟩ := Nat.exists_eq_add_of_le' (show 2 ≤ fuel by omega)
  obtain ⟨first, skipped, ahead⟩ := skipValueFrom_opening ahead
  obtain ⟨place, closed, ahead⟩ := skipRest_closing ahead
  exact ⟨fuel, place, skipped.trans closed, ahead, by omega⟩

theorem goesOn_opened (bracket : Bracket) (goesOn : Jsonc.closesFirst tokens = false)
    (some : tokens ≠ []) (ahead : Ahead cursor (.mark bracket.opening :: tokens))
    (enough : 3 * (tokens.length + 1) ≤ fuel)
    (inside : ∀ {fuel cursor}, Ahead cursor tokens → 1 + 3 * tokens.length ≤ fuel →
      GoesOn (inside fuel (bracket.opening.char :: opened) cursor) opened rest) :
    GoesOn (skipValueFrom fuel opened cursor) opened rest := by
  obtain ⟨fuel, rfl⟩ := Nat.exists_eq_add_of_le' (show 2 ≤ fuel by omega)
  obtain ⟨token, tokens, rfl⟩ := List.exists_cons_of_ne_nil some
  obtain ⟨first, skipped, ahead⟩ := skipValueFrom_opening ahead
  obtain ⟨place, begun, ahead⟩ := skipRest_first goesOn ahead
  rw [skipped, begun]
  exact inside ahead (by omega)

theorem GoesOn.comma (bracket : Bracket) {run : Except Fault Cursor}
    (goesOn : GoesOn run (bracket.opening.char :: opened) (.mark .comma :: tokens))
    (inside : ∀ {fuel cursor}, Ahead cursor tokens → 1 + 3 * tokens.length ≤ fuel →
      GoesOn (inside fuel (bracket.opening.char :: opened) cursor) opened rest) :
    GoesOn run opened rest := by
  obtain ⟨left, stop, rfl, ahead, enough⟩ := goesOn
  rw [List.length_cons] at enough
  obtain ⟨left, rfl⟩ := Nat.exists_eq_add_of_le' (show 1 ≤ left by omega)
  obtain ⟨place, skipped, ahead⟩ := skipRest_comma ahead
  rw [skipped]
  exact inside ahead (by omega)

theorem skipForm_goesOn {form : Form} (reads : Reads false form tokens rest) (mark : MarkFirst rest)
    (ahead : Ahead cursor tokens) (enough : extraSteps form + 3 * tokens.length ≤ fuel) :
    GoesOn (skipForm fuel opened cursor form) opened rest := by
  -- A bracket or a comma takes up to three steps until a value can begin, all others one or none.
  induction reads generalizing fuel opened cursor with
  | scalar =>
    rw [extraSteps, List.length_cons] at enough
    obtain ⟨fuel, rfl⟩ := Nat.exists_eq_add_of_le' (show 1 ≤ fuel by omega)
    obtain ⟨stop, skipped, ahead⟩ := skipValueFrom_scalar ahead mark
    exact ⟨fuel, stop, skipped, ahead, by omega⟩
  | emptyArray => exact goesOn_empty .list ahead (by simpa [extraSteps] using enough)
  | emptyObject => exact goesOn_empty .object ahead (by simpa [extraSteps] using enough)
  | array inside ih =>
    exact goesOn_opened .list inside.not_closesFirst inside.ne_nil ahead
      (by simpa [extraSteps] using enough) (ih mark)
  | object inside ih =>
    exact goesOn_opened .object inside.not_closesFirst inside.ne_nil ahead
      (by simpa [extraSteps] using enough) (ih mark)
  | lastItem last close ih =>
    cases close.eq_bare
    rw [extraSteps] at enough
    obtain ⟨fuel, rfl⟩ := Nat.exists_eq_add_of_le' (show 1 ≤ fuel by omega)
    have goesOn : GoesOn (skipValueFrom fuel ('[' :: opened) cursor) ('[' :: opened) _ :=
      ih (by simp) ahead (by rw [extraSteps]; omega)
    rw [skipForm, inside_list]
    exact GoesOn.close .list goesOn
  | item first more ihFirst ihMore =>
    rw [extraSteps] at enough
    obtain ⟨fuel, rfl⟩ := Nat.exists_eq_add_of_le' (show 1 ≤ fuel by omega)
    have goesOn : GoesOn (skipValueFrom fuel ('[' :: opened) cursor) ('[' :: opened) _ :=
      ihFirst (by simp) ahead (by rw [extraSteps]; omega)
    rw [skipForm, inside_list]
    exact GoesOn.comma .list goesOn (ihMore mark)
  | lastMember last close ih =>
    cases close.eq_bare
    rw [extraSteps, List.length_cons, List.length_cons] at enough
    obtain ⟨fuel, rfl⟩ := Nat.exists_eq_add_of_le' (show 1 ≤ fuel by omega)
    obtain ⟨place, named, ahead⟩ := inside_object_name ahead
    have goesOn : GoesOn (skipValueFrom fuel ('\x7b' :: opened) place) ('\x7b' :: opened) _ :=
      ih (by simp) ahead (by rw [extraSteps]; omega)
    rw [skipForm, named]
    exact GoesOn.close .object goesOn
  | member first more ihFirst ihMore =>
    rw [extraSteps, List.length_cons, List.length_cons] at enough
    obtain ⟨fuel, rfl⟩ := Nat.exists_eq_add_of_le' (show 1 ≤ fuel by omega)
    obtain ⟨place, named, ahead⟩ := inside_object_name ahead
    have goesOn : GoesOn (skipValueFrom fuel ('\x7b' :: opened) place) ('\x7b' :: opened) _ :=
      ihFirst (by simp) ahead (by rw [extraSteps]; omega)
    rw [skipForm, named]
    exact GoesOn.comma .object goesOn (ihMore mark)

theorem skipValue_goesOn {value : Value} (reads : Reads false (.value value) tokens rest)
    (mark : MarkFirst rest) (ahead : Ahead cursor tokens) :
    ∃ stop, skipValue cursor = .ok stop ∧ Ahead stop rest := by
  have enough : extraSteps (.value value) + 3 * tokens.length ≤ 3 * cursor.rest.length + 3 := by
    have short := length_le_spaced ahead
    rw [extraSteps]
    omega
  obtain ⟨left, stop, skipped, ahead, -⟩ := skipForm_goesOn reads mark ahead enough
  exact ⟨stop, skipped.trans (skipRest_none left true), ahead⟩

end Forms

end SymbolSearch.Json
