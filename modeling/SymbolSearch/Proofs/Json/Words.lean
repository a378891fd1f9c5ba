import Mathlib.Data.List.TakeWhile
import SymbolSearch.Json.Reader
import SymbolSearch.Proofs.Json.Strings

set_option autoImplicit false

namespace SymbolSearch.Json

open Jsonc (AllDigits Exponent Fraction Piece Sign Spelled Stops Whole Word isWordChar)
open Reader (letters)

theorem run_map {α β : Type} {run : Except Fault α} {change : α → β} {result : β}
    (ran : run.map change = .ok result) : ∃ found, run = .ok found ∧ change found = result := by
  cases run with
  | error fault => cases ran
  | ok found => exact ⟨found, rfl, Except.ok.inj ran⟩

variable {cursor stop : Cursor} {behind : List Char}

theorem letters_comes {word : List Char} (here : cursor.rest = word ++ behind) :
    Comes (letters word cursor) behind := by
  induction word generalizing cursor with
  | nil => exact ⟨cursor, rfl, here⟩
  | cons c word ih => simpa [letters, here] using ih (cursor.rest_pass c (word ++ behind))

theorem letters_came {word : List Char} (read : letters word cursor = .ok stop) :
    cursor.rest = word ++ stop.rest := by
  induction word generalizing cursor with
  | nil =>
    cases read
    rfl
  | cons letter word ih =>
    unfold letters at read
    split at read
    · cases read
    next c rest here =>
      split at read
      next same =>
        have more := ih read
        rw [Cursor.rest_pass] at more
        rw [here, same, more, List.cons_append]
      next => cases read

theorem skipEscape_comes {units : List Nat} {text : List Char} (piece : Piece units ('\\' :: text))
    (here : cursor.rest = text ++ behind) : Comes (skipEscape cursor) behind := by
  cases piece with
  | plain _ _ backslash => exact absurd rfl backslash
  | @short letter _ known =>
    have notUnit : letter ≠ 'u' := by
      rintro rfl
      cases known
    exact ⟨cursor.next, by simp [skipEscape, here, known], Cursor.rest_next here⟩
  | hex first second third fourth =>
    obtain ⟨stop, read, rest⟩ :=
      hexEscape_finds (.digits first second third fourth) (Cursor.rest_next here)
    exact ⟨stop, by simp [skipEscape, here, read, Except.map], rest⟩

theorem skipEscape_came (skipped : skipEscape cursor = .ok stop) :
    ∃ units text, Piece units ('\\' :: text) ∧ cursor.rest = text ++ stop.rest := by
  unfold skipEscape at skipped
  split at skipped
  · cases skipped
  next rest here =>
    obtain ⟨⟨unit, place⟩, read, rfl⟩ := run_map skipped
    obtain ⟨_, ⟨first, second, third, fourth⟩, behind⟩ := hexEscape_found read
    rw [Cursor.rest_next here] at behind
    exact ⟨_, _, .hex first second third fourth, by rw [here, behind]; rfl⟩
  next letter rest _ here =>
    split at skipped
    next known =>
      cases skipped
      exact ⟨_, _, .short known, by rw [here, Cursor.rest_next here, List.singleton_append]⟩
    next => cases skipped

theorem skipTextFrom_comes {units : List Nat} {body : List Char} {fuel : Nat}
    (spelled : Spelled units body) (enough : body.length < fuel)
    (here : cursor.rest = body ++ '"' :: behind) : Comes (skipTextFrom fuel cursor) behind := by
  induction spelled generalizing fuel cursor with
  | nil =>
    obtain _ | fuel := fuel
    · simp at enough
    · exact ⟨cursor.next, by simp [skipTextFrom, here], Cursor.rest_next here⟩
  | @cons _ _ _ body piece _ ih =>
    obtain _ | fuel := fuel
    · simp at enough
    rw [List.append_assoc] at here
    rw [List.length_append] at enough
    -- The skipping tells an escape from a plain character and no more of a piece.
    obtain ⟨c, rfl, printable, quote, backslash⟩ | ⟨text, rfl⟩ := piece.shape
    · rw [List.length_singleton] at enough
      simpa [skipTextFrom, here, quote, backslash, Nat.not_lt.mpr printable] using
        ih (by omega) (cursor.rest_pass c _)
    · rw [List.length_cons] at enough
      obtain ⟨place, escaped, rest⟩ := skipEscape_comes piece (Cursor.rest_next here)
      simpa [skipTextFrom, here, escaped, bind, Except.bind] using ih (by omega) rest

theorem skipTextFrom_came {fuel : Nat} (skipped : skipTextFrom fuel cursor = .ok stop) :
    ∃ units body, Spelled units body ∧ cursor.rest = body ++ '"' :: stop.rest := by
  induction fuel generalizing cursor with
  | zero => cases skipped
  | succ fuel ih =>
    unfold skipTextFrom at skipped
    split at skipped
    · cases skipped
    next rest here =>
      cases skipped
      exact ⟨[], [], .nil, by rw [here, Cursor.rest_next here, List.nil_append]⟩
    next rest here =>
      obtain ⟨place, escaped, skipped⟩ := run_bind skipped
      obtain ⟨_, text, piece, more⟩ := skipEscape_came escaped
      obtain ⟨_, body, spelled, behind⟩ := ih skipped
      rw [Cursor.rest_next here] at more
      exact ⟨_, _, .cons piece spelled, by rw [here, more, behind]; simp⟩
    next c rest quote backslash here =>
      split at skipped
      next => cases skipped
      next printable =>
        obtain ⟨_, body, spelled, behind⟩ := ih skipped
        rw [Cursor.rest_pass] at behind
        have piece := Piece.plain (Nat.not_lt.mp printable) quote backslash
        exact ⟨_, _, .cons piece spelled, by rw [here, behind]; rfl⟩

theorem skipText_comes {units : List Nat} {body : List Char} (spelled : Spelled units body)
    (here : cursor.rest = body ++ '"' :: behind) : Comes (skipText cursor) behind := by
  refine skipTextFrom_comes spelled ?_ here
  rw [here, List.length_append]
  omega

theorem rest_skipDigits (text : List Char) {cursor : Cursor} (here : cursor.rest = text) :
    (skipDigits text cursor).rest = text.dropWhile Char.isDigit := by
  induction text generalizing cursor with
  | nil => exact here
  | cons c text ih =>
    by_cases digit : c.isDigit
    · simpa [skipDigits, digit] using ih (cursor.rest_pass c text)
    · simpa [skipDigits, digit] using here

theorem rest_skipDigits_run {digits : List Char} (digital : AllDigits digits)
    (stops : Stops Char.isDigit behind) (here : cursor.rest = digits ++ behind) :
    (skipDigits (digits ++ behind) cursor).rest = behind := by
  rw [rest_skipDigits _ here, List.dropWhile_append_of_pos digital]
  cases behind with
  | nil => rfl
  | cons c more => simp [(Jsonc.stops_cons _ _ _).mp stops]

def someDigits (cursor : Cursor) : Except Fault Cursor :=
  if (cursor.rest.headD ' ').isDigit then .ok (skipDigits cursor.rest cursor)
  else .error (cursor.faultAhead .invalidNumber)

theorem someDigits_comes {digits : List Char} (digital : AllDigits digits) (some : digits ≠ [])
    (stops : Stops Char.isDigit behind) (here : cursor.rest = digits ++ behind) :
    Comes (someDigits cursor) behind := by
  obtain ⟨c, more, begins, digit⟩ := digital.digital some behind
  have isDigit : (cursor.rest.headD ' ').isDigit := by simpa [here, begins] using digit
  rw [someDigits, if_pos isDigit, here]
  exact ⟨_, rfl, rest_skipDigits_run digital stops here⟩

theorem someDigits_came (skipped : someDigits cursor = .ok stop) :
    ∃ digits, AllDigits digits ∧ digits ≠ [] ∧ cursor.rest = digits ++ stop.rest := by
  unfold someDigits at skipped
  split at skipped
  next isDigit =>
    cases skipped
    refine ⟨cursor.rest.takeWhile Char.isDigit, fun c member => List.mem_takeWhile_imp member,
      ?_, ?_⟩
    · cases here : cursor.rest with
      | nil => simp [here] at isDigit
      | cons c rest => simp_all
    · rw [rest_skipDigits _ rfl, List.takeWhile_append_dropWhile]
  next => cases skipped

theorem exponent_comes {down : Bool} {sign digits : List Char} (signed : Sign true down sign)
    (digital : AllDigits digits) (some : digits ≠ []) (stops : Stops Char.isDigit behind)
    (here : cursor.rest = sign ++ (digits ++ behind)) :
    Comes (skipNumber.exponent cursor) behind := by
  have fromDigits {start : Cursor} (rest : start.rest = digits ++ behind) :
      Comes (someDigits start) behind := someDigits_comes digital some stops rest
  unfold skipNumber.exponent
  cases signed with
  | absent =>
    -- A digit is neither sign, so the digits are read from the same place.
    obtain ⟨c, more, begins, digit⟩ := digital.digital some behind
    obtain ⟨minus, plus⟩ := Jsonc.not_sign_of_isDigit digit
    have start : cursor.rest = c :: more := here.trans begins
    simpa [start, minus, plus, someDigits] using fromDigits here
  | plus => simpa [here, someDigits] using fromDigits (Cursor.rest_next here)
  | minus => simpa [here, someDigits] using fromDigits (Cursor.rest_next here)

theorem exponent_came (skipped : skipNumber.exponent cursor = .ok stop) :
    ∃ down sign digits, Sign true down sign ∧ AllDigits digits ∧ digits ≠ [] ∧
      cursor.rest = sign ++ (digits ++ stop.rest) := by
  obtain ⟨down, sign, start, signed, here, skipped⟩ : ∃ down sign, ∃ start : Cursor,
      Sign true down sign ∧ cursor.rest = sign ++ start.rest ∧ someDigits start = .ok stop := by
    unfold skipNumber.exponent at skipped
    split at skipped
    next rest here => exact ⟨_, _, _, .plus rfl, by simp [Cursor.rest_next here, here], skipped⟩
    next rest here => exact ⟨_, _, _, .minus, by simp [Cursor.rest_next here, here], skipped⟩
    next => exact ⟨_, _, _, .absent, rfl, skipped⟩
  obtain ⟨digits, digital, some, more⟩ := someDigits_came skipped
  exact ⟨down, sign, digits, signed, digital, some, by rw [here, more]⟩

def scaling (cursor : Cursor) : Except Fault Cursor :=
  match cursor.rest with
  | 'e' :: _ => skipNumber.exponent cursor.next
  | 'E' :: _ => skipNumber.exponent cursor.next
  | _ => .ok cursor

theorem scaling_comes {scale : Int} {exponent : List Char} (scaled : Exponent scale exponent)
    (stops : Stops isWordChar behind) (here : cursor.rest = exponent ++ behind) :
    Comes (scaling cursor) behind := by
  cases scaled with
  | absent =>
    -- An `e` would go on with the word, and the word ends here.
    refine ⟨cursor, ?_, here⟩
    cases behind with
    | nil => simp [scaling, here]
    | cons c more => simp [scaling, here, ends_number stops]
  | @digits letter _ sign digits mark signed digital some =>
    have atLetter : cursor.rest = letter :: (sign ++ (digits ++ behind)) := by simpa using here
    have tail :=
      exponent_comes signed digital some (stops_isDigit stops) (Cursor.rest_next atLetter)
    rcases mark with rfl | rfl <;> simpa [scaling, atLetter] using tail

theorem scaling_came (skipped : scaling cursor = .ok stop) :
    ∃ scale exponent, Exponent scale exponent ∧ cursor.rest = exponent ++ stop.rest := by
  have found {letter : Char} {rest : List Char} (mark : letter = 'e' ∨ letter = 'E')
      (here : cursor.rest = letter :: rest)
      (skipped : skipNumber.exponent cursor.next = .ok stop) :
      ∃ scale exponent, Exponent scale exponent ∧ cursor.rest = exponent ++ stop.rest := by
    obtain ⟨down, sign, digits, signed, digital, some, more⟩ := exponent_came skipped
    rw [Cursor.rest_next here] at more
    exact ⟨_, _, .digits mark signed digital some, by simp [here, more]⟩
  unfold scaling at skipped
  split at skipped
  next here => exact found (.inl rfl) here skipped
  next here => exact found (.inr rfl) here skipped
  next =>
    cases skipped
    exact ⟨_, [], .absent, rfl⟩

theorem skipNumber_behind_eq (cursor : Cursor) :
    skipNumber.behind cursor =
      if cursor.rest.head? = some '.' then someDigits cursor.next >>= scaling
      else scaling cursor := by
  unfold skipNumber.behind
  split
  next here =>
    simp only [here, List.head?_cons, if_true, someDigits]
    split
    next => rfl
    next => rfl
  next here => simp [here, scaling]
  next here => simp [here, scaling]
  next point lower upper =>
    cases here : cursor.rest with
    | nil => simp [here, scaling]
    | cons c rest => simp_all [scaling]

theorem stops_scaled {scale : Int} {exponent : List Char} (scaled : Exponent scale exponent)
    (stops : Stops isWordChar behind) :
    Stops Char.isDigit (exponent ++ behind) ∧ (exponent ++ behind).head? ≠ some '.' := by
  cases scaled with
  | absent =>
    refine ⟨stops_isDigit stops, fun point => ?_⟩
    obtain ⟨more, rfl⟩ := List.head?_eq_some_iff.mp point
    exact (ends_number stops).1 rfl
  | digits mark => rcases mark with rfl | rfl <;> simp

theorem behind_comes {places fraction exponent : List Char} {scale : Int}
    (pointed : Fraction places fraction) (scaled : Exponent scale exponent)
    (stops : Stops isWordChar behind) (here : cursor.rest = fraction ++ (exponent ++ behind)) :
    Comes (skipNumber.behind cursor) behind := by
  obtain ⟨digitsStop, noPoint⟩ := stops_scaled scaled stops
  rw [skipNumber_behind_eq]
  cases pointed with
  | absent =>
    rw [here, List.nil_append, if_neg noPoint]
    exact scaling_comes scaled stops here
  | digits digital some =>
    obtain ⟨place, digits, rest⟩ := someDigits_comes digital some digitsStop (Cursor.rest_next here)
    rw [here, List.cons_append, List.head?_cons, if_pos rfl, digits]
    exact scaling_comes scaled stops rest

theorem behind_came (skipped : skipNumber.behind cursor = .ok stop) :
    ∃ places fraction scale exponent, Fraction places fraction ∧ Exponent scale exponent ∧
      cursor.rest = fraction ++ (exponent ++ stop.rest) := by
  rw [skipNumber_behind_eq] at skipped
  split at skipped
  next point =>
    obtain ⟨rest, here⟩ := List.head?_eq_some_iff.mp point
    obtain ⟨place, digits, skipped⟩ := run_bind skipped
    obtain ⟨places, digital, some, more⟩ := someDigits_came digits
    obtain ⟨scale, exponent, scaled, behind⟩ := scaling_came skipped
    rw [Cursor.rest_next here] at more
    exact ⟨_, _, scale, exponent, .digits digital some, scaled, by simp [here, more, behind]⟩
  next =>
    obtain ⟨scale, exponent, scaled, behind⟩ := scaling_came skipped
    exact ⟨_, _, scale, exponent, .absent, scaled, behind⟩

def unsigned (start : Cursor) : Except Fault Cursor :=
  match start.rest with
  | '0' :: _ =>
    if (start.next.rest.headD ' ').isDigit then .error (start.next.faultAhead .invalidNumber)
    else skipNumber.behind start.next
  | c :: rest =>
    if c.isDigit then skipNumber.behind (skipDigits rest (start.pass c rest))
    else .error (start.faultAhead .invalidNumber)
  | [] => .error (start.fault .invalidNumber)

theorem unsigned_comes {whole places fraction exponent : List Char} {scale : Int}
    (integral : Whole whole) (pointed : Fraction places fraction)
    (scaled : Exponent scale exponent) (stops : Stops isWordChar behind)
    (here : cursor.rest = whole ++ (fraction ++ (exponent ++ behind))) :
    Comes (unsigned cursor) behind := by
  have digitsStop : Stops Char.isDigit (fraction ++ (exponent ++ behind)) := by
    cases pointed with
    | absent => exact (stops_scaled scaled stops).1
    | digits => simp
  obtain ⟨digital, some, zeroAlone⟩ := integral
  obtain ⟨c, digits, rfl⟩ := List.exists_cons_of_ne_nil some
  obtain ⟨digit, digital⟩ := List.forall_mem_cons.mp digital
  by_cases zero : c = '0'
  · -- A zero in front stands alone, and what comes next is asked once more not to be a digit.
    subst zero
    cases zeroAlone rfl
    have rest := Cursor.rest_next here
    have noDigit : (cursor.next.rest.head?.getD ' ').isDigit = false := by
      rw [rest]
      cases whole : fraction ++ (exponent ++ behind) with
      | nil => rfl
      | cons c more => simpa using digitsStop c (by simp [whole])
    simpa [unsigned, here, noDigit] using behind_comes pointed scaled stops rest
  · have rest := rest_skipDigits_run digital digitsStop (cursor.rest_pass c _)
    simpa [unsigned, here, zero, digit] using behind_comes pointed scaled stops rest

theorem unsigned_came (skipped : unsigned cursor = .ok stop) :
    ∃ whole places fraction scale exponent, Whole whole ∧ Fraction places fraction ∧
      Exponent scale exponent ∧ cursor.rest = whole ++ (fraction ++ (exponent ++ stop.rest)) := by
  have found (whole : List Char) {start : Cursor} (integral : Whole whole)
      (here : cursor.rest = whole ++ start.rest)
      (skipped : skipNumber.behind start = .ok stop) :
      ∃ whole places fraction scale exponent, Whole whole ∧ Fraction places fraction ∧
        Exponent scale exponent ∧ cursor.rest = whole ++ (fraction ++ (exponent ++ stop.rest)) := by
    obtain ⟨places, fraction, scale, exponent, pointed, scaled, more⟩ := behind_came skipped
    exact ⟨whole, places, fraction, scale, exponent, integral, pointed, scaled, by rw [here, more]⟩
  unfold unsigned at skipped
  split at skipped
  next here =>
    split at skipped
    next => cases skipped
    next =>
      have zero : Whole ['0'] := ⟨by simp [AllDigits], by simp, fun _ => rfl⟩
      exact found _ zero (by simp [here, Cursor.rest_next here]) skipped
  next c rest notZero here =>
    split at skipped
    next digit =>
      refine found (c :: rest.takeWhile Char.isDigit) ⟨?_, by simp, ?_⟩ ?_ skipped
      · exact List.forall_mem_cons.mpr ⟨digit, fun c member => List.mem_takeWhile_imp member⟩
      · intro zero
        cases zero
        exact absurd rfl notZero
      · rw [here, rest_skipDigits _ (cursor.rest_pass c rest), List.cons_append,
          List.takeWhile_append_dropWhile]
    next => cases skipped
  next => cases skipped

theorem skipNumber_eq (cursor : Cursor) :
    skipNumber cursor =
      if cursor.rest.head? = some '-' then unsigned cursor.next else unsigned cursor := by
  unfold skipNumber
  split
  next here =>
    rw [here, List.head?_cons, if_pos rfl]
    rfl
  next noMinus =>
    have other : cursor.rest.head? ≠ some '-' := fun minus =>
      have ⟨rest, here⟩ := List.head?_eq_some_iff.mp minus
      noMinus rest here
    rw [if_neg other]
    rfl

theorem skipNumber_comes {negative : Bool} {magnitude : Decimal.Digits} {word : List Char}
    (spelled : Word (.number negative magnitude) word) (stops : Stops isWordChar behind)
    (here : cursor.rest = word ++ behind) : Comes (skipNumber cursor) behind := by
  cases spelled with
  | @number _ _ sign whole places fraction exponent signed integral pointed scaled =>
    have fromWhole {start : Cursor}
        (rest : start.rest = whole ++ (fraction ++ (exponent ++ behind))) :
        Comes (unsigned start) behind := unsigned_comes integral pointed scaled stops rest
    simp only [List.append_assoc] at here
    rw [skipNumber_eq]
    cases signed with
    | absent =>
      obtain ⟨c, more, begins, digit⟩ := integral.digital (fraction ++ (exponent ++ behind))
      have minus := (Jsonc.not_sign_of_isDigit digit).1
      rw [if_neg (by simpa [here, begins] using minus)]
      exact fromWhole here
    | plus allowed => cases allowed
    | minus =>
      rw [if_pos (by simp [here])]
      exact fromWhole (Cursor.rest_next here)

theorem skipNumber_came (skipped : skipNumber cursor = .ok stop) :
    ∃ negative magnitude word, Word (.number negative magnitude) word ∧
      cursor.rest = word ++ stop.rest := by
  obtain ⟨negative, sign, start, signed, here, skipped⟩ : ∃ negative sign, ∃ start : Cursor,
      Sign false negative sign ∧ cursor.rest = sign ++ start.rest ∧ unsigned start = .ok stop := by
    rw [skipNumber_eq] at skipped
    split at skipped
    next minus =>
      obtain ⟨rest, here⟩ := List.head?_eq_some_iff.mp minus
      exact ⟨_, _, _, .minus, by simp [Cursor.rest_next here, here], skipped⟩
    next => exact ⟨_, _, _, .absent, rfl, skipped⟩
  obtain ⟨whole, places, fraction, scale, exponent, integral, pointed, scaled, more⟩ :=
    unsigned_came skipped
  exact ⟨_, _, _, .number signed integral pointed scaled, by simp [here, more]⟩

end SymbolSearch.Json
