import SymbolSearch.Json.Number
import SymbolSearch.Proofs.Json.Layout

set_option autoImplicit false

namespace SymbolSearch.Json

open Jsonc (Space Stops isWordChar)

namespace Cursor

@[simp] theorem rest_pass (cursor : Cursor) (c : Char) (rest : List Char) :
    (cursor.pass c rest).rest = rest := by
  unfold pass
  split <;> rfl

theorem rest_next {cursor : Cursor} {c : Char} {more : List Char}
    (here : cursor.rest = c :: more) : cursor.next.rest = more := by
  simp [next, here]

theorem rest_skipSpace_of_stops {cursor : Cursor} {gap text : List Char} (space : Space gap)
    (stop : Stops isSpace text) (here : cursor.rest = gap ++ text) :
    cursor.skipSpace.rest = text := by
  have skipped : ∀ (gap : List Char) (cursor : Cursor), Space gap → cursor.rest = gap ++ text →
      (skipSpace.go (gap ++ text) cursor).rest = text := by
    intro gap
    induction gap with
    | nil =>
      intro cursor _ here
      cases text with
      | nil => exact here
      | cons c more => simpa [skipSpace.go, (Jsonc.stops_cons _ _ _).mp stop] using here
    | cons c gap ih =>
      intro cursor space here
      obtain ⟨white, space⟩ := List.forall_mem_cons.mp space
      simpa [skipSpace.go, white] using ih _ space (rest_pass cursor c _)
  rw [skipSpace, here]
  exact skipped gap cursor space here

section Skipping

variable {cursor : Cursor} {gap more : List Char} {c : Char}

theorem rest_skipSpace (space : Space gap) (solid : isSpace c = false)
    (here : cursor.rest = gap ++ c :: more) : cursor.skipSpace.rest = c :: more :=
  rest_skipSpace_of_stops space ((Jsonc.stops_cons _ _ _).mpr solid) here

theorem rest_skipSpace_solid (solid : isSpace c = false) (here : cursor.rest = c :: more) :
    cursor.skipSpace.rest = c :: more :=
  rest_skipSpace space_nil solid here

theorem rest_skipSpace_end (space : Space gap) (here : cursor.rest = gap) :
    cursor.skipSpace.rest = [] :=
  rest_skipSpace_of_stops space (Jsonc.stops_nil _) (here.trans (List.append_nil gap).symm)

end Skipping

end Cursor

def Comes (run : Except Fault Cursor) (behind : List Char) : Prop :=
  ∃ stop, run = .ok stop ∧ stop.rest = behind

def Finds {α : Type} (run : Except Fault (α × Cursor)) (found : α) (behind : List Char) : Prop :=
  ∃ stop, run = .ok (found, stop) ∧ stop.rest = behind

section Runs

variable {α β : Type} {found : α} {result : β} {behind rest : List Char}

theorem Finds.bind {run : Except Fault (α × Cursor)}
    {next : α × Cursor → Except Fault (β × Cursor)} (finds : Finds run found behind)
    (goesOn : ∀ stop : Cursor, stop.rest = behind → Finds (next (found, stop)) result rest) :
    Finds (run >>= next) result rest := by
  obtain ⟨stop, ran, here⟩ := finds
  exact ran ▸ goesOn stop here

theorem Finds.map {run : Except Fault (α × Cursor)} {change : α → β}
    (finds : Finds run found behind) :
    Finds (run.map fun (found, stop) => (change found, stop)) (change found) behind := by
  obtain ⟨stop, ran, here⟩ := finds
  exact ⟨stop, ran ▸ rfl, here⟩

theorem run_bind {run : Except Fault α} {next : α → Except Fault β}
    (ran : run >>= next = .ok result) : ∃ found, run = .ok found ∧ next found = .ok result := by
  cases run with
  | error fault => cases ran
  | ok found => exact ⟨found, rfl, ran⟩

end Runs

def readDigits (value : Nat) (digits : List Char) : Nat :=
  digits.foldl (fun total c => total * 10 + (c.toNat - 48)) value

theorem le_readDigits (value : Nat) (digits : List Char) : value ≤ readDigits value digits := by
  induction digits generalizing value with
  | nil => exact Nat.le_refl value
  | cons c digits ih => exact Nat.le_trans (by omega) (ih (value * 10 + (c.toNat - 48)))

theorem wholeDigits_finds {digits : List Char} {value : Nat} {cursor : Cursor}
    {behind : List Char} (digital : Jsonc.AllDigits digits)
    (small : readDigits value digits < wordLimit) (stop : Stops Char.isDigit behind)
    (here : cursor.rest = digits ++ behind) :
    ∃ stop, wholeDigits value (digits ++ behind) cursor =
      ({ digits := readDigits value digits, exponent := 0 }, false, stop) ∧
        stop.rest = behind := by
  induction digits generalizing value cursor with
  | nil =>
    refine ⟨cursor, ?_, here⟩
    cases behind with
    | nil => rfl
    | cons c more => simp [wholeDigits, digitOf?, (Jsonc.stops_cons _ _ _).mp stop, readDigits]
  | cons c digits ih =>
    obtain ⟨digit, digital⟩ := List.forall_mem_cons.mp digital
    have fits : overflows value (c.toNat - 48) = false := by
      have below := le_readDigits (value * 10 + (c.toNat - 48)) digits
      exact decide_eq_false (Nat.not_le.mpr (Nat.lt_of_le_of_lt below small))
    simpa [wholeDigits, digitOf?, digit, fits, readDigits] using
      ih digital small (cursor.rest_pass c _)

theorem ends_number {c : Char} {text : List Char} (stop : Stops isWordChar (c :: text)) :
    c ≠ '.' ∧ c ≠ 'e' ∧ c ≠ 'E' := by
  refine ⟨?_, ?_, ?_⟩ <;> rintro rfl <;> cases (Jsonc.stops_cons _ _ _).mp stop

theorem behindWhole_finds (digits : Nat) {cursor : Cursor} {behind : List Char}
    (stop : Stops isWordChar behind) (here : cursor.rest = behind) :
    Finds (behindWhole false { digits, exponent := 0 } false cursor) (.natural digits) behind := by
  refine ⟨cursor, ?_, here⟩
  cases behind with
  | nil => simp [behindWhole, here]
  | cons c more => simp [behindWhole, here, ends_number stop]

theorem stops_isDigit {text : List Char} (stop : Stops isWordChar text) :
    Stops Char.isDigit text := by
  intro c head
  rw [Bool.eq_false_iff]
  intro digit
  exact Bool.false_ne_true ((stop c head).symm.trans (Jsonc.isWordChar_of_isDigit digit))

theorem magnitude_finds {value : Nat} {cursor : Cursor} {behind : List Char}
    (small : value < wordLimit) (stop : Stops isWordChar behind)
    (here : cursor.rest = Nat.toDigits 10 value ++ behind) :
    Finds (magnitude false cursor) (.natural value) behind := by
  by_cases zero : value = 0
  -- A zero stands alone; the first digit of another number is taken apart from the rest.
  · subst zero
    have behindZero : cursor.next.rest = behind := Cursor.rest_next here
    have noDigit : (behind.head?.getD ' ').isDigit = false := by
      cases behind with
      | nil => rfl
      | cons c more => exact (Jsonc.stops_cons _ _ _).mp (stops_isDigit stop)
    simpa [magnitude, here, behindZero, noDigit] using
      behindWhole_finds 0 stop behindZero
  · have integral := toDigits_whole value
    have value' := digitsValue_toDigits value
    have head := toDigits_head zero
    obtain ⟨c, digits, same⟩ := List.exists_cons_of_ne_nil integral.2.1
    rw [same] at here value' head
    obtain ⟨digit, digital⟩ := List.forall_mem_cons.mp (same ▸ integral.1)
    have total : readDigits (c.toNat - 48) digits = value := by
      simpa [readDigits, Jsonc.digitsValue] using value'
    obtain ⟨place, read, rest⟩ := wholeDigits_finds digital (total ▸ small) (stops_isDigit stop)
      (cursor.rest_pass c _)
    have notZero : c ≠ '0' := by simpa using head
    rw [total] at read
    simpa [magnitude, here, notZero, digitOf?, digit, read] using
      behindWhole_finds value stop rest

theorem number_finds {value : Nat} {cursor : Cursor} {behind : List Char}
    (small : value < wordLimit) (stop : Stops isWordChar behind)
    (here : cursor.rest = Nat.toDigits 10 value ++ behind) :
    Finds (number cursor) (.natural value) behind := by
  obtain ⟨c, more, begins, digit⟩ := (toDigits_whole value).digital behind
  have unsigned := (Jsonc.not_sign_of_isDigit digit).1
  simpa [number, here, begins, unsigned] using magnitude_finds small stop here

end SymbolSearch.Json
