import SymbolSearch.Json.Reader
import SymbolSearch.Proofs.Json.Words

set_option autoImplicit false

namespace SymbolSearch.Json

namespace Cursor

def lastLine (cursor : Cursor) : Nat :=
  cursor.line + cursor.rest.count '\n'

structure Precedes (cursor stop : Cursor) : Prop where
  line_le : cursor.line ≤ stop.line
  lastLine_eq : stop.lastLine = cursor.lastLine

structure Covers (cursor : Cursor) (line : Nat) : Prop where
  line_le : cursor.line ≤ line
  le_lastLine : line ≤ cursor.lastLine

variable {cursor middle stop : Cursor} {c : Char} {rest : List Char} {line : Nat}

theorem Precedes.refl (cursor : Cursor) : cursor.Precedes cursor :=
  ⟨Nat.le_refl _, rfl⟩

theorem Precedes.trans (first : cursor.Precedes middle) (second : middle.Precedes stop) :
    cursor.Precedes stop :=
  ⟨Nat.le_trans first.line_le second.line_le, second.lastLine_eq.trans first.lastLine_eq⟩

theorem Precedes.covers (precedes : cursor.Precedes stop) (covers : stop.Covers line) :
    cursor.Covers line :=
  ⟨Nat.le_trans precedes.line_le covers.line_le, precedes.lastLine_eq ▸ covers.le_lastLine⟩

theorem precedes_pass (here : cursor.rest = c :: rest) : cursor.Precedes (cursor.pass c rest) := by
  unfold pass
  split
  next newline => exact ⟨Nat.le_succ _, by simp [lastLine, here, newline]; omega⟩
  next other => exact ⟨Nat.le_refl _, by simp [lastLine, here, other]⟩

theorem precedes_next (cursor : Cursor) : cursor.Precedes cursor.next := by
  unfold next
  split
  · exact .refl cursor
  next here => exact precedes_pass here

theorem precedes_skipSpace (cursor : Cursor) : cursor.Precedes cursor.skipSpace := by
  have skips : ∀ (text : List Char) (cursor : Cursor), cursor.rest = text →
      cursor.Precedes (skipSpace.go text cursor) := by
    intro text
    induction text with
    | nil => exact fun cursor _ => .refl cursor
    | cons c rest ih =>
      intro cursor here
      rw [skipSpace.go]
      split
      · exact (precedes_pass here).trans (ih _ (rest_pass ..))
      · exact .refl cursor
  exact skips cursor.rest cursor rfl

theorem precedes_toEnd (cursor : Cursor) : cursor.Precedes cursor.toEnd := by
  have passes : ∀ (text : List Char) (cursor : Cursor), cursor.rest = text →
      cursor.Precedes (toEnd.go text cursor) := by
    intro text
    induction text with
    | nil => exact fun cursor _ => .refl cursor
    | cons c rest ih => exact fun cursor here => (precedes_pass here).trans (ih _ (rest_pass ..))
  exact passes cursor.rest cursor rfl

theorem covers_line (cursor : Cursor) : cursor.Covers cursor.line :=
  ⟨Nat.le_refl _, Nat.le_add_right ..⟩

theorem covers_faultAhead (cursor : Cursor) (cause : Cause) :
    cursor.Covers (cursor.faultAhead cause).line := by
  unfold faultAhead
  split
  · exact cursor.covers_line
  next here => exact ⟨Nat.le_succ _, by simp [lastLine, here]⟩
  · exact cursor.covers_line

theorem covers_faultBytes (cause : Cause) (count : Nat) {text : List Char}
    (here : cursor.rest = text) : cursor.Covers (cursor.faultBytes cause count text).line := by
  induction text generalizing cursor count with
  | nil => exact cursor.covers_line
  | cons c rest ih =>
    unfold faultBytes
    split
    · exact cursor.covers_line
    · split
      · exact cursor.covers_line
      · exact (precedes_pass here).covers (ih _ (rest_pass ..))

def Bounds {β : Type} (cursor : Cursor) (place : β → Cursor) : Except Fault β → Prop
  | .ok found => cursor.Precedes (place found)
  | .error fault => cursor.Covers fault.line

section Runs

variable {β γ : Type} {place : β → Cursor} {place' : γ → Cursor} {run : Except Fault β}

theorem Precedes.bounds (precedes : cursor.Precedes stop) (bounds : stop.Bounds place run) :
    cursor.Bounds place run := by
  cases run with
  | ok found => exact precedes.trans bounds
  | error fault => exact precedes.covers bounds

theorem Bounds.bind {next : β → Except Fault γ} (bounds : cursor.Bounds place run)
    (goesOn : ∀ found, (place found).Bounds place' (next found)) :
    cursor.Bounds place' (run >>= next) := by
  cases run with
  | ok found => exact Precedes.bounds bounds (goesOn found)
  | error fault => exact bounds

theorem Bounds.map {change : β → γ} (bounds : cursor.Bounds place run)
    (same : ∀ found, place' (change found) = place found) :
    cursor.Bounds place' (run.map change) := by
  cases run with
  | ok found =>
    rw [Bounds] at bounds
    simpa only [Except.map, Bounds, same] using bounds
  | error fault => exact bounds

theorem bounds_fault (cursor : Cursor) (place : β → Cursor) (cause : Cause) :
    cursor.Bounds place (.error (cursor.fault cause)) :=
  cursor.covers_line

theorem bounds_faultAhead (cursor : Cursor) (place : β → Cursor) (cause : Cause) :
    cursor.Bounds place (.error (cursor.faultAhead cause)) :=
  cursor.covers_faultAhead cause

end Runs

end Cursor

def KeepsToText {α : Type} (read : Reader α) : Prop :=
  ∀ cursor : Cursor, cursor.Bounds Prod.snd (read cursor)

open Cursor

variable {cursor : Cursor} {text : List Char}

theorem skipDigits_precedes (here : cursor.rest = text) :
    cursor.Precedes (skipDigits text cursor) := by
  induction text generalizing cursor with
  | nil => exact .refl cursor
  | cons c rest ih =>
    rw [skipDigits]
    split
    · exact (precedes_pass here).trans (ih (rest_pass ..))
    · exact .refl cursor

theorem countDigits_precedes (significand : Significand) (here : cursor.rest = text) :
    cursor.Precedes (countDigits significand text cursor).2 := by
  induction text generalizing cursor significand with
  | nil => exact .refl cursor
  | cons c rest ih =>
    rw [countDigits]
    split
    · exact (precedes_pass here).trans (ih _ (rest_pass ..))
    · exact .refl cursor

theorem wholeDigits_precedes (digits : Nat) (here : cursor.rest = text) :
    cursor.Precedes (wholeDigits digits text cursor).2.2 := by
  induction text generalizing cursor digits with
  | nil => exact .refl cursor
  | cons c rest ih =>
    rw [wholeDigits]
    split
    · exact .refl cursor
    · split
      · exact countDigits_precedes _ here
      · exact (precedes_pass here).trans (ih _ (rest_pass ..))

theorem fractionDigits_precedes (significand : Significand) (any : Bool)
    (here : cursor.rest = text) :
    cursor.Precedes (fractionDigits significand any text cursor).2.2 := by
  induction text generalizing cursor significand any with
  | nil => exact .refl cursor
  | cons c rest ih =>
    rw [fractionDigits]
    split
    · exact .refl cursor
    · split
      · exact skipDigits_precedes here
      · exact (precedes_pass here).trans (ih _ _ (rest_pass ..))

theorem exponentDigits_precedes (value : Nat) (here : cursor.rest = text) :
    cursor.Precedes (exponentDigits value text cursor).2 := by
  induction text generalizing cursor value with
  | nil => exact .refl cursor
  | cons c rest ih =>
    rw [exponentDigits]
    split
    · exact .refl cursor
    · split
      · exact precedes_pass here
      · exact (precedes_pass here).trans (ih _ (rest_pass ..))

theorem realNumber_keeps (negative : Bool) (significand : Significand) :
    KeepsToText (realNumber negative significand) := by
  intro cursor
  unfold realNumber
  split
  · exact Precedes.refl cursor
  · exact cursor.bounds_fault ..

theorem exponentPart_keeps (negative : Bool) (significand : Significand) :
    KeepsToText (exponentPart negative significand) := by
  intro cursor
  unfold exponentPart
  split
  next down start signed =>
  have precedes : cursor.Precedes start := by
    split at signed <;> cases signed
    · exact cursor.precedes_next
    · exact cursor.precedes_next
    · exact .refl cursor
  apply precedes.bounds
  split
  · exact bounds_fault ..
  next c rest here =>
    split
    · exact bounds_faultAhead ..
    next digit _ =>
      have digits := (precedes_pass here).trans
        (exponentDigits_precedes digit (rest_pass start c rest))
      split
      next stop read =>
        rw [read] at digits
        exact digits.bounds (realNumber_keeps ..)
      next stop read =>
        rw [read] at digits
        apply digits.bounds
        split
        · exact bounds_fault ..
        · exact skipDigits_precedes rfl

theorem fractionPart_keeps (negative : Bool) (significand : Significand) :
    KeepsToText (fractionPart negative significand) := by
  intro cursor
  have digits := fractionDigits_precedes significand false (rfl : cursor.rest = cursor.rest)
  unfold fractionPart
  split
  next stop read =>
    rw [read] at digits
    exact digits.bounds (bounds_faultAhead ..)
  next stop read =>
    rw [read] at digits
    apply digits.bounds
    split
    · exact stop.precedes_next.bounds (exponentPart_keeps ..)
    · exact stop.precedes_next.bounds (exponentPart_keeps ..)
    · exact realNumber_keeps ..

theorem behindWhole_keeps (negative : Bool) (significand : Significand) (long : Bool) :
    KeepsToText (behindWhole negative significand long) := by
  intro cursor
  unfold behindWhole
  split
  · exact cursor.precedes_next.bounds (fractionPart_keeps ..)
  · exact cursor.precedes_next.bounds (exponentPart_keeps ..)
  · exact cursor.precedes_next.bounds (exponentPart_keeps ..)
  · split
    · exact realNumber_keeps ..
    · split
      · exact .refl cursor
      · split <;> exact .refl cursor

theorem magnitude_keeps (negative : Bool) : KeepsToText (magnitude negative) := by
  intro cursor
  unfold magnitude
  split
  · exact bounds_fault ..
  · apply cursor.precedes_next.bounds
    simp only
    split
    · exact bounds_faultAhead ..
    · exact behindWhole_keeps ..
  next c rest _ here =>
    split
    · exact bounds_faultAhead ..
    next digit _ =>
      have digits := wholeDigits_precedes digit (rest_pass cursor c rest)
      exact ((precedes_pass here).trans digits).bounds (behindWhole_keeps ..)

theorem number_keeps : KeepsToText number := by
  intro cursor
  unfold number
  split
  · exact cursor.precedes_next.bounds (magnitude_keeps ..)
  · exact magnitude_keeps ..

theorem someDigits_bounds (cursor : Cursor) : cursor.Bounds id (someDigits cursor) := by
  unfold someDigits
  split
  · exact skipDigits_precedes rfl
  · exact bounds_faultAhead ..

theorem skipExponent_bounds (cursor : Cursor) : cursor.Bounds id (skipNumber.exponent cursor) := by
  unfold skipNumber.exponent
  simp only
  split
  · exact cursor.precedes_next.bounds (someDigits_bounds _)
  · exact cursor.precedes_next.bounds (someDigits_bounds _)
  · exact someDigits_bounds cursor

theorem scaling_bounds (cursor : Cursor) : cursor.Bounds id (scaling cursor) := by
  unfold scaling
  split
  · exact cursor.precedes_next.bounds (skipExponent_bounds _)
  · exact cursor.precedes_next.bounds (skipExponent_bounds _)
  · exact .refl cursor

theorem skipBehind_bounds (cursor : Cursor) : cursor.Bounds id (skipNumber.behind cursor) := by
  rw [skipNumber_behind_eq]
  split
  · exact cursor.precedes_next.bounds ((someDigits_bounds _).bind scaling_bounds)
  · exact scaling_bounds cursor

theorem unsigned_bounds (cursor : Cursor) : cursor.Bounds id (unsigned cursor) := by
  unfold unsigned
  split
  · apply cursor.precedes_next.bounds
    split
    · exact bounds_faultAhead ..
    · exact skipBehind_bounds _
  next c rest _ here =>
    split
    · exact ((precedes_pass here).trans (skipDigits_precedes (rest_pass ..))).bounds
        (skipBehind_bounds _)
    · exact bounds_faultAhead ..
  · exact bounds_fault ..

theorem skipNumber_bounds (cursor : Cursor) : cursor.Bounds id (skipNumber cursor) := by
  rw [skipNumber_eq]
  split
  · exact cursor.precedes_next.bounds (unsigned_bounds _)
  · exact unsigned_bounds cursor

theorem hexValue?_newline {c : Char} {value : Nat} (known : hexValue? c = some value) :
    c ≠ '\n' := by
  rintro rfl
  cases known

theorem hexEscape_keeps : KeepsToText hexEscape := by
  intro cursor
  have refuse : cursor.Bounds (Prod.snd : Nat × Cursor → Cursor)
      (if (cursor.rest.foldl (fun total c => total + c.utf8Size) 0) < 4 then
        .error (cursor.toEnd.fault .endOfString)
      else .error (cursor.faultBytes .invalidEscape 4 cursor.rest)) := by
    split
    · exact cursor.precedes_toEnd.bounds (bounds_fault ..)
    · exact covers_faultBytes _ _ rfl
  unfold hexEscape
  simp only
  split
  next a b c d rest here =>
    split
    next first second third fourth =>
      have first := hexValue?_newline first
      have second := hexValue?_newline second
      have third := hexValue?_newline third
      have fourth := hexValue?_newline fourth
      exact ⟨Nat.le_refl _, by simp [lastLine, here, first, second, third, fourth]⟩
    · exact refuse
  · exact refuse

theorem unicodeEscape_keeps : KeepsToText unicodeEscape := by
  intro cursor
  unfold unicodeEscape
  apply (hexEscape_keeps cursor).bind
  rintro ⟨first, cursor⟩
  simp only
  split
  · exact bounds_fault ..
  · split
    · exact .refl cursor
    · split
      · exact bounds_fault ..
      · apply cursor.precedes_next.bounds
        split
        · exact bounds_fault ..
        · apply (precedes_next _).bounds
          apply (hexEscape_keeps _).bind
          rintro ⟨second, cursor⟩
          simp only
          split
          · exact Precedes.refl cursor
          · exact bounds_fault ..
        · exact bounds_faultAhead ..
      · exact bounds_faultAhead ..

theorem escape_keeps : KeepsToText escape := by
  intro cursor
  unfold escape
  split
  · exact bounds_fault ..
  · exact cursor.precedes_next.bounds (unicodeEscape_keeps _)
  · split
    · exact cursor.precedes_next
    · exact bounds_faultAhead ..

theorem textFrom_keeps (fuel : Nat) (before : List Char) : KeepsToText (textFrom fuel before) := by
  induction fuel generalizing before with
  | zero => exact fun cursor => bounds_fault ..
  | succ fuel ih =>
    intro cursor
    unfold textFrom
    split
    · exact bounds_fault ..
    · exact cursor.precedes_next
    · apply cursor.precedes_next.bounds
      apply (escape_keeps _).bind
      exact fun found => ih _ _
    next here =>
      split
      · exact bounds_faultAhead ..
      · exact (precedes_pass here).bounds (ih _ _)

theorem textBody_keeps : KeepsToText textBody := by
  intro cursor
  unfold textBody
  apply (textFrom_keeps ..).bind
  exact fun found => Precedes.refl found.2

theorem skipEscape_bounds (cursor : Cursor) : cursor.Bounds id (skipEscape cursor) := by
  unfold skipEscape
  split
  · exact bounds_fault ..
  · apply cursor.precedes_next.bounds
    exact (hexEscape_keeps _).map fun _ => rfl
  · split
    · exact cursor.precedes_next
    · exact bounds_faultAhead ..

theorem skipTextFrom_bounds (fuel : Nat) (cursor : Cursor) :
    cursor.Bounds id (skipTextFrom fuel cursor) := by
  induction fuel generalizing cursor with
  | zero => exact bounds_fault ..
  | succ fuel ih =>
    unfold skipTextFrom
    split
    · exact bounds_fault ..
    · exact cursor.precedes_next
    · apply cursor.precedes_next.bounds
      exact (skipEscape_bounds _).bind ih
    next here =>
      split
      · exact bounds_fault ..
      · exact (precedes_pass here).bounds (ih _)

namespace Reader

theorem letters_bounds (word : List Char) (cursor : Cursor) :
    cursor.Bounds id (letters word cursor) := by
  induction word generalizing cursor with
  | nil => exact Precedes.refl cursor
  | cons letter more ih =>
    unfold letters
    split
    · exact bounds_fault ..
    next here =>
      split
      · exact (precedes_pass here).bounds (ih _)
      · exact bounds_faultAhead ..

theorem wrongType_covers (expected : String) (cursor : Cursor) :
    cursor.Covers (wrongType expected cursor).line := by
  unfold wrongType
  extract_lets shown
  have seen {run : Except Fault (Found × Cursor)} (bounds : cursor.Bounds Prod.snd run) :
      cursor.Covers (shown run).line := by
    cases run with
    | ok found => exact Precedes.covers bounds (covers_line _)
    | error fault => exact bounds
  split
  · exact seen (cursor.precedes_next.bounds ((letters_bounds ..).map fun _ => rfl))
  · exact seen (cursor.precedes_next.bounds ((letters_bounds ..).map fun _ => rfl))
  · exact seen (cursor.precedes_next.bounds ((letters_bounds ..).map fun _ => rfl))
  · exact seen (cursor.precedes_next.bounds ((textBody_keeps _).map fun _ => rfl))
  · exact cursor.covers_line
  · exact cursor.covers_line
  · split
    · exact seen ((number_keeps _).map fun _ => rfl)
    · exact covers_faultAhead ..
  · exact covers_faultAhead ..

variable {α : Type} {read : Reader α}

theorem value_keeps (keeps : KeepsToText read) : KeepsToText (value read) := by
  intro cursor
  unfold value
  apply cursor.precedes_skipSpace.bounds
  simp only
  split
  · exact bounds_fault ..
  · exact keeps _

theorem bool_keeps : KeepsToText bool := by
  apply value_keeps
  intro cursor
  dsimp only
  split
  · exact cursor.precedes_next.bounds ((letters_bounds ..).map fun _ => rfl)
  · exact cursor.precedes_next.bounds ((letters_bounds ..).map fun _ => rfl)
  · exact wrongType_covers ..

theorem text_keeps : KeepsToText Reader.text := by
  apply value_keeps
  intro cursor
  dsimp only
  split
  · exact cursor.precedes_next.bounds (textBody_keeps _)
  · exact wrongType_covers ..

theorem nullable_keeps (keeps : KeepsToText read) : KeepsToText (nullable read) := by
  intro cursor
  unfold nullable
  simp only
  split
  · apply cursor.precedes_skipSpace.bounds
    exact (precedes_next _).bounds ((letters_bounds ..).map fun _ => rfl)
  · exact (keeps cursor).map fun _ => rfl

theorem nextItem_bounds (first : Bool) (cursor : Cursor) :
    cursor.Bounds (·.getD cursor) (nextItem first cursor) := by
  unfold nextItem
  simp only
  split
  · exact Precedes.refl cursor
  · split
    · exact cursor.precedes_skipSpace
    · apply (cursor.precedes_skipSpace.trans (precedes_next _)).bounds
      apply (precedes_skipSpace _).bounds
      split
      · exact bounds_faultAhead ..
      · exact .refl _
      · exact bounds_fault ..
  · split
    · exact cursor.precedes_skipSpace
    · exact cursor.precedes_skipSpace.bounds (bounds_faultAhead ..)
  · exact cursor.precedes_skipSpace.bounds (bounds_fault ..)

theorem closeList_bounds (cursor : Cursor) : cursor.Bounds id (closeList cursor) := by
  unfold closeList
  apply cursor.precedes_skipSpace.bounds
  simp only
  split
  · exact precedes_next _
  · apply (precedes_next _).bounds
    apply (precedes_skipSpace _).bounds
    split <;> exact bounds_faultAhead ..
  · exact bounds_faultAhead ..
  · exact bounds_fault ..

theorem items_keeps (keeps : KeepsToText read) (fuel : Nat) (first : Bool) (before : List α) :
    KeepsToText (items read fuel first before) := by
  induction fuel generalizing first before with
  | zero => exact fun cursor => bounds_fault ..
  | succ fuel ih =>
    intro cursor
    unfold items
    apply (nextItem_bounds first cursor).bind
    intro next
    cases next with
    | none => exact (closeList_bounds cursor).bind fun stop => Precedes.refl stop
    | some start => exact (keeps start).bind fun found => ih _ _ _

theorem list_keeps (keeps : KeepsToText read) : KeepsToText (list read) := by
  apply value_keeps
  intro cursor
  dsimp only
  split
  · exact cursor.precedes_next.bounds (items_keeps keeps ..)
  · exact wrongType_covers ..

open skipValueFrom (skipRest inside)

structure SkipsInText (fuel : Nat) : Prop where
  value : ∀ opened (cursor : Cursor), cursor.Bounds id (skipValueFrom fuel opened cursor)
  behind : ∀ opened behindValue (cursor : Cursor),
    cursor.Bounds id (skipRest fuel opened behindValue cursor)
  inside : ∀ opened (cursor : Cursor), cursor.Bounds id (inside fuel opened cursor)

theorem skipsInText (fuel : Nat) : SkipsInText fuel := by
  -- Each of the three calls the others with less fuel, so one induction carries them all.
  induction fuel with
  | zero =>
    constructor
    case value => exact fun opened cursor => bounds_fault ..
    case behind =>
      intro opened behindValue cursor
      cases opened with
      | nil => exact Precedes.refl cursor
      | cons => exact bounds_fault ..
    case inside => exact fun opened cursor => bounds_fault ..
  | succ fuel ih =>
    constructor
    case value =>
      intro opened cursor
      unfold skipValueFrom
      apply cursor.precedes_skipSpace.bounds
      simp only
      split
      · exact bounds_fault ..
      · exact (precedes_next _).bounds ((letters_bounds ..).bind (ih.behind _ _))
      · exact (precedes_next _).bounds ((letters_bounds ..).bind (ih.behind _ _))
      · exact (precedes_next _).bounds ((letters_bounds ..).bind (ih.behind _ _))
      · exact (precedes_next _).bounds ((skipTextFrom_bounds ..).bind (ih.behind _ _))
      · split
        · exact (precedes_next _).bounds (ih.behind ..)
        · split
          · exact (skipNumber_bounds _).bind (ih.behind _ _)
          · exact bounds_faultAhead ..
    case behind =>
      intro opened behindValue cursor
      cases opened with
      | nil => exact Precedes.refl cursor
      | cons bracket outer =>
        unfold skipRest
        apply cursor.precedes_skipSpace.bounds
        simp only
        split
        · exact bounds_fault ..
        · split
          · exact (precedes_next _).bounds (ih.inside ..)
          · generalize (if bracket = '[' then ']' else '\x7d') = closing
            split
            · exact (precedes_next _).bounds (ih.behind ..)
            · split
              · exact bounds_faultAhead ..
              · exact ih.inside ..
    case inside =>
      intro opened cursor
      unfold inside
      split
      next none => cases none
      next less =>
        obtain rfl := Nat.succ.inj less
        apply cursor.precedes_skipSpace.bounds
        simp only
        split
        · apply (precedes_next _).bounds
          apply (skipTextFrom_bounds ..).bind
          intro stop
          apply stop.precedes_skipSpace.bounds
          split
          · exact (precedes_next _).bounds (ih.value ..)
          · exact bounds_faultAhead ..
          · exact bounds_fault ..
        · exact bounds_faultAhead ..
        · exact bounds_fault ..
      next less _ =>
        obtain rfl := Nat.succ.inj less
        exact ih.value ..

theorem nextMember_bounds (first : Bool) (cursor : Cursor) :
    cursor.Bounds (·.getD cursor) (nextMember first cursor) := by
  unfold nextMember
  simp only
  split
  · exact Precedes.refl cursor
  · exact cursor.precedes_skipSpace.bounds (bounds_fault ..)
  · split
    · split
      · exact cursor.precedes_skipSpace.trans (precedes_next _)
      · exact cursor.precedes_skipSpace.bounds (bounds_faultAhead ..)
    · split
      · apply (cursor.precedes_skipSpace.trans (precedes_next _)).bounds
        apply (precedes_skipSpace _).bounds
        split
        · exact precedes_next _
        · exact bounds_faultAhead ..
        · exact bounds_faultAhead ..
        · exact bounds_fault ..
      · exact cursor.precedes_skipSpace.bounds (bounds_faultAhead ..)

theorem colon_bounds (cursor : Cursor) : cursor.Bounds id (colon cursor) := by
  unfold colon
  apply cursor.precedes_skipSpace.bounds
  simp only
  split
  · exact precedes_next _
  · exact bounds_faultAhead ..
  · exact bounds_fault ..

theorem leaveObject_precedes (cursor : Cursor) : cursor.Precedes (leaveObject cursor) := by
  unfold leaveObject
  simp only
  split
  · exact cursor.precedes_skipSpace.trans (precedes_next _)
  · exact cursor.precedes_skipSpace

variable {σ : Type} {members : List (Member σ)}

theorem membersFrom_keeps (keeps : ∀ member ∈ members, KeepsToText member.read) (fuel : Nat)
    (first : Bool) (seen : List String) (record : σ) :
    KeepsToText (membersFrom members fuel first seen record) := by
  induction fuel generalizing first seen record with
  | zero => exact fun cursor => bounds_fault ..
  | succ fuel ih =>
    intro cursor
    unfold membersFrom
    apply (nextMember_bounds first cursor).bind
    intro next
    cases next with
    | none =>
      dsimp only
      split
      · exact (leaveObject_precedes cursor).bounds (bounds_fault ..)
      · exact leaveObject_precedes cursor
    | some start =>
      apply (textBody_keeps start).bind
      rintro ⟨name, stop⟩
      dsimp only
      split
      · apply (colon_bounds stop).bind
        intro behind
        exact ((skipsInText _).value _ behind).bind fun stop => ih _ _ _ stop
      next member known =>
        split
        · exact (leaveObject_precedes stop).bounds (bounds_fault ..)
        · apply (colon_bounds stop).bind
          intro behind
          apply (keeps member (List.mem_of_find?_eq_some known) behind).bind
          exact fun found => ih _ _ _ _

theorem positional_keeps (expected : String) (keeps : ∀ member ∈ members, KeepsToText member.read)
    (count : Nat) (record : σ) : KeepsToText (positional expected members count record) := by
  induction members generalizing count record with
  | nil => exact fun cursor => (closeList_bounds cursor).map fun _ => rfl
  | cons member members ih =>
    obtain ⟨own, keeps⟩ := List.forall_mem_cons.mp keeps
    intro cursor
    unfold positional
    apply (nextItem_bounds _ cursor).bind
    intro next
    cases next with
    | none =>
      dsimp only
      split
      · exact (closeList_bounds cursor).bind fun stop => bounds_fault ..
      · exact ih keeps _ _ cursor
    | some start => exact (own start).bind fun found => ih keeps _ _ _

theorem record_keeps (title : String) (initial : σ)
    (keeps : ∀ member ∈ members, KeepsToText member.read) :
    KeepsToText (record title members initial) := by
  apply value_keeps
  intro cursor
  dsimp only
  split
  · exact cursor.precedes_next.bounds (membersFrom_keeps keeps ..)
  · exact cursor.precedes_next.bounds (positional_keeps _ keeps ..)
  · exact wrongType_covers ..

theorem member_keeps {name : String} {store : α → σ → σ} {required : Bool}
    (keeps : KeepsToText read) : KeepsToText (Member.of name read store required).read :=
  fun cursor => (keeps cursor).map fun _ => rfl

theorem ofText_fault_line (keeps : KeepsToText read) {text : String} {fault : Fault}
    (failed : ofText read text = .error fault) :
    1 ≤ fault.line ∧ fault.line ≤ text.toList.count '\n' + 1 := by
  have covers : (Cursor.ofText text).Covers fault.line := by
    have bounds := keeps (Cursor.ofText text)
    rw [ofText] at failed
    cases run : read (Cursor.ofText text) with
    | error other =>
      rw [run] at failed bounds
      cases failed
      exact bounds
    | ok found =>
      rw [run] at failed bounds
      have precedes := Precedes.trans bounds found.2.precedes_skipSpace
      change (if found.2.skipSpace.rest.isEmpty then Except.ok found.1
        else .error (found.2.skipSpace.faultAhead .trailingCharacters)) = .error fault at failed
      split at failed <;> cases failed
      exact precedes.covers (covers_faultAhead ..)
  exact ⟨covers.line_le, by simpa [lastLine, Cursor.ofText, Nat.add_comm] using covers.le_lastLine⟩

end Reader

end SymbolSearch.Json
