import Mathlib.Data.List.Forall2
import SymbolSearch.Proofs.Json.Skipping

set_option autoImplicit false

namespace SymbolSearch.Json

open Jsonc (Mark MarkFirst Reads Spelled Token Value Word plain)

structure Exactly {α : Type} (read : Reader α) (shape : Value → α → Prop) : Prop where
  finds : ∀ {value result tokens rest cursor}, shape value result →
    Reads false (.value value) tokens rest → MarkFirst rest → Ahead cursor tokens →
      ∃ stop, read cursor = .ok (result, stop) ∧ Ahead stop rest
  found : ∀ {result rest cursor stop}, read cursor = .ok (result, stop) → Ahead stop rest →
    ∃ value tokens, shape value result ∧ Reads false (.value value) tokens rest ∧
      Ahead cursor tokens

theorem Exactly.congr {α : Type} {read : Reader α} {shape other : Value → α → Prop}
    (exact : Exactly read shape) (same : ∀ value result, shape value result ↔ other value result) :
    Exactly read other := by
  obtain rfl : shape = other := funext fun value => funext fun result => propext (same value result)
  exact exact

namespace Reader

variable {α : Type} {read : Reader α} {shape : Value → α → Prop} {cursor stop : Cursor}
  {tokens rest : List Token}

theorem value_eq {c : Char} {more : List Char} (here : cursor.skipSpace.rest = c :: more) :
    value read cursor = read cursor.skipSpace := by
  simp [value, here]

theorem value_found {result : α} (found : value read cursor = .ok (result, stop)) :
    read cursor.skipSpace = .ok (result, stop) := by
  unfold value at found
  simp only at found
  split at found
  · cases found
  · exact found

def IsText (value : Value) (text : String) : Prop :=
  value = .scalar (.text (units text))

theorem text_exactly : Exactly text IsText where
  finds := by
    rintro _ result _ rest cursor rfl ⟨⟩ mark ahead
    obtain ⟨body, text, spelled, here, spaced⟩ := ahead.quoted
    obtain ⟨stop, read, same⟩ := textBody_finds spelled (Cursor.rest_next here)
    exact ⟨stop, by simp [Reader.text, value_eq here, here, read], by rwa [Ahead, same]⟩
  found := by
    intro result rest cursor stop found ahead
    have read := value_found found
    split at read
    next more quote =>
      obtain ⟨body, spelled, here⟩ := textBody_found read
      rw [Cursor.rest_next quote] at here
      exact ⟨_, _, rfl, .scalar, ahead_of_quoted spelled quote here ahead⟩
    next => cases read

inductive Nullable (shape : Value → α → Prop) : Value → Option α → Prop
  | null : Nullable shape (.scalar .null) none
  | some {value : Value} {found : α} (fits : shape value found) : Nullable shape value (some found)

theorem spelled_n {token : Token} {more : List Char}
    (spelled : Jsonc.Spelling token ('n' :: more)) :
    token = .scalar .null := by
  generalize same : 'n' :: more = spelling at spelled
  cases spelled with
  | mark mark => cases mark <;> cases same
  | text => cases same
  | word word =>
    cases word with
    | number signed integral =>
      obtain ⟨c, _, begins, number⟩ := Word.number_head signed integral _
      rw [begins] at same
      cases same
      exact absurd number (by decide)
    | _ => simp_all

theorem nullable_exactly (exact : Exactly read shape)
    (notNull : ∀ result, ¬ shape (.scalar .null) result) :
    Exactly (nullable read) (Nullable shape) where
  finds := by
    rintro _ _ _ rest cursor (_ | @⟨value, found, fits⟩) reads mark ahead
    · cases reads
      obtain ⟨_, text, spelled, here, spaced⟩ := ahead.spelled
      cases spelled with
      | word spelled =>
        cases spelled
        obtain ⟨stop, read, same⟩ := letters_comes (Cursor.rest_next here)
        exact ⟨stop, by simp [nullable, here, read, Except.map], by rwa [Ahead, same]⟩
    · obtain ⟨stop, read, behind⟩ := exact.finds fits reads mark ahead
      refine ⟨stop, ?_, behind⟩
      unfold nullable
      simp only
      split
      next more here =>
        -- The reader takes any word with this first letter for `null`, and there is no other.
        cases reads with
        | scalar =>
          obtain ⟨_, text, spelled, same, -⟩ := ahead.spelled
          obtain ⟨c, letters, rfl, -⟩ := spelled.head
          cases (List.cons.inj (here.symm.trans same)).1
          cases spelled_n spelled
          exact absurd fits (notNull _)
        | _ =>
          obtain ⟨⟨text, same⟩, -⟩ := Ahead.marked ahead
          cases here.symm.trans same
      next => simp [read, Except.map]
  found := by
    intro result rest cursor stop found ahead
    unfold nullable at found
    simp only at found
    split at found
    next more here =>
      obtain ⟨place, read, same⟩ := run_map found
      cases same
      have behind := letters_came read
      rw [Cursor.rest_next here] at behind
      exact ⟨_, _, .null, .scalar, ahead_of_spelled (.word .null) (by rw [here, behind]; rfl) ahead⟩
    next =>
      obtain ⟨⟨inner, place⟩, read, same⟩ := run_map found
      cases same
      obtain ⟨value, tokens, fits, reads, before⟩ := exact.found read ahead
      exact ⟨value, tokens, .some fits, reads, before⟩

theorem nextItem_closing (first : Bool) (ahead : Ahead cursor (.mark .closeArray :: rest)) :
    nextItem first cursor = .ok none ∧ ∃ stop, closeList cursor = .ok stop ∧ Ahead stop rest := by
  obtain ⟨⟨text, here⟩, ahead⟩ := ahead.marked
  exact ⟨by simp [nextItem, here, Mark.char], _, by simp [closeList, here, Mark.char], ahead⟩

theorem nextItem_separated {first : Bool} {token : Token} (goesOn : token.closes = false)
    (ahead : Ahead cursor (separated first (token :: rest))) :
    ∃ start, nextItem first cursor = .ok (some start) ∧ Ahead start (token :: rest) := by
  have begins {place : Cursor} (ahead : Ahead place (token :: rest)) :
      ∃ c more, place.skipSpace.rest = c :: more ∧ c ≠ ']' := by
    obtain ⟨_, text, spelled, here, -⟩ := ahead.spelled
    obtain ⟨c, more, rfl, -, closes⟩ := spelled.head
    refine ⟨c, more ++ text, here, ?_⟩
    rintro rfl
    rw [goesOn] at closes
    cases closes
  cases first with
  | true =>
    obtain ⟨c, more, here, noClose⟩ := begins ahead
    refine ⟨_, ?_, ahead.skipSpace⟩
    -- A comma in front of the first item is left for the reader of the item to refuse.
    by_cases comma : c = ','
    · simp [nextItem, here, comma]
    · simp [nextItem, here]
  | false =>
    obtain ⟨⟨text, here⟩, behind⟩ := Ahead.marked ahead
    obtain ⟨c, more, start, noClose⟩ := begins behind
    exact ⟨_, by simp [nextItem, here, Mark.char, start], behind.skipSpace⟩

theorem closeList_found (closed : closeList cursor = .ok stop) (ahead : Ahead stop rest) :
    Ahead cursor (.mark .closeArray :: rest) := by
  unfold closeList at closed
  simp only at closed
  split at closed
  next here =>
    cases closed
    exact ahead_of_mark .closeArray here ahead
  next => split at closed <;> cases closed
  next => cases closed
  next => cases closed

theorem nextItem_some {first : Bool} {start : Cursor}
    (next : nextItem first cursor = .ok (some start)) (ahead : Ahead start tokens) :
    Ahead cursor (separated first tokens) := by
  cases first with
  | true =>
    have same : start = cursor.skipSpace := by
      unfold nextItem at next
      simp only at next
      split at next <;> cases next <;> rfl
    exact ahead_of_skipSpace (same ▸ ahead)
  | false =>
    unfold nextItem at next
    simp only [Bool.false_eq_true, if_false] at next
    split at next
    next => cases next
    next here =>
      split at next
      next => cases next
      next =>
        cases next
        exact ahead_of_mark .comma here (ahead_of_skipSpace ahead)
      next => cases next
    next => cases next
    next => cases next

theorem items_finds (exact : Exactly read shape) {values : List Value} {found : List α}
    (each : List.Forall₂ shape values found) {first : Bool} {fuel : Nat} (before : List α)
    (listed : ItemTokens first values tokens rest) (ahead : Ahead cursor tokens)
    (enough : tokens.length < fuel) :
    ∃ stop, items read fuel first before cursor = .ok (before.reverse ++ found, stop) ∧
      Ahead stop rest := by
  induction each generalizing first fuel before tokens cursor with
  | nil =>
    obtain ⟨fuel, rfl⟩ := Nat.exists_eq_add_of_le' (show 1 ≤ fuel by omega)
    cases itemTokens_nil.mp listed
    obtain ⟨ended, stop, closed, ahead⟩ := nextItem_closing first ahead
    exact ⟨stop, by simp [items, ended, closed, bind, Except.bind], ahead⟩
  | @cons value result values found fits each ih =>
    obtain ⟨fuel, rfl⟩ := Nat.exists_eq_add_of_le' (show 1 ≤ fuel by omega)
    obtain ⟨more, middle, rfl, reads, others⟩ := itemTokens_cons.mp listed
    have fuelLeft : middle.length < fuel := by
      have shorter := reads_shorter reads
      have short := length_le_separated first more
      omega
    have goesOn := reads.not_closesFirst
    obtain ⟨token, more, rfl⟩ := List.exists_cons_of_ne_nil reads.ne_nil
    obtain ⟨start, next, ahead⟩ := nextItem_separated goesOn ahead
    obtain ⟨place, read, ahead⟩ := exact.finds fits reads others.markFirst ahead
    obtain ⟨stop, found, ahead⟩ := ih (result :: before) others ahead fuelLeft
    exact ⟨stop, by simpa [items, next, read, bind, Except.bind] using found, ahead⟩

theorem items_found (exact : Exactly read shape) {first : Bool} {fuel : Nat}
    {before results : List α}
    (found : items read fuel first before cursor = .ok (results, stop)) (ahead : Ahead stop rest) :
    ∃ values found tokens, results = before.reverse ++ found ∧ List.Forall₂ shape values found ∧
      ItemTokens first values tokens rest ∧ Ahead cursor tokens := by
  induction fuel generalizing first before cursor with
  | zero => cases found
  | succ fuel ih =>
    unfold items at found
    obtain ⟨next, nextRead, found⟩ := run_bind found
    cases next with
    | none =>
      obtain ⟨place, closed, found⟩ := run_bind found
      cases found
      exact ⟨[], [], _, by simp, .nil, itemTokens_nil.mpr rfl, closeList_found closed ahead⟩
    | some start =>
      obtain ⟨⟨item, place⟩, read, found⟩ := run_bind found
      obtain ⟨values, others, middle, rfl, each, listed, ahead⟩ := ih found
      obtain ⟨value, tokens, fits, reads, ahead⟩ := exact.found read ahead
      exact ⟨value :: values, item :: others, _, by simp, .cons fits each,
        itemTokens_cons.mpr ⟨tokens, middle, rfl, reads, listed⟩, nextItem_some nextRead ahead⟩

def ListOf (shape : Value → α → Prop) (value : Value) (found : List α) : Prop :=
  ∃ items, value = .array items ∧ List.Forall₂ shape items found

theorem list_exactly (exact : Exactly read shape) : Exactly (list read) (ListOf shape) where
  finds := by
    rintro _ found _ rest cursor ⟨values, rfl, each⟩ reads mark ahead
    obtain ⟨more, rfl, listed⟩ := reads_array.mp reads
    obtain ⟨⟨text, here⟩, ahead⟩ := ahead.marked
    have short := length_le_spaced ahead
    rw [Cursor.rest_next here] at short
    obtain ⟨stop, read, ahead⟩ := items_finds exact each [] listed ahead (Nat.lt_succ_of_le short)
    exact ⟨stop, by simpa [list, value_eq here, here, Mark.char] using read, ahead⟩
  found := by
    intro found rest cursor stop read ahead
    have read := value_found read
    split at read
    next more here =>
      obtain ⟨values, found, tokens, rfl, each, listed, ahead⟩ := items_found exact read ahead
      exact ⟨_, _, ⟨values, rfl, each⟩, reads_array.mpr ⟨tokens, rfl, listed⟩,
        ahead_of_mark .openArray here ahead⟩
    next => cases read

theorem ofText_eq_ok (exact : Exactly read shape) {text : String} {result : α} :
    ofText read text = .ok result ↔
      ∃ value, plain.Renders value text.toList ∧ shape value result := by
  constructor
  · intro found
    obtain ⟨⟨found, stop⟩, read, ended⟩ := run_bind found
    simp only at ended
    split at ended
    next nothing =>
      cases ended
      have ahead : Ahead stop [] := ahead_of_end (List.isEmpty_iff.mp nothing)
      obtain ⟨value, tokens, fits, reads, before⟩ := exact.found read ahead
      exact ⟨value, ⟨tokens, reads, before⟩, fits⟩
    next => cases ended
  · rintro ⟨value, ⟨tokens, reads, spaced⟩, fits⟩
    have ahead : Ahead (Cursor.ofText text) tokens := spaced
    obtain ⟨stop, read, ahead⟩ := exact.finds fits reads markFirst_nil ahead
    simp [ofText, read, ahead.end, bind, Except.bind]

end Reader

end SymbolSearch.Json
