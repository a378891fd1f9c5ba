import SymbolSearch.Proofs.Json.Scanning

set_option autoImplicit false

namespace SymbolSearch.Json

open Jsonc (Piece Spelled codeUnits)

inductive Hex : Nat → List Char → Prop
  | digits {a b c d : Char} {p q r s : Nat} (first : hexValue? a = some p)
      (second : hexValue? b = some q) (third : hexValue? c = some r)
      (fourth : hexValue? d = some s) :
      Hex (((p * 16 + q) * 16 + r) * 16 + s) [a, b, c, d]

inductive Spells (c : Char) : List Char → Prop
  | plain (printable : 0x20 ≤ c.toNat) (quote : c ≠ '"') (backslash : c ≠ '\\') : Spells c [c]
  | short {letter : Char} (known : unescape? letter = some c) : Spells c ['\\', letter]
  | unit {unit : Nat} {digits : List Char} (hex : Hex unit digits) (meant : codeUnits c = [unit]) :
      Spells c ('\\' :: 'u' :: digits)
  | pair {high low : Nat} {first second : List Char} (leading : Hex high first)
      (trailing : Hex low second) (meant : codeUnits c = [high, low]) :
      Spells c ('\\' :: 'u' :: (first ++ '\\' :: 'u' :: second))

theorem Spells.shape {c : Char} {piece : List Char} (spells : Spells c piece) :
    (piece = [c] ∧ 0x20 ≤ c.toNat ∧ c ≠ '"' ∧ c ≠ '\\') ∨ ∃ text, piece = '\\' :: text := by
  cases spells with
  | plain printable quote backslash => exact .inl ⟨rfl, printable, quote, backslash⟩
  | _ => exact .inr ⟨_, rfl⟩

inductive SpellsAll : List Char → List Char → Prop
  | nil : SpellsAll [] []
  | cons {c : Char} {chars piece body : List Char} (first : Spells c piece)
      (rest : SpellsAll chars body) : SpellsAll (c :: chars) (piece ++ body)

theorem hexValue?_lt {c : Char} {value : Nat} (known : hexValue? c = some value) : value < 16 := by
  simp only [hexValue?, Char.isDigit, Char.le_def, Bool.and_eq_true, decide_eq_true_eq,
    UInt32.le_iff_toNat_le, ge_iff_le, Char.reduceVal, UInt32.reduceToNat, Char.toNat_val] at known
  split at known
  · cases known
    omega
  · split at known
    · cases known
      omega
    · split at known <;> cases known
      omega

theorem Hex.lt {unit : Nat} {digits : List Char} (hex : Hex unit digits) : unit < 0x10000 := by
  cases hex with
  | digits first second third fourth =>
    have first := hexValue?_lt first
    have second := hexValue?_lt second
    have third := hexValue?_lt third
    have fourth := hexValue?_lt fourth
    omega

def paired (high low : Nat) : Nat :=
  0x10000 + (high - 0xD800) * 0x400 + (low - 0xDC00)

theorem codeUnits_cases (c : Char) :
    (codeUnits c = [c.toNat] ∧ isLeading c.toNat = false ∧ isTrailing c.toNat = false) ∨
      ∃ high low, codeUnits c = [high, low] ∧ c.toNat = paired high low ∧
        isLeading high = true ∧ isTrailing low = true := by
  have valid : c.toNat < 0xD800 ∨ 0xDFFF < c.toNat ∧ c.toNat < 0x110000 := c.valid
  unfold codeUnits
  split
  · refine .inl ⟨rfl, ?_, ?_⟩ <;> simp [isLeading, isTrailing] <;> omega
  · refine .inr ⟨_, _, rfl, ?_, ?_, ?_⟩
    · unfold paired
      omega
    · simp [isLeading]
      omega
    · simp [isTrailing]
      omega

theorem codeUnits_ne_nil (c : Char) : codeUnits c ≠ [] := by
  rcases codeUnits_cases c with ⟨one, _⟩ | ⟨_, _, two, _⟩ <;> simp_all

theorem not_leading_of_trailing {unit : Nat} (trailing : isTrailing unit = true) :
    isLeading unit = false := by
  simp only [isTrailing, isLeading, Bool.and_eq_true, decide_eq_true_eq] at *
  simp
  omega

theorem codeUnits_unique {c d : Char} {units more : List Nat}
    (same : codeUnits c ++ units = codeUnits d ++ more) : c = d ∧ units = more := by
  rcases codeUnits_cases c with ⟨one, notLeading, _⟩ | ⟨high, low, two, value, leading, _⟩ <;>
    rcases codeUnits_cases d with ⟨one', notLeading', _⟩ | ⟨high', low', two', value', leading', _⟩
  · rw [one, one'] at same
    obtain ⟨number, behind⟩ := List.cons.inj same
    exact ⟨Char.toNat_inj.mp number, behind⟩
  · rw [one, two'] at same
    rw [(List.cons.inj same).1, leading'] at notLeading
    cases notLeading
  · rw [two, one'] at same
    rw [← (List.cons.inj same).1, leading] at notLeading'
    cases notLeading'
  · obtain ⟨rfl, rfl, behind⟩ : high = high' ∧ low = low' ∧ units = more := by
      simpa [two, two'] using same
    exact ⟨Char.toNat_inj.mp (value.trans value'.symm), behind⟩

theorem codeUnits_ne_trailing {c : Char} {low : Nat} {units more : List Nat}
    (trailing : isTrailing low = true) : codeUnits c ++ units ≠ low :: more := by
  intro same
  rcases codeUnits_cases c with ⟨one, _, notTrailing⟩ | ⟨high, _, two, _, leading, _⟩
  · rw [one] at same
    rw [(List.cons.inj same).1, trailing] at notTrailing
    cases notTrailing
  · rw [two] at same
    rw [(List.cons.inj same).1, not_leading_of_trailing trailing] at leading
    cases leading

theorem piece_ne_nil {units : List Nat} {piece : List Char} (spelling : Piece units piece) :
    units ≠ [] := by
  cases spelling with
  | plain => exact codeUnits_ne_nil _
  | short => exact codeUnits_ne_nil _
  | hex => exact List.cons_ne_nil _ _

theorem Spells.pieces {c : Char} {piece : List Char} (spells : Spells c piece)
    {units : List Nat} {body : List Char} (rest : Spelled units body) :
    Spelled (codeUnits c ++ units) (piece ++ body) := by
  cases spells with
  | plain printable quote backslash => exact .cons (.plain printable quote backslash) rest
  | short known => exact .cons (.short known) rest
  | unit hex meant =>
    obtain ⟨first, second, third, fourth⟩ := hex
    rw [meant]
    exact .cons (.hex first second third fourth) rest
  | pair leading trailing meant =>
    obtain ⟨first, second, third, fourth⟩ := leading
    obtain ⟨first', second', third', fourth'⟩ := trailing
    rw [meant]
    simpa using Spelled.cons (.hex first second third fourth)
      (.cons (.hex first' second' third' fourth') rest)

theorem spelled_cases {units : List Nat} {body : List Char} (spelled : Spelled units body) :
    units = [] ∧ body = [] ∨ ∃ first more piece behind, units = first ++ more ∧
      body = piece ++ behind ∧ Piece first piece ∧ Spelled more behind := by
  cases spelled with
  | nil => exact .inl ⟨rfl, rfl⟩
  | cons first rest => exact .inr ⟨_, _, _, _, rfl, rfl, first, rest⟩

theorem spelled_first {c : Char} {units : List Nat} {body : List Char}
    (spelled : Spelled (codeUnits c ++ units) body) :
    ∃ piece behind, body = piece ++ behind ∧ Spells c piece ∧ Spelled units behind := by
  obtain ⟨none, -⟩ | ⟨first, more, piece, behind, whole, rfl, spelling, rest⟩ :=
    spelled_cases spelled
  · exact absurd none (by simp [codeUnits_ne_nil])
  cases spelling with
  | plain printable quote backslash =>
    obtain ⟨rfl, rfl⟩ := codeUnits_unique whole
    exact ⟨_, _, rfl, .plain printable quote backslash, rest⟩
  | short known =>
    obtain ⟨rfl, rfl⟩ := codeUnits_unique whole
    exact ⟨_, _, rfl, .short known, rest⟩
  | hex first second third fourth =>
    have leading := Hex.digits first second third fourth
    rcases codeUnits_cases c with ⟨one, _⟩ | ⟨high, low, two, _, _, isLow⟩
    · obtain ⟨number, rfl⟩ : c.toNat = _ ∧ units = more := by simpa [one] using whole
      exact ⟨_, _, rfl, .unit leading (one.trans (by rw [number])), rest⟩
    · obtain ⟨rfl, rfl⟩ : high = _ ∧ low :: units = more := by simpa [two] using whole
      -- What comes next spells the second half, so it is an escape as well.
      obtain ⟨none, -⟩ | ⟨_, _, _, behind, half, rfl, spelling, rest⟩ := spelled_cases rest
      · cases none
      cases spelling with
      | plain => exact absurd half.symm (codeUnits_ne_trailing isLow)
      | short => exact absurd half.symm (codeUnits_ne_trailing isLow)
      | hex first' second' third' fourth' =>
        obtain ⟨rfl, rfl⟩ := List.cons.inj half
        exact ⟨_, behind, by simp, .pair leading (.digits first' second' third' fourth') two, rest⟩

theorem spelled_iff {chars body : List Char} :
    Spelled (chars.flatMap codeUnits) body ↔ SpellsAll chars body := by
  constructor
  · intro spelled
    induction chars generalizing body with
    | nil =>
      obtain ⟨-, rfl⟩ | ⟨first, more, _, _, none, -, spelling, -⟩ := spelled_cases spelled
      · exact .nil
      · obtain ⟨rfl, -⟩ := List.append_eq_nil_iff.mp none.symm
        exact absurd rfl (piece_ne_nil spelling)
    | cons c chars ih =>
      obtain ⟨piece, behind, rfl, spells, rest⟩ := spelled_first spelled
      exact .cons spells (ih rest)
  · intro all
    induction all with
    | nil => exact .nil
    | cons first _ ih => exact first.pieces ih

section Escapes

variable {cursor stop : Cursor} {unit : Nat} {c : Char} {text behind : List Char}

theorem hexEscape_finds (hex : Hex unit text) (here : cursor.rest = text ++ behind) :
    Finds (hexEscape cursor) unit behind := by
  obtain ⟨first, second, third, fourth⟩ := hex
  simp [Finds, hexEscape, here, first, second, third, fourth]

theorem hexEscape_found (read : hexEscape cursor = .ok (unit, stop)) :
    ∃ digits, Hex unit digits ∧ cursor.rest = digits ++ stop.rest := by
  obtain ⟨fault, refused⟩ : ∃ fault : Fault,
      (if (cursor.rest.foldl (fun total c => total + c.utf8Size) 0) < 4 then
        Except.error (cursor.toEnd.fault .endOfString)
      else .error (cursor.faultBytes .invalidEscape 4 cursor.rest)) =
        (.error fault : Except Fault (Nat × Cursor)) := by
    split <;> exact ⟨_, rfl⟩
  simp only [hexEscape, refused] at read
  split at read
  next a b c d rest here =>
    split at read
    next first second third fourth =>
      cases read
      exact ⟨_, .digits first second third fourth, here⟩
    next => cases read
  next => cases read

theorem codeUnits_unit (meant : codeUnits c = [unit]) :
    unit = c.toNat ∧ isLeading unit = false ∧ isTrailing unit = false := by
  obtain ⟨one, notLeading, notTrailing⟩ | ⟨_, _, two, _⟩ := codeUnits_cases c
  · cases one.symm.trans meant
    exact ⟨rfl, notLeading, notTrailing⟩
  · cases two.symm.trans meant

theorem codeUnits_pair {high low : Nat} (meant : codeUnits c = [high, low]) :
    c.toNat = paired high low ∧ isLeading high = true ∧ isTrailing low = true := by
  obtain ⟨one, _⟩ | ⟨_, _, two, value, leading, trailing⟩ := codeUnits_cases c
  · cases one.symm.trans meant
  · cases two.symm.trans meant
    exact ⟨value, leading, trailing⟩

theorem escape_finds (spells : Spells c ('\\' :: text)) (here : cursor.rest = text ++ behind) :
    Finds (escape cursor) c behind := by
  cases spells with
  | plain _ _ backslash => exact absurd rfl backslash
  | @short letter known =>
    have notUnit : letter ≠ 'u' := by
      rintro rfl
      cases known
    exact ⟨cursor.next, by simp [escape, here, known], Cursor.rest_next here⟩
  | @unit unit digits hex meant =>
    obtain ⟨rfl, notLeading, notTrailing⟩ := codeUnits_unit meant
    obtain ⟨stop, read, rest⟩ := hexEscape_finds hex (Cursor.rest_next here)
    exact ⟨stop, by simp [escape, here, unicodeEscape, read, notLeading, notTrailing, bind,
      Except.bind], rest⟩
  | @pair high low first second leading trailing meant =>
    obtain ⟨value, isHigh, isLow⟩ := codeUnits_pair meant
    have whole : Char.ofNat (paired high low) = c := by rw [← value, Char.ofNat_toNat]
    unfold paired at whole
    have apart : isTrailing high = false := by
      rw [Bool.eq_false_iff]
      intro trailing
      rw [not_leading_of_trailing trailing] at isHigh
      cases isHigh
    obtain ⟨middle, read, rest⟩ := hexEscape_finds leading (Cursor.rest_next (by simpa using here))
    have atUnit := Cursor.rest_next rest
    obtain ⟨stop, read', rest'⟩ := hexEscape_finds trailing (Cursor.rest_next atUnit)
    refine ⟨stop, ?_, rest'⟩
    simp only [escape, here, List.cons_append, unicodeEscape, read, read', rest, atUnit, apart,
      isHigh, isLow, whole, bind, Except.bind, Bool.not_true, Bool.false_eq_true, if_false,
      if_true]

theorem toNat_ofNat (valid : unit.isValidChar) : (Char.ofNat unit).toNat = unit := by
  unfold Char.ofNat
  rw [dif_pos valid]
  rfl

theorem codeUnits_ofNat_single (small : unit < 0x10000) (notLeading : isLeading unit = false)
    (notTrailing : isTrailing unit = false) : codeUnits (Char.ofNat unit) = [unit] := by
  simp only [isLeading, isTrailing, Bool.and_eq_false_iff, decide_eq_false_iff_not] at *
  have valid : unit.isValidChar := by
    unfold Nat.isValidChar
    omega
  rw [codeUnits, toNat_ofNat valid, if_pos small]

theorem codeUnits_ofNat_paired {high low : Nat} (leading : isLeading high = true)
    (trailing : isTrailing low = true) :
    codeUnits (Char.ofNat (paired high low)) = [high, low] := by
  simp only [isLeading, isTrailing, Bool.and_eq_true, decide_eq_true_eq] at *
  have valid : (paired high low).isValidChar := by
    unfold Nat.isValidChar paired
    omega
  have whole := toNat_ofNat valid
  unfold paired at whole ⊢
  rw [codeUnits, whole, if_neg (by omega), List.cons.injEq, List.cons.injEq]
  exact ⟨by omega, by omega, rfl⟩

theorem unicodeEscape_found (read : unicodeEscape cursor = .ok (c, stop)) :
    ∃ digits, Spells c ('\\' :: 'u' :: digits) ∧ cursor.rest = digits ++ stop.rest := by
  obtain ⟨⟨unit, behindFirst⟩, first, read⟩ := run_bind read
  obtain ⟨digits, hex, here⟩ := hexEscape_found first
  simp only at read
  split at read
  · cases read
  next notTrailing =>
    split at read
    next notLeading =>
      cases read
      exact ⟨digits, .unit hex (codeUnits_ofNat_single hex.lt (by simpa using notLeading)
        (by simpa using notTrailing)), here⟩
    next leading =>
      split at read
      · cases read
      next more atBackslash =>
        split at read
        · cases read
        next rest atUnit =>
          obtain ⟨⟨low, behindSecond⟩, second, read⟩ := run_bind read
          obtain ⟨others, hex', here'⟩ := hexEscape_found second
          simp only at read
          split at read
          next trailing =>
            obtain ⟨rfl, rfl⟩ := Prod.mk.inj (Except.ok.inj read)
            have meant := codeUnits_ofNat_paired (by simpa using leading) trailing
            unfold paired at meant
            refine ⟨_, .pair hex hex' meant, ?_⟩
            rw [Cursor.rest_next atUnit] at here'
            rw [Cursor.rest_next atBackslash] at atUnit
            simp [here, atBackslash, atUnit, here']
          · cases read
        · cases read
      · cases read

theorem escape_found (read : escape cursor = .ok (c, stop)) :
    ∃ text, Spells c ('\\' :: text) ∧ cursor.rest = text ++ stop.rest := by
  unfold escape at read
  split at read
  · cases read
  next rest here =>
    obtain ⟨digits, spells, behind⟩ := unicodeEscape_found read
    rw [Cursor.rest_next here] at behind
    exact ⟨'u' :: digits, spells, by rw [here, behind, List.cons_append]⟩
  next letter rest _ here =>
    split at read
    next known =>
      cases read
      exact ⟨[letter], .short known, by rw [here, Cursor.rest_next here, List.singleton_append]⟩
    · cases read

end Escapes

section Texts

variable {cursor stop : Cursor} {chars before : List Char} {fuel : Nat} {behind : List Char}

theorem SpellsAll.length_le {body : List Char} (spells : SpellsAll chars body) :
    chars.length ≤ body.length := by
  induction spells with
  | nil => exact Nat.le_refl 0
  | cons first _ ih =>
    rw [List.length_append, List.length_cons]
    obtain ⟨rfl, -⟩ | ⟨text, rfl⟩ := first.shape <;> rw [List.length_cons] <;> omega

theorem textFrom_finds {body : List Char} (before : List Char) (spells : SpellsAll chars body)
    (enough : chars.length < fuel) (here : cursor.rest = body ++ '"' :: behind) :
    Finds (textFrom fuel before cursor) (before.reverse ++ chars) behind := by
  induction spells generalizing fuel before cursor with
  | nil =>
    obtain _ | fuel := fuel
    · simp at enough
    · exact ⟨cursor.next, by simp [textFrom, here], Cursor.rest_next here⟩
  | @cons c chars piece body first rest ih =>
    obtain _ | fuel := fuel
    · simp at enough
    have more {stop : Cursor} (behindChar : stop.rest = body ++ '"' :: behind) :
        Finds (textFrom fuel (c :: before) stop) (before.reverse ++ c :: chars) behind := by
      simpa using ih (c :: before) (Nat.lt_of_succ_lt_succ enough) behindChar
    rw [List.append_assoc] at here
    obtain ⟨rfl, printable, quote, backslash⟩ | ⟨text, rfl⟩ := first.shape
    · simpa [textFrom, here, quote, backslash, Nat.not_lt.mpr printable] using
        more (cursor.rest_pass c _)
    · have read := escape_finds first (Cursor.rest_next here)
      simpa [textFrom, here] using read.bind fun _ rest => more rest

theorem textFrom_found {found : List Char}
    (read : textFrom fuel before cursor = .ok (found, stop)) :
    ∃ chars body, SpellsAll chars body ∧ found = before.reverse ++ chars ∧
      cursor.rest = body ++ '"' :: stop.rest := by
  induction fuel generalizing before cursor with
  | zero => cases read
  | succ fuel ih =>
    unfold textFrom at read
    split at read
    · cases read
    next rest here =>
      cases read
      exact ⟨[], [], .nil, by simp, by rw [here, Cursor.rest_next here, List.nil_append]⟩
    next rest here =>
      obtain ⟨⟨c, middle⟩, escaped, read⟩ := run_bind read
      obtain ⟨text, spells, behind⟩ := escape_found escaped
      obtain ⟨chars, body, all, rfl, behind'⟩ := ih read
      rw [Cursor.rest_next here] at behind
      exact ⟨c :: chars, _, .cons spells all, by simp, by simp [here, behind, behind']⟩
    next c rest quote backslash here =>
      split at read
      · cases read
      next printable =>
        obtain ⟨chars, body, all, rfl, behind⟩ := ih read
        rw [Cursor.rest_pass] at behind
        have plain : Spells c [c] := .plain (by omega) quote backslash
        exact ⟨c :: chars, _, .cons plain all, by simp, by simp [here, behind]⟩

theorem textBody_finds {text : String} {body : List Char} (spelled : Spelled (units text) body)
    (here : cursor.rest = body ++ '"' :: behind) : Finds (textBody cursor) text behind := by
  have spells := spelled_iff.mp spelled
  have enough : text.toList.length < cursor.rest.length + 1 := by
    have short := spells.length_le
    rw [here, List.length_append]
    omega
  obtain ⟨stop, read, rest⟩ := textFrom_finds [] spells enough here
  exact ⟨stop, by simp [textBody, read, bind, Except.bind], rest⟩

theorem textBody_found {text : String} (read : textBody cursor = .ok (text, stop)) :
    ∃ body, Spelled (units text) body ∧ cursor.rest = body ++ '"' :: stop.rest := by
  obtain ⟨⟨chars, place⟩, found, read⟩ := run_bind read
  obtain ⟨_, body, spells, rfl, here⟩ := textFrom_found found
  cases read
  exact ⟨body, by simpa [units] using spelled_iff.mpr spells, here⟩

end Texts

end SymbolSearch.Json
