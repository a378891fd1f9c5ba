import SymbolSearch.Proofs.Jsonc.Grammar
import SymbolSearch.Text.Basic

set_option autoImplicit false

namespace SymbolSearch.Jsonc

def Stops (kind : Char → Bool) (text : List Char) : Prop :=
  ∀ c ∈ text.head?, kind c = false

@[simp] theorem stops_nil (kind : Char → Bool) : Stops kind [] := by
  simp [Stops]

@[simp] theorem stops_cons (kind : Char → Bool) (c : Char) (text : List Char) :
    Stops kind (c :: text) ↔ kind c = false := by
  simp [Stops]

theorem run_unique {kind : Char → Bool} {run other rest left : List Char}
    (inRun : ∀ c ∈ run, kind c) (inOther : ∀ c ∈ other, kind c) (stop : Stops kind rest)
    (stopped : Stops kind left) (same : run ++ rest = other ++ left) :
    run = other ∧ rest = left := by
  have nothing {text : List Char} (stop : Stops kind text) : text.takeWhile kind = [] := by
    cases text with
    | nil => rfl
    | cons c text => simp_all
  have runs := congrArg (List.takeWhile kind) same
  rw [List.takeWhile_append_of_pos inRun, List.takeWhile_append_of_pos inOther, nothing stop,
    nothing stopped, List.append_nil, List.append_nil] at runs
  exact ⟨runs, List.append_cancel_left (runs ▸ same)⟩

theorem isWordChar_of_isDigit {c : Char} (digit : c.isDigit) : isWordChar c := by
  simp [isWordChar, digit]

def Digital (text : List Char) : Prop :=
  ∃ c more, text = c :: more ∧ c.isDigit

theorem AllDigits.digital {digits : List Char} (digital : AllDigits digits) (some : digits ≠ [])
    (behind : List Char) : Digital (digits ++ behind) := by
  obtain ⟨c, more, rfl⟩ := List.exists_cons_of_ne_nil some
  exact ⟨c, more ++ behind, rfl, digital c (by simp)⟩

theorem Whole.digital {whole : List Char} (integral : Whole whole) (behind : List Char) :
    Digital (whole ++ behind) :=
  integral.1.digital integral.2.1 behind

theorem Exponent.stops {scale : Int} {exponent : List Char} (scaled : Exponent scale exponent) :
    Stops Char.isDigit exponent ∧ exponent.head? ≠ Option.some '.' := by
  cases scaled with
  | absent => simp
  | digits mark => rcases mark with rfl | rfl <;> simp

theorem Fraction.stops {places fraction exponent : List Char} {scale : Int}
    (pointed : Fraction places fraction) (scaled : Exponent scale exponent) :
    Stops Char.isDigit (fraction ++ exponent) := by
  cases pointed with
  | absent => exact scaled.stops.1
  | digits => simp

theorem not_sign_of_isDigit {c : Char} (digit : c.isDigit) : c ≠ '-' ∧ c ≠ '+' := by
  constructor <;> rintro rfl <;> simp at digit

theorem Sign.unique {plusAllowed negative other : Bool} {sign mark rest left : List Char}
    (signed : Sign plusAllowed negative sign) (marked : Sign plusAllowed other mark)
    (digit : Digital rest) (digital : Digital left) (same : sign ++ rest = mark ++ left) :
    negative = other ∧ rest = left := by
  obtain ⟨c, more, rfl, digit⟩ := digit
  obtain ⟨c', more', rfl, digit'⟩ := digital
  have noSign := not_sign_of_isDigit digit
  have noSign' := not_sign_of_isDigit digit'
  cases signed <;> cases marked <;> grind

theorem Fraction.unique {places others fraction pointing exponent scaling : List Char}
    {scale scaled : Int} (pointed : Fraction places fraction) (points : Fraction others pointing)
    (first : Exponent scale exponent) (second : Exponent scaled scaling)
    (same : fraction ++ exponent = pointing ++ scaling) :
    places = others ∧ exponent = scaling := by
  cases pointed with
  | absent =>
    cases points with
    | absent => exact ⟨rfl, same⟩
    | digits =>
      rw [List.nil_append] at same
      exact absurd (by simp [same]) first.stops.2
  | digits digital =>
    cases points with
    | absent =>
      rw [List.nil_append] at same
      exact absurd (by simp [← same]) second.stops.2
    | digits others =>
      exact run_unique digital others first.stops.1 second.stops.1 (List.cons.inj same).2

theorem Exponent.unique {scale scaled : Int} {exponent other : List Char}
    (first : Exponent scale exponent) (second : Exponent scaled other)
    (same : exponent = other) : scale = scaled := by
  cases first with
  | absent => cases second <;> simp_all
  | digits mark signed digital some =>
    cases second with
    | absent => simp_all
    | digits mark' signed' digital' some' =>
      have tail := (List.cons.inj same).2
      have begins := digital.digital some []
      have begins' := digital'.digital some' []
      rw [List.append_nil] at begins begins'
      obtain ⟨rfl, rfl⟩ := signed.unique signed' begins begins' tail
      rfl

theorem Word.number_head {negative : Bool} {sign whole : List Char}
    (signed : Sign false negative sign) (integral : Whole whole) (behind : List Char) :
    ∃ c more, sign ++ (whole ++ behind) = c :: more ∧ (c = '-' ∨ c.isDigit) := by
  obtain ⟨c, more, begins, digit⟩ := integral.digital behind
  rw [begins]
  cases signed with
  | absent => exact ⟨c, more, rfl, .inr digit⟩
  | plus allowed => cases allowed
  | minus => exact ⟨'-', c :: more, rfl, .inl rfl⟩

theorem Word.unique {scalar other : Scalar} {word text : List Char} (first : Word scalar word)
    (second : Word other text) (same : word = text) : scalar = other := by
  cases first with
  | @number _ _ sign whole _ fraction exponent signed integral pointed scaled =>
    cases second with
    | number signed' integral' pointed' scaled' =>
      -- From part to part: where each one ends is told by how the next one begins.
      obtain ⟨rfl, behindSign⟩ :=
        signed.unique signed' (integral.digital _) (integral'.digital _) same
      obtain ⟨rfl, behindWhole⟩ := run_unique integral.1 integral'.1 (pointed.stops scaled)
        (pointed'.stops scaled') behindSign
      obtain ⟨rfl, behindPoint⟩ := pointed.unique pointed' scaled scaled' behindWhole
      rw [scaled.unique scaled' behindPoint]
    | _ =>
      obtain ⟨c, more, begins, number⟩ := number_head signed integral (fraction ++ exponent)
      rw [begins] at same
      obtain ⟨rfl, -⟩ := List.cons.inj same
      exact absurd number (by decide)
  | _ =>
    cases second with
    | @number _ _ sign whole _ fraction exponent signed integral pointed scaled =>
      obtain ⟨c, more, begins, number⟩ := number_head signed integral (fraction ++ exponent)
      rw [begins] at same
      obtain ⟨rfl, -⟩ := List.cons.inj same
      exact absurd number (by decide)
    | _ => simp_all

theorem AllDigits.chars {digits : List Char} (digital : AllDigits digits) :
    ∀ c ∈ digits, isWordChar c :=
  fun c member => isWordChar_of_isDigit (digital c member)

theorem Sign.chars {plusAllowed negative : Bool} {sign : List Char}
    (signed : Sign plusAllowed negative sign) : ∀ c ∈ sign, isWordChar c := by
  cases signed <;> simp [isWordChar, wordLetters]

theorem Fraction.chars {places fraction : List Char} (pointed : Fraction places fraction) :
    ∀ c ∈ fraction, isWordChar c := by
  cases pointed with
  | absent => simp
  | digits digital =>
    rw [List.forall_mem_cons]
    exact ⟨rfl, digital.chars⟩

theorem Exponent.chars {scale : Int} {exponent : List Char} (scaled : Exponent scale exponent) :
    ∀ c ∈ exponent, isWordChar c := by
  cases scaled with
  | absent => simp
  | digits mark signed digital =>
    rw [List.forall_mem_cons, List.forall_mem_append]
    exact ⟨by rcases mark with rfl | rfl <;> rfl, signed.chars, digital.chars⟩

theorem Word.chars {scalar : Scalar} {word : List Char} (spelled : Word scalar word) :
    word ≠ [] ∧ ∀ c ∈ word, isWordChar c := by
  cases spelled with
  | number signed integral pointed scaled =>
    simp only [List.forall_mem_append]
    exact ⟨by simp [integral.2.1], signed.chars, integral.1.chars, pointed.chars, scaled.chars⟩
  | _ => exact ⟨List.cons_ne_nil _ _, List.all_eq_true.mp rfl⟩

theorem Piece.unique {units others : List Nat} {piece other rest left : List Char}
    (first : Piece units piece) (second : Piece others other)
    (same : piece ++ rest = other ++ left) : units = others ∧ rest = left := by
  have noLetter : Json.unescape? 'u' = none := rfl
  cases first <;> cases second <;> grind

theorem Piece.head {units : List Nat} {piece : List Char} (spelled : Piece units piece) :
    ∃ c more, piece = c :: more ∧ c ≠ '"' := by
  cases spelled with
  | plain _ quote => exact ⟨_, _, rfl, quote⟩
  | _ => exact ⟨_, _, rfl, by decide⟩

theorem Piece.shape {units : List Nat} {piece : List Char} (spelled : Piece units piece) :
    (∃ c, piece = [c] ∧ 0x20 ≤ c.toNat ∧ c ≠ '"' ∧ c ≠ '\\') ∨ ∃ text, piece = '\\' :: text := by
  cases spelled with
  | plain printable quote backslash => exact .inl ⟨_, rfl, printable, quote, backslash⟩
  | _ => exact .inr ⟨_, rfl⟩

theorem Spelled.unique {units others : List Nat} {body other rest left : List Char}
    (first : Spelled units body) (second : Spelled others other)
    (same : body ++ '"' :: rest = other ++ '"' :: left) : units = others ∧ rest = left := by
  induction first generalizing others other with
  | nil =>
    cases second with
    | nil => simpa using same
    | cons piece _ =>
      obtain ⟨c, more, rfl, quote⟩ := piece.head
      exact absurd (List.cons.inj same).1.symm quote
  | cons piece _ ih =>
    cases second with
    | nil =>
      obtain ⟨c, more, rfl, quote⟩ := piece.head
      exact absurd (List.cons.inj same).1 quote
    | cons other second =>
      rw [List.append_assoc, List.append_assoc] at same
      obtain ⟨rfl, behind⟩ := piece.unique other same
      obtain ⟨rfl, rfl⟩ := ih second behind
      exact ⟨rfl, rfl⟩

theorem isBlank_of_isSpace {c : Char} (space : Json.Cursor.isSpace c) : Text.isBlank c := by
  simp only [Json.Cursor.isSpace, Bool.or_eq_true, decide_eq_true_eq] at space
  rcases space with ((rfl | rfl) | rfl) | rfl <;> decide

theorem isWordChar_apart {c : Char} (word : isWordChar c) :
    Text.isBlank c = false ∧ (c = '\x7d' || c = ']') = false := by
  rw [isWordChar, Bool.or_eq_true, List.contains_iff_mem] at word
  rcases word with digit | letter
  · simp only [Char.isDigit, ge_iff_le, Bool.and_eq_true, decide_eq_true_eq, Char.reduceVal,
      UInt32.le_iff_toNat_le, UInt32.reduceToNat, Char.toNat_val] at digit
    constructor
    · simp [Text.isBlank, Text.inRanges, Text.blankRanges]
      omega
    · rw [Bool.or_eq_false_iff, decide_eq_false_iff_not, decide_eq_false_iff_not]
      constructor <;> rintro rfl <;> simp at digit
  · have apart : wordLetters.all fun c => !Text.isBlank c && !(c = '\x7d' || c = ']') := by decide
    simpa using List.all_eq_true.mp apart c letter

theorem Word.head {scalar : Scalar} {word : List Char} (spelled : Word scalar word) :
    ∃ c more, word = c :: more ∧ isWordChar c := by
  obtain ⟨some, words⟩ := spelled.chars
  obtain ⟨c, more, rfl⟩ := List.exists_cons_of_ne_nil some
  exact ⟨c, more, rfl, words c (by simp)⟩

theorem Spelling.head {token : Token} {spelling : List Char} (spelled : Spelling token spelling) :
    ∃ c more, spelling = c :: more ∧ Text.isBlank c = false ∧
      (c = '\x7d' || c = ']') = token.closes := by
  cases spelled with
  | mark mark => exact ⟨mark.char, [], rfl, by cases mark <;> rfl, by cases mark <;> rfl⟩
  | text spelled => exact ⟨'"', _, rfl, by decide, rfl⟩
  | word spelled =>
    obtain ⟨c, more, rfl, word⟩ := spelled.head
    exact ⟨c, more, rfl, isWordChar_apart word⟩

theorem Mark.char_injective {mark other : Mark} (same : mark.char = other.char) : mark = other := by
  cases mark <;> cases other <;> first | rfl | exact absurd same (by decide)

theorem Mark.not_isWordChar (mark : Mark) : isWordChar mark.char = false := by
  cases mark <;> rfl

theorem Mark.char_ne_quote (mark : Mark) : mark.char ≠ '"' := by
  cases mark <;> decide

theorem Spelling.unique {token other : Token} {spelling text rest left : List Char}
    (first : Spelling token spelling) (second : Spelling other text)
    (stop : token.isMark ∨ Stops isWordChar rest) (stopped : other.isMark ∨ Stops isWordChar left)
    (same : spelling ++ rest = text ++ left) : token = other ∧ rest = left := by
  cases first with
  | mark mark =>
    cases second with
    | mark mark' =>
      obtain ⟨chars, behind⟩ := List.cons.inj same
      exact ⟨by rw [Mark.char_injective chars], behind⟩
    | word spelled =>
      obtain ⟨c, more, rfl, word⟩ := spelled.head
      rw [← (List.cons.inj same).1, mark.not_isWordChar] at word
      cases word
    | text => exact absurd (List.cons.inj same).1 mark.char_ne_quote
  | word spelled =>
    cases second with
    | mark mark =>
      obtain ⟨c, more, rfl, word⟩ := spelled.head
      rw [(List.cons.inj same).1, mark.not_isWordChar] at word
      cases word
    | word spelled' =>
      have stop : Stops isWordChar rest := by simpa [Token.isMark] using stop
      have stopped : Stops isWordChar left := by simpa [Token.isMark] using stopped
      obtain ⟨words, behind⟩ := run_unique spelled.chars.2 spelled'.chars.2 stop stopped same
      exact ⟨by rw [spelled.unique spelled' words], behind⟩
    | text =>
      obtain ⟨c, more, rfl, word⟩ := spelled.head
      rw [(List.cons.inj same).1] at word
      exact absurd word (by decide)
  | text spelled =>
    cases second with
    | mark mark => exact absurd (List.cons.inj same).1.symm mark.char_ne_quote
    | word spelled' =>
      obtain ⟨c, more, rfl, word⟩ := spelled'.head
      rw [← (List.cons.inj same).1] at word
      exact absurd word (by decide)
    | text spelled' =>
      simp only [List.append_assoc, List.cons_append, List.nil_append, List.cons.injEq,
        true_and] at same
      obtain ⟨rfl, behind⟩ := spelled.unique spelled' same
      exact ⟨rfl, behind⟩

end SymbolSearch.Jsonc
