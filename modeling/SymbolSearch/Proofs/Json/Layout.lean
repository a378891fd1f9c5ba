import SymbolSearch.Json.Value
import SymbolSearch.Proofs.Jsonc.Stripping

set_option autoImplicit false

namespace SymbolSearch.Json

open Jsonc (Space Spelled Piece Spelling Word Reads plain codeUnits)

-- A value, or what stands behind an opening bracket that has something in it, together with the
-- closing bracket.
inductive Part where
  | value (value : Json)
  | items (items : List Json)
  | members (members : List (String × Json))

inductive Layout : Part → List Char → Prop
  | null : Layout (.value .null) ['n', 'u', 'l', 'l']
  | yes : Layout (.value (.bool true)) ['t', 'r', 'u', 'e']
  | no : Layout (.value (.bool false)) ['f', 'a', 'l', 's', 'e']
  | natural (number : Nat) : Layout (.value (.natural number)) (Nat.toDigits 10 number)
  | text (text : String) : Layout (.value (.text text)) (quoted text).toList
  | emptyArray : Layout (.value (.array [])) ['[', ']']
  | array {items : List Json} {text : List Char} (inside : Layout (.items items) text) :
      Layout (.value (.array items)) ('[' :: text)
  | emptyObject : Layout (.value (.object [])) ['\x7b', '\x7d']
  | object {members : List (String × Json)} {text : List Char}
      (inside : Layout (.members members) text) :
      Layout (.value (.object members)) ('\x7b' :: text)
  | lastItem {item : Json} {front text gap : List Char} (before : Space front)
      (last : Layout (.value item) text) (behind : Space gap) :
      Layout (.items [item]) (front ++ (text ++ (gap ++ [']'])))
  | item {item : Json} {items : List Json} {front text more : List Char} (before : Space front)
      (first : Layout (.value item) text) (rest : Layout (.items items) more) :
      Layout (.items (item :: items)) (front ++ (text ++ ',' :: more))
  | lastMember {name : String} {value : Json} {front between text gap : List Char}
      (before : Space front) (apart : Space between) (last : Layout (.value value) text)
      (behind : Space gap) :
      Layout (.members [(name, value)])
        (front ++ ((quoted name).toList ++ ':' :: (between ++ (text ++ (gap ++ ['\x7d'])))))
  | member {name : String} {value : Json} {members : List (String × Json)}
      {front between text more : List Char} (before : Space front) (apart : Space between)
      (first : Layout (.value value) text) (rest : Layout (.members members) more) :
      Layout (.members ((name, value) :: members))
        (front ++ ((quoted name).toList ++ ':' :: (between ++ (text ++ ',' :: more))))

inductive Exact : Json → Prop
  | null : Exact .null
  | bool (value : Bool) : Exact (.bool value)
  | natural (value : Nat) : Exact (.natural value)
  | text (value : String) : Exact (.text value)
  | array {items : List Json} (each : ∀ item ∈ items, Exact item) : Exact (.array items)
  | object {members : List (String × Json)} (each : ∀ member ∈ members, Exact member.2) :
      Exact (.object members)

@[simp] theorem space_nil : Space [] := by
  simp [Space]

theorem space_indent (depth : Nat) : Space (indent depth).toList := by
  simp [Space, indent, Cursor.isSpace]

theorem compactItems_layout {items : List Json} (some : items ≠ [])
    (each : ∀ item ∈ items, Layout (.value item) item.compact.toList) :
    Layout (.items items) ((compactItems items).toList ++ [']']) := by
  induction items with
  | nil => exact absurd rfl some
  | cons item items ih =>
    obtain ⟨first, rest⟩ := List.forall_mem_cons.mp each
    cases items with
    | nil => simpa [compactItems] using Layout.lastItem space_nil first space_nil
    | cons next items =>
      simpa [compactItems] using Layout.item space_nil first (ih (by simp) rest)

theorem compactMembers_layout {members : List (String × Json)} (some : members ≠ [])
    (each : ∀ member ∈ members, Layout (.value member.2) member.2.compact.toList) :
    Layout (.members members) ((compactMembers members).toList ++ ['\x7d']) := by
  induction members with
  | nil => exact absurd rfl some
  | cons member members ih =>
    obtain ⟨first, rest⟩ := List.forall_mem_cons.mp each
    cases members with
    | nil =>
      simpa [compactMembers] using Layout.lastMember space_nil space_nil first space_nil
    | cons next members =>
      simpa [compactMembers] using Layout.member space_nil space_nil first (ih (by simp) rest)

theorem Exact.compact_layout {json : Json} (exact : json.Exact) :
    Layout (.value json) json.compact.toList := by
  induction exact with
  | null => exact .null
  | bool value =>
    cases value with
    | false => exact .no
    | true => exact .yes
  | natural value => simpa [compact] using Layout.natural value
  | text value => exact .text value
  | @array items _ ih =>
    by_cases none : items = []
    · subst none
      exact .emptyArray
    · simpa [compact] using Layout.array (compactItems_layout none ih)
  | @object members _ ih =>
    by_cases none : members = []
    · subst none
      exact .emptyObject
    · simpa [compact] using Layout.object (compactMembers_layout none ih)

theorem prettyItems_layout {depth : Nat} {items : List Json} {close : List Char}
    (some : items ≠ []) (space : Space close)
    (each : ∀ item ∈ items, Layout (.value item) (prettyAt depth item).toList) :
    Layout (.items items) ((prettyItems depth items).toList ++ (close ++ [']'])) := by
  induction items with
  | nil => exact absurd rfl some
  | cons item items ih =>
    obtain ⟨first, rest⟩ := List.forall_mem_cons.mp each
    cases items with
    | nil => simpa [prettyItems] using Layout.lastItem (space_indent depth) first space
    | cons next items =>
      simpa [prettyItems] using Layout.item (space_indent depth) first (ih (by simp) rest)

theorem prettyMembers_layout {depth : Nat} {members : List (String × Json)} {close : List Char}
    (some : members ≠ []) (space : Space close)
    (each : ∀ member ∈ members, Layout (.value member.2) (prettyAt depth member.2).toList) :
    Layout (.members members) ((prettyMembers depth members).toList ++ (close ++ ['\x7d'])) := by
  have blank : Space [' '] := by simp [Space, Cursor.isSpace]
  induction members with
  | nil => exact absurd rfl some
  | cons member members ih =>
    obtain ⟨first, rest⟩ := List.forall_mem_cons.mp each
    cases members with
    | nil =>
      simpa [prettyMembers] using Layout.lastMember (space_indent depth) blank first space
    | cons next members =>
      simpa [prettyMembers] using
        Layout.member (space_indent depth) blank first (ih (by simp) rest)

theorem Exact.prettyAt_layout {json : Json} (exact : json.Exact) (depth : Nat) :
    Layout (.value json) (json.prettyAt depth).toList := by
  induction exact generalizing depth with
  | null => simpa [prettyAt] using Exact.null.compact_layout
  | bool value => simpa [prettyAt] using (Exact.bool value).compact_layout
  | natural value => simpa [prettyAt] using (Exact.natural value).compact_layout
  | text value => simpa [prettyAt] using (Exact.text value).compact_layout
  | @array items _ ih =>
    cases items with
    | nil => simpa [prettyAt] using Layout.emptyArray
    | cons item items =>
      simpa [prettyAt] using Layout.array (prettyItems_layout (List.cons_ne_nil item items)
        (space_indent depth) fun item member => ih item member (depth + 1))
  | @object members _ ih =>
    cases members with
    | nil => simpa [prettyAt] using Layout.emptyObject
    | cons member members =>
      simpa [prettyAt] using Layout.object (prettyMembers_layout (List.cons_ne_nil member members)
        (space_indent depth) fun item member => ih item member (depth + 1))

theorem hexValue?_hexDigit : ∀ value < 16, hexValue? (hexDigit value) = some value := by
  decide

theorem escapeChar_cases (c : Char) :
    (escapeChar c = [c] ∧ 0x20 ≤ c.toNat ∧ c ≠ '"' ∧ c ≠ '\\') ∨
      (∃ letter, escapeChar c = ['\\', letter] ∧ unescape? letter = some c) ∨
      ∃ high low, escapeChar c = ['\\', 'u', '0', '0', high, low] ∧ c.toNat < 0x20 ∧
        hexValue? high = some (c.toNat / 16) ∧ hexValue? low = some (c.toNat % 16) := by
  unfold escapeChar
  cases short : shortEscape? c with
  | some letter =>
    refine .inr (.inl ⟨letter, rfl, ?_⟩)
    unfold shortEscape? at short
    split at short <;> cases short <;> rfl
  | none =>
    by_cases control : c.toNat < 0x20
    · exact .inr (.inr ⟨_, _, by simp [control], control, hexValue?_hexDigit _ (by omega),
        hexValue?_hexDigit _ (by omega)⟩)
    · refine .inl ⟨by simp [control], by omega, ?_, ?_⟩ <;> rintro rfl <;> cases short

theorem escapeChar_piece (c : Char) : Piece (codeUnits c) (escapeChar c) := by
  obtain ⟨same, printable, quote, backslash⟩ | ⟨letter, same, known⟩ |
    ⟨high, low, same, control, first, last⟩ := escapeChar_cases c
  · exact same ▸ .plain printable quote backslash
  · exact same ▸ .short known
  · have units : codeUnits c = [((0 * 16 + 0) * 16 + c.toNat / 16) * 16 + c.toNat % 16] := by
      rw [codeUnits, if_pos (by omega)]
      congr 1
      omega
    rw [same, units]
    exact .hex rfl rfl first last

theorem escaped_spelled (chars : List Char) :
    Spelled (chars.flatMap codeUnits) (chars.flatMap escapeChar) := by
  induction chars with
  | nil => exact .nil
  | cons c chars ih => exact .cons (escapeChar_piece c) ih

@[simp] theorem toList_quoted (text : String) :
    (quoted text).toList = '"' :: (text.toList.flatMap escapeChar ++ ['"']) := by
  simp [quoted]

theorem toDigits_isDigit (number : Nat) : Jsonc.AllDigits (Nat.toDigits 10 number) :=
  fun _ => Nat.isDigit_of_mem_toDigits (by decide) (by decide)

theorem digitsValue_toDigits (number : Nat) :
    Jsonc.digitsValue (Nat.toDigits 10 number) = number := by
  have same : Jsonc.digitsValue (Nat.toDigits 10 number) =
      Nat.ofDigitChars 10 (Nat.toDigits 10 number) 0 := by
    simp [Jsonc.digitsValue, Nat.ofDigitChars, Nat.mul_comm]
  rw [same, Nat.ofDigitChars_ten_toDigits]

theorem toDigits_head {number : Nat} (positive : number ≠ 0) :
    (Nat.toDigits 10 number).head? ≠ some '0' := by
  induction number using Nat.strongRecOn with
  | ind number ih =>
    by_cases small : number < 10
    · have digits : ∀ digit < 10, digit ≠ 0 → Nat.digitChar digit ≠ '0' := by decide
      simpa [Nat.toDigits_of_lt_base small] using digits number small positive
    · have front := ih (number / 10) (by omega) (by omega)
      rw [Nat.toDigits_of_base_le (by decide) (by omega)]
      have some : Nat.toDigits 10 (number / 10) ≠ [] := Nat.toDigits_ne_nil
      obtain ⟨first, rest, digits⟩ := List.exists_cons_of_ne_nil some
      simpa [digits] using front

theorem toDigits_whole (number : Nat) : Jsonc.Whole (Nat.toDigits 10 number) := by
  refine ⟨toDigits_isDigit number, Nat.toDigits_ne_nil, fun zero => ?_⟩
  by_cases positive : number = 0
  · simp [positive]
  · exact absurd zero (toDigits_head positive)

def units (text : String) : List Nat :=
  text.toList.flatMap codeUnits

mutual

def meaning : Json → Jsonc.Value
  | null => .scalar .null
  | bool value => .scalar (.bool value)
  | natural value => .scalar (.number false ⟨value, 0⟩)
  -- The decimal that is written for it, whatever zeros are written with it.
  | real value =>
    if value.isNaN || value.isInf then .scalar .null
    else .scalar (.number (value.toBits >>> 63 = 1) (Decimal.Binary.ofBits value.toBits).shortest)
  | text value => .scalar (.text (units value))
  | array items => .array (meanings items)
  | object members => .object (memberMeanings members)

def meanings : List Json → List Jsonc.Value
  | [] => []
  | item :: items => item.meaning :: meanings items

def memberMeanings : List (String × Json) → List (List Nat × Jsonc.Value)
  | [] => []
  | (name, value) :: members => (units name, value.meaning) :: memberMeanings members

end

def Part.form : Part → Jsonc.Form
  | .value json => .value json.meaning
  | .items list => .items (meanings list)
  | .members list => .members (memberMeanings list)

theorem quoted_spelling (text : String) :
    Spelling (.scalar (.text (units text))) (quoted text).toList := by
  rw [toList_quoted]
  exact .text (escaped_spelled text.toList)

theorem toDigits_spelling (number : Nat) :
    Spelling (.scalar (.number false ⟨number, 0⟩)) (Nat.toDigits 10 number) := by
  have word := Word.number .absent (toDigits_whole number) .absent .absent
  simp only [List.append_nil, List.nil_append, digitsValue_toDigits] at word
  exact .word word

section Tokens

variable {tokens : List Jsonc.Token} {spelling text : List Char}

theorem token_spaced {token : Jsonc.Token} (spelled : Spelling token spelling)
    (rest : plain.Spaced tokens text) : plain.Spaced (token :: tokens) (spelling ++ text) :=
  Jsonc.Dialect.Spaced.cons space_nil spelled rest

theorem mark_spaced (mark : Jsonc.Mark) (rest : plain.Spaced tokens text) :
    plain.Spaced (.mark mark :: tokens) (mark.char :: text) :=
  token_spaced (.mark mark) rest

end Tokens

theorem Layout.reads {part : Part} {text : List Char} (layout : Layout part text)
    {after : List Jsonc.Token} {behind : List Char} (spaced : plain.Spaced after behind) :
    ∃ tokens, Reads false part.form tokens after ∧ plain.Spaced tokens (text ++ behind) := by
  induction layout generalizing after behind with
  | null => exact ⟨_, .scalar, token_spaced (.word .null) spaced⟩
  | yes => exact ⟨_, .scalar, token_spaced (.word .yes) spaced⟩
  | no => exact ⟨_, .scalar, token_spaced (.word .no) spaced⟩
  | natural number => exact ⟨_, .scalar, token_spaced (toDigits_spelling number) spaced⟩
  | text text => exact ⟨_, .scalar, token_spaced (quoted_spelling text) spaced⟩
  | emptyArray => exact ⟨_, .emptyArray, mark_spaced .openArray (mark_spaced .closeArray spaced)⟩
  | array _ ih =>
    obtain ⟨tokens, reads, inside⟩ := ih spaced
    exact ⟨_, .array reads, mark_spaced .openArray inside⟩
  | emptyObject =>
    exact ⟨_, .emptyObject, mark_spaced .openObject (mark_spaced .closeObject spaced)⟩
  | object _ ih =>
    obtain ⟨tokens, reads, inside⟩ := ih spaced
    exact ⟨_, .object reads, mark_spaced .openObject inside⟩
  | lastItem before _ gap ih =>
    obtain ⟨tokens, reads, inside⟩ := ih ((mark_spaced .closeArray spaced).space gap)
    exact ⟨tokens, .lastItem reads .bare, by simpa [Jsonc.Mark.char] using inside.space before⟩
  | item before _ _ first more =>
    obtain ⟨others, reads, behindComma⟩ := more spaced
    obtain ⟨tokens, read, inside⟩ := first (mark_spaced .comma behindComma)
    exact ⟨tokens, .item read reads, by simpa [Jsonc.Mark.char] using inside.space before⟩
  | @lastMember name _ _ _ _ _ before apart _ gap ih =>
    obtain ⟨tokens, reads, inside⟩ := ih ((mark_spaced .closeObject spaced).space gap)
    have named := token_spaced (quoted_spelling name) (mark_spaced .colon (inside.space apart))
    exact ⟨_, .lastMember reads .bare, by simpa [Jsonc.Mark.char] using named.space before⟩
  | @member name _ _ _ _ _ _ before apart _ _ first more =>
    obtain ⟨others, reads, behindComma⟩ := more spaced
    obtain ⟨tokens, read, inside⟩ := first (mark_spaced .comma behindComma)
    have named := token_spaced (quoted_spelling name) (mark_spaced .colon (inside.space apart))
    exact ⟨_, .member read reads, by simpa [Jsonc.Mark.char] using named.space before⟩

theorem Layout.renders {json : Json} {text gap : List Char} (layout : Layout (.value json) text)
    (space : Space gap) : plain.Renders json.meaning (text ++ gap) := by
  obtain ⟨tokens, reads, spaced⟩ := layout.reads (.nil space)
  exact ⟨tokens, reads, spaced⟩

end SymbolSearch.Json
