import SymbolSearch.Jsonc
import SymbolSearch.Proofs.Jsonc.Unambiguous

set_option autoImplicit false

namespace SymbolSearch.Jsonc

-- A pass that copies strings and looks closer only at slashes and commas. The three functions are
-- the pass outside strings, in a string, and behind a backslash in a string.
structure Copies (code string escaped : List Char → List Char) : Prop where
  plain : ∀ c rest, c ≠ '"' → c ≠ '/' → c ≠ ',' → code (c :: rest) = c :: code rest
  quote : ∀ rest, code ('"' :: rest) = '"' :: string rest
  close : ∀ rest, string ('"' :: rest) = '"' :: code rest
  backslash : ∀ rest, string ('\\' :: rest) = '\\' :: escaped rest
  inside : ∀ c rest, c ≠ '"' → c ≠ '\\' → string (c :: rest) = c :: string rest
  behind : ∀ c rest, escaped (c :: rest) = c :: string rest

theorem copies_withoutComments :
    Copies (withoutComments .code) (withoutComments .string) (withoutComments .escaped) where
  plain c rest quote slash comma := by simp [withoutComments, quote, slash]
  quote rest := by simp [withoutComments]
  close rest := by simp [withoutComments]
  backslash rest := by simp [withoutComments]
  inside c rest quote backslash := by simp [withoutComments, quote, backslash]
  behind c rest := by simp [withoutComments]

theorem copies_withoutTrailingCommas :
    Copies (withoutTrailingCommas .code) (withoutTrailingCommas .string)
      (withoutTrailingCommas .escaped) where
  plain c rest quote slash comma := by simp [withoutTrailingCommas, quote, comma]
  quote rest := by simp [withoutTrailingCommas]
  close rest := by simp [withoutTrailingCommas]
  backslash rest := by simp [withoutTrailingCommas]
  inside c rest quote backslash := by simp [withoutTrailingCommas, quote, backslash]
  behind c rest := by simp [withoutTrailingCommas]

section Copies

variable {code string escaped : List Char → List Char}

theorem Copies.run (copies : Copies code string escaped) {run : List Char}
    (ordinary : ∀ c ∈ run, c ≠ '"' ∧ c ≠ '/' ∧ c ≠ ',') (text : List Char) :
    code (run ++ text) = run ++ code text := by
  induction run with
  | nil => rfl
  | cons c run ih =>
    obtain ⟨quote, slash, comma⟩ := ordinary c (by simp)
    rw [List.cons_append, copies.plain c _ quote slash comma,
      ih fun c member => ordinary c (by simp [member]), List.cons_append]

theorem hexValue?_ordinary {c : Char} {value : Nat} (known : Json.hexValue? c = some value) :
    c ≠ '"' ∧ c ≠ '\\' := by
  constructor <;> rintro rfl <;> cases known

theorem Copies.piece (copies : Copies code string escaped) {units : List Nat} {piece : List Char}
    (spelled : Piece units piece) (text : List Char) :
    string (piece ++ text) = piece ++ string text := by
  cases spelled with
  | plain _ quote backslash => exact copies.inside _ _ quote backslash
  | short => simp [copies.backslash, copies.behind]
  | hex first second third fourth =>
    have first := hexValue?_ordinary first
    have second := hexValue?_ordinary second
    have third := hexValue?_ordinary third
    have fourth := hexValue?_ordinary fourth
    simp [copies.backslash, copies.behind, copies.inside, first, second, third, fourth]

theorem Copies.body (copies : Copies code string escaped) {units : List Nat} {body : List Char}
    (spelled : Spelled units body) (text : List Char) :
    string (body ++ text) = body ++ string text := by
  induction spelled with
  | nil => rfl
  | cons piece _ ih => rw [List.append_assoc, copies.piece piece, ih, List.append_assoc]

theorem Copies.spelling (copies : Copies code string escaped) {token : Token}
    {spelling : List Char} (spelled : Spelling token spelling) (noComma : token ≠ .mark .comma)
    (text : List Char) : code (spelling ++ text) = spelling ++ code text := by
  cases spelled with
  | mark mark =>
    refine copies.run ?_ text
    cases mark <;> first | exact absurd rfl noComma | simp [Mark.char]
  | word spelled =>
    refine copies.run (fun c member => ?_) text
    have word := spelled.chars.2 c member
    refine ⟨?_, ?_, ?_⟩ <;> rintro rfl <;> exact absurd word (by decide)
  | text spelled =>
    simp [copies.quote, copies.body spelled, copies.close]

theorem Copies.space (copies : Copies code string escaped) {gap : List Char} (space : Space gap)
    (text : List Char) : code (gap ++ text) = gap ++ code text := by
  refine copies.run (fun c member => ?_) text
  have white := space c member
  refine ⟨?_, ?_, ?_⟩ <;> rintro rfl <;> exact absurd white (by decide)

end Copies

theorem withoutComments_line {body : List Char} (oneLine : '\n' ∉ body) (text : List Char) :
    withoutComments .lineComment (body ++ text) = withoutComments .lineComment text := by
  induction body with
  | nil => rfl
  | cons c body ih =>
    simp only [List.mem_cons, not_or] at oneLine
    simp [withoutComments, Ne.symm oneLine.1, ih oneLine.2]

theorem withoutComments_block {body : List Char} (unclosed : ¬ ['*', '/'] <:+: body)
    (star : Bool) (opened : star → body.head? ≠ some '/') (text : List Char) :
    withoutComments (.blockComment star) (body ++ '*' :: '/' :: text) =
      body.filter (· = '\n') ++ withoutComments .code text := by
  induction body generalizing star with
  | nil => simp [withoutComments]
  | cons c body ih =>
    have goesOn : (star && c = '/') = false := by
      cases star with
      | false => rfl
      | true => simpa using opened rfl
    have unclosedBody : ¬ ['*', '/'] <:+: body := fun closed => unclosed (List.infix_cons closed)
    rw [List.cons_append, withoutComments, if_neg (by simp [goesOn])]
    split
    next newline =>
      rw [List.filter_cons_of_pos (by simpa using newline),
        ih unclosedBody false (fun absent => by cases absent), List.cons_append]
    next other =>
      -- A star in front of a slash would have closed the comment.
      have opened : decide (c = '*') = true → body.head? ≠ some '/' := by
        intro star slash
        obtain ⟨more, rfl⟩ := List.head?_eq_some_iff.mp slash
        exact unclosed ⟨[], more, by simp [of_decide_eq_true star]⟩
      rw [List.filter_cons_of_neg (by simpa using other), ih unclosedBody _ opened]

theorem Gap.stripped {gap : List Char} (between : Gap gap) :
    ∃ space, Space space ∧
      ∀ text, withoutComments .code (gap ++ text) = space ++ withoutComments .code text := by
  induction between with
  | nil => exact ⟨[], by simp [Space], fun text => rfl⟩
  | @space c gap white _ ih =>
    obtain ⟨space, isSpace, strips⟩ := ih
    refine ⟨c :: space, by simpa [Space, white] using isSpace, fun text => ?_⟩
    have one : Space [c] := by simpa [Space] using white
    simpa [strips] using copies_withoutComments.space one (gap ++ text)
  | @line body gap oneLine _ ih =>
    obtain ⟨space, isSpace, strips⟩ := ih
    refine ⟨'\n' :: space, ?_, fun text => ?_⟩
    · simpa [Space, Json.Cursor.isSpace] using isSpace
    · simp [withoutComments, withoutComments_line oneLine, strips]
  | @block body gap unclosed _ ih =>
    obtain ⟨space, isSpace, strips⟩ := ih
    refine ⟨body.filter (· = '\n') ++ space, ?_, fun text => ?_⟩
    · simp only [Space, List.mem_append, List.mem_filter, decide_eq_true_eq]
      rintro c (⟨-, rfl⟩ | member)
      · rfl
      · exact isSpace c member
    · simp [withoutComments, withoutComments_block unclosed, strips]

theorem LastGap.stripped {gap : List Char} (last : LastGap gap) :
    Space (withoutComments .code gap) := by
  cases last with
  | closed between =>
    obtain ⟨space, isSpace, strips⟩ := between.stripped
    have whole := strips []
    rw [List.append_nil, withoutComments, List.append_nil] at whole
    rwa [whole]
  | @line gap body between oneLine =>
    obtain ⟨space, isSpace, strips⟩ := between.stripped
    have comment := withoutComments_line oneLine []
    rw [List.append_nil] at comment
    simpa [strips, withoutComments, comment] using isSpace

theorem Dialect.Spaced.comments_stripped {tokens : List Token} {text : List Char}
    (spaced : relaxed.Spaced tokens text) :
    plain.Spaced tokens (withoutComments .code text) := by
  induction spaced with
  | nil last => exact .nil last.stripped
  | @cons token tokens gap spelling text between spelled _ ih =>
    obtain ⟨space, isSpace, strips⟩ := between.stripped
    have copied : withoutComments .code (spelling ++ text) =
        spelling ++ withoutComments .code text := by
      by_cases comma : token = .mark .comma
      · subst comma
        cases spelled
        simp [withoutComments, Mark.char]
      · exact copies_withoutComments.spelling spelled comma text
    rw [strips, copied]
    exact .cons isSpace spelled ih

def dropTrailing : List Token → List Token
  | [] => []
  | token :: rest =>
    if token = .mark .comma ∧ closesFirst rest then dropTrailing rest
    else token :: dropTrailing rest

theorem Space.dropWhile {gap : List Char} (space : Space gap) (text : List Char) :
    (gap ++ text).dropWhile Text.isBlank = text.dropWhile Text.isBlank :=
  List.dropWhile_append_of_pos fun c member => isBlank_of_isSpace (space c member)

theorem Dialect.Spaced.closesNext_eq {tokens : List Token} {text : List Char}
    (spaced : plain.Spaced tokens text) : closesNext text = closesFirst tokens := by
  cases spaced with
  | nil space =>
    have nothing := Space.dropWhile space []
    rw [List.append_nil] at nothing
    simp [closesNext, nothing, closesFirst]
  | cons between spelled _ =>
    obtain ⟨c, more, rfl, notBlank, closes⟩ := spelled.head
    simp [closesNext, Space.dropWhile between, notBlank, closesFirst, ← closes]

theorem Dialect.Spaced.space {tokens : List Token} {gap text : List Char} (space : Space gap)
    (spaced : plain.Spaced tokens text) : plain.Spaced tokens (gap ++ text) := by
  have both {more : List Char} (behind : Space more) : Space (gap ++ more) := by
    simpa [Space, or_imp, forall_and] using And.intro space behind
  cases spaced with
  | nil last => exact .nil (both last)
  | cons between spelled rest =>
    rw [← List.append_assoc]
    exact .cons (both between) spelled rest

theorem Dialect.Spaced.commas_stripped {tokens : List Token} {text : List Char}
    (spaced : plain.Spaced tokens text) :
    plain.Spaced (dropTrailing tokens) (withoutTrailingCommas .code text) := by
  induction spaced with
  | nil space =>
    have copied := copies_withoutTrailingCommas.space space []
    rw [List.append_nil, withoutTrailingCommas, List.append_nil] at copied
    rw [copied]
    exact .nil space
  | @cons token tokens gap spelling text between spelled rest ih =>
    rw [copies_withoutTrailingCommas.space between, dropTrailing]
    by_cases comma : token = .mark .comma
    · subst comma
      cases spelled
      -- What a comma looks ahead to in the text is the next token.
      rw [← rest.closesNext_eq]
      by_cases closes : closesNext text
      · simpa [withoutTrailingCommas, Mark.char, closes] using ih.space between
      · simpa [withoutTrailingCommas, Mark.char, closes] using
          Dialect.Spaced.cons between (.mark .comma) ih
    · rw [copies_withoutTrailingCommas.spelling spelled comma, if_neg (by simp [comma])]
      exact .cons between spelled ih

@[simp] theorem dropTrailing_cons {token : Token} (noComma : token ≠ .mark .comma)
    (rest : List Token) : dropTrailing (token :: rest) = token :: dropTrailing rest := by
  simp [dropTrailing, noComma]

theorem dropTrailing_comma {rest : List Token} (goesOn : closesFirst rest = false) :
    dropTrailing (.mark .comma :: rest) = .mark .comma :: dropTrailing rest := by
  simp [dropTrailing, goesOn]

theorem Closes.commas_dropped {trailingCommas : Bool} {bracket : Mark} {tokens rest : List Token}
    (closing : bracket.closes) (close : Closes trailingCommas bracket rest tokens) :
    dropTrailing tokens = .mark bracket :: dropTrailing rest := by
  have noComma : Token.mark bracket ≠ .mark .comma := by
    rintro ⟨⟩
    cases closing
  cases close with
  | bare => exact dropTrailing_cons noComma rest
  | comma => simp [dropTrailing, closesFirst, Token.closes, closing, noComma]

theorem Reads.commas_dropped {trailingCommas : Bool} {form : Form} {tokens rest : List Token}
    (reads : Reads trailingCommas form tokens rest) :
    Reads false form (dropTrailing tokens) (dropTrailing rest) := by
  induction reads with
  | scalar => simpa using Reads.scalar
  | emptyArray => simpa using Reads.emptyArray
  | emptyObject => simpa using Reads.emptyObject
  | array _ ih => simpa using Reads.array ih
  | object _ ih => simpa using Reads.object ih
  | lastItem _ close ih =>
    -- With or without a comma in front, the bracket is what stands behind the last item now.
    rw [close.commas_dropped rfl] at ih
    exact .lastItem ih .bare
  | item _ rest first more =>
    rw [dropTrailing_comma rest.not_closesFirst] at first
    exact .item first more
  | lastMember _ close ih =>
    rw [close.commas_dropped rfl] at ih
    simpa using Reads.lastMember ih .bare
  | member _ rest first more =>
    rw [dropTrailing_comma rest.not_closesFirst] at first
    simpa using Reads.member first more

theorem strip_keeps_value (value : Value) (text : String)
    (written : relaxed.Renders value text.toList) :
    plain.Renders value (strip text).toList ∧
      ∀ other, plain.Renders other (strip text).toList → other = value := by
  obtain ⟨tokens, reads, spaced⟩ := written
  have kept : plain.Renders value (strip text).toList := by
    refine ⟨dropTrailing tokens, reads.commas_dropped, ?_⟩
    rw [strip, String.toList_ofList]
    exact spaced.comments_stripped.commas_stripped
  exact ⟨kept, fun other read => plain_unique read kept⟩

theorem strip_keeps_value_comment_in_string :
    relaxed.Renders (.array [.scalar (.text [47, 47, 44, 93])]) "[/*,*/\"//,]\",] // end".toList ∧
      plain.Renders (.array [.scalar (.text [47, 47, 44, 93])])
        (strip "[/*,*/\"//,]\",] // end").toList ∧
      ∀ other, plain.Renders other (strip "[/*,*/\"//,]\",] // end").toList →
        other = .array [.scalar (.text [47, 47, 44, 93])] := by
  have body : Spelled [47, 47, 44, 93] ['/', '/', ',', ']'] :=
    have plain (c : Char) (ordinary : 0x20 ≤ c.toNat ∧ c ≠ '"' ∧ c ≠ '\\') :
        Piece (codeUnits c) [c] := .plain ordinary.1 ordinary.2.1 ordinary.2.2
    .cons (plain '/' (by decide)) (.cons (plain '/' (by decide)) (.cons (plain ',' (by decide))
      (.cons (plain ']' (by decide)) .nil)))
  have nothing : relaxed.gap [] := Gap.nil
  have comment : relaxed.gap ['/', '*', ',', '*', '/'] :=
    Gap.block (by decide : ¬ ['*', '/'] <:+: [',']) .nil
  have last : relaxed.lastGap [' ', '/', '/', ' ', 'e', 'n', 'd'] :=
    LastGap.line (.space rfl .nil : Gap [' ']) (by decide)
  have spaced :=
    Dialect.Spaced.cons nothing (.mark .openArray) (.cons comment (.text body)
      (.cons nothing (.mark .comma) (.cons nothing (.mark .closeArray) (.nil last))))
  have written : relaxed.Renders (.array [.scalar (.text [47, 47, 44, 93])])
      "[/*,*/\"//,]\",] // end".toList :=
    ⟨_, .array (.lastItem .scalar (.comma rfl)), spaced⟩
  exact ⟨written, strip_keeps_value _ _ written⟩

end SymbolSearch.Jsonc
