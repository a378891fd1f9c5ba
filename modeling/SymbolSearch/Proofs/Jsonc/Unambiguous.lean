import SymbolSearch.Proofs.Jsonc.Lexical

set_option autoImplicit false

namespace SymbolSearch.Jsonc

def MarkFirst (tokens : List Token) : Prop :=
  ∀ token ∈ tokens.head?, token.isMark

def Parted : List Token → Prop
  | [] => True
  | token :: rest => (token.isMark ∨ MarkFirst rest) ∧ Parted rest

theorem Space.stops {gap text : List Char} (space : Space gap) (stop : Stops isWordChar text) :
    Stops isWordChar (gap ++ text) := by
  cases gap with
  | nil => exact stop
  | cons c gap =>
    have blank := isBlank_of_isSpace (space c (by simp))
    rw [List.cons_append, stops_cons, Bool.eq_false_iff]
    intro word
    simp [(isWordChar_apart word).1] at blank

theorem Spelling.stops {token : Token} {spelling : List Char} (spelled : Spelling token spelling)
    (text : List Char) : Stops Json.Cursor.isSpace (spelling ++ text) := by
  obtain ⟨c, more, rfl, notBlank, -⟩ := spelled.head
  rw [List.cons_append, stops_cons, Bool.eq_false_iff]
  intro space
  simp [isBlank_of_isSpace space] at notBlank

theorem Dialect.Spaced.stops {tokens : List Token} {text : List Char}
    (spaced : plain.Spaced tokens text) (mark : MarkFirst tokens) : Stops isWordChar text := by
  cases spaced with
  | nil space => simpa using Space.stops space (stops_nil isWordChar)
  | cons between spelled rest =>
    apply Space.stops between
    cases spelled with
    | mark bracket => simpa using bracket.not_isWordChar
    | word => simp [MarkFirst, Token.isMark] at mark
    | text => simp [MarkFirst, Token.isMark] at mark

theorem Space.ne_spelled {text gap spelling behind : List Char} {token : Token}
    (space : Space text) (spelled : Spelling token spelling) :
    text ≠ gap ++ (spelling ++ behind) := by
  obtain ⟨c, more, rfl, notBlank, -⟩ := spelled.head
  rintro rfl
  simp [isBlank_of_isSpace (space c (by simp))] at notBlank

theorem Dialect.Spaced.unique {tokens others : List Token} {text other : List Char}
    (first : plain.Spaced tokens text) (second : plain.Spaced others other)
    (parted : Parted tokens) (apart : Parted others) (same : text = other) : tokens = others := by
  induction first generalizing others other with
  | nil space =>
    cases second with
    | nil => rfl
    | cons _ spelled _ => exact absurd same (Space.ne_spelled space spelled)
  | cons between spelled rest ih =>
    cases second with
    | nil space => exact absurd same.symm (Space.ne_spelled space spelled)
    | cons between' spelled' rest' =>
      -- No token begins with space, so both gaps are all the space there is.
      obtain ⟨-, behindGap⟩ :=
        run_unique between between' (spelled.stops _) (spelled'.stops _) same
      obtain ⟨rfl, behind⟩ := spelled.unique spelled' (parted.1.imp_right rest.stops)
        (apart.1.imp_right rest'.stops) behindGap
      rw [ih rest' parted.2 apart.2 behind]

variable {trailingCommas : Bool} {form : Form} {tokens rest : List Token}

theorem Reads.not_closesFirst (reads : Reads trailingCommas form tokens rest) :
    closesFirst tokens = false := by
  induction reads with
  | lastItem _ _ ih => exact ih
  | item _ _ ih => exact ih
  | _ => rfl

theorem Reads.ne_nil (reads : Reads trailingCommas form tokens rest) : tokens ≠ [] := by
  induction reads with
  | lastItem _ _ ih => exact ih
  | item _ _ ih => exact ih
  | _ => exact List.cons_ne_nil _ _

@[simp] theorem markFirst_mark (mark : Mark) : MarkFirst (.mark mark :: rest) := by
  simp [MarkFirst, Token.isMark]

@[simp] theorem parted_mark (mark : Mark) : Parted (.mark mark :: rest) ↔ Parted rest := by
  simp [Parted, Token.isMark]

theorem Closes.parted {bracket : Mark} (close : Closes trailingCommas bracket rest tokens)
    (parted : Parted rest) : MarkFirst tokens ∧ Parted tokens := by
  cases close <;> simpa using parted

theorem Reads.parted (reads : Reads trailingCommas form tokens rest) (mark : MarkFirst rest)
    (parted : Parted rest) : Parted tokens := by
  induction reads with
  | scalar => exact ⟨.inr mark, parted⟩
  | emptyArray => simpa using parted
  | emptyObject => simpa using parted
  | array _ ih => simpa using ih mark parted
  | object _ ih => simpa using ih mark parted
  | lastItem _ close ih =>
    obtain ⟨mark, parted⟩ := close.parted parted
    exact ih mark parted
  | item _ _ first more => exact first (by simp) (by simpa using more mark parted)
  | lastMember _ close ih =>
    obtain ⟨mark, parted⟩ := close.parted parted
    exact ⟨.inr (by simp), by simpa using ih mark parted⟩
  | member _ _ first more =>
    have value := first (by simp) (by simpa using more mark parted)
    exact ⟨.inr (by simp), by simpa using value⟩

theorem Closes.eq_bare {bracket : Mark} (close : Closes false bracket rest tokens) :
    tokens = .mark bracket :: rest := by
  cases close with
  | bare => rfl
  | comma allowed => cases allowed

theorem Closes.unique {bracket : Mark} {left : List Token}
    (close : Closes false bracket rest tokens) (other : Closes false bracket left tokens) :
    rest = left :=
  (List.cons.inj (close.eq_bare.symm.trans other.eq_bare)).2

def Form.Alike : Form → Form → Prop
  | .value _, .value _ => True
  | .items _, .items _ => True
  | .members _, .members _ => True
  | _, _ => False

theorem Reads.unique {other : Form} {left : List Token} (first : Reads false form tokens rest)
    (second : Reads false other tokens left) (alike : form.Alike other) :
    form = other ∧ rest = left := by
  -- Which rule the second reading can end with is told by the first token, and behind a value by
  -- the token that the induction hypothesis says comes next.
  induction first generalizing other left with
  | scalar =>
    cases second with
    | scalar => exact ⟨rfl, rfl⟩
    | _ => cases alike
  | emptyArray =>
    cases second with
    | emptyArray => exact ⟨rfl, rfl⟩
    | array inside => cases inside.not_closesFirst
    | _ => cases alike
  | array inside ih =>
    cases second with
    | emptyArray => cases inside.not_closesFirst
    | array inside' =>
      obtain ⟨same, behind⟩ := ih inside' trivial
      cases same
      exact ⟨rfl, behind⟩
    | _ => cases alike
  | emptyObject =>
    cases second with
    | emptyObject => exact ⟨rfl, rfl⟩
    | object inside => cases inside.not_closesFirst
    | _ => cases alike
  | object inside ih =>
    cases second with
    | emptyObject => cases inside.not_closesFirst
    | object inside' =>
      obtain ⟨same, behind⟩ := ih inside' trivial
      cases same
      exact ⟨rfl, behind⟩
    | _ => cases alike
  | lastItem _ close ih =>
    cases second with
    | lastItem last' close' =>
      obtain ⟨same, rfl⟩ := ih last' trivial
      cases same
      exact ⟨rfl, close.unique close'⟩
    | item first' =>
      obtain ⟨-, rfl⟩ := ih first' trivial
      nomatch close
    | _ => cases alike
  | item _ _ first more =>
    cases second with
    | lastItem last' close' =>
      obtain ⟨-, rfl⟩ := first last' trivial
      nomatch close'
    | item first' more' =>
      obtain ⟨same, behind⟩ := first first' trivial
      cases same
      cases behind
      obtain ⟨same, behind⟩ := more more' trivial
      cases same
      exact ⟨rfl, behind⟩
    | _ => cases alike
  | lastMember _ close ih =>
    cases second with
    | lastMember last' close' =>
      obtain ⟨same, rfl⟩ := ih last' trivial
      cases same
      exact ⟨rfl, close.unique close'⟩
    | member first' =>
      obtain ⟨-, rfl⟩ := ih first' trivial
      nomatch close
    | _ => cases alike
  | member _ _ first more =>
    cases second with
    | lastMember last' close' =>
      obtain ⟨-, rfl⟩ := first last' trivial
      nomatch close'
    | member first' more' =>
      obtain ⟨same, behind⟩ := first first' trivial
      cases same
      cases behind
      obtain ⟨same, behind⟩ := more more' trivial
      cases same
      exact ⟨rfl, behind⟩
    | _ => cases alike

theorem plain_unique {value other : Value} {text : List Char} (first : plain.Renders value text)
    (second : plain.Renders other text) : value = other := by
  obtain ⟨tokens, reads, spaced⟩ := first
  obtain ⟨others, reads', spaced'⟩ := second
  have parted := reads.parted (by simp [MarkFirst]) trivial
  have apart := reads'.parted (by simp [MarkFirst]) trivial
  obtain rfl := spaced.unique spaced' parted apart rfl
  cases (reads.unique reads' trivial).1
  rfl

end SymbolSearch.Jsonc
