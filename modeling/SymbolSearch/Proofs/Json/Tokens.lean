import SymbolSearch.Proofs.Json.Scanning

set_option autoImplicit false

namespace SymbolSearch.Json

open Jsonc (Mark MarkFirst Reads Space Spelled Spelling Token Value plain)

def Ahead (cursor : Cursor) (tokens : List Token) : Prop :=
  plain.Spaced tokens cursor.rest

section Tokens

variable {cursor : Cursor} {token : Token} {tokens : List Token} {spelling text : List Char}

theorem rest_skipSpace_split (cursor : Cursor) :
    ∃ gap, Space gap ∧ cursor.rest = gap ++ cursor.skipSpace.rest := by
  have split : ∀ (text : List Char) (cursor : Cursor), cursor.rest = text →
      ∃ gap, Space gap ∧ text = gap ++ (Cursor.skipSpace.go text cursor).rest := by
    intro text
    induction text with
    | nil => exact fun cursor here => ⟨[], space_nil, by simp [Cursor.skipSpace.go, here]⟩
    | cons c text ih =>
      intro cursor here
      by_cases white : Cursor.isSpace c
      · obtain ⟨gap, space, same⟩ := ih _ (cursor.rest_pass c text)
        refine ⟨c :: gap, List.forall_mem_cons.mpr ⟨white, space⟩, ?_⟩
        simp [Cursor.skipSpace.go, white, ← same]
      · exact ⟨[], space_nil, by simp [Cursor.skipSpace.go, white, here]⟩
  exact split cursor.rest cursor rfl

theorem Ahead.spelled (ahead : Ahead cursor (token :: tokens)) :
    ∃ spelling text, Spelling token spelling ∧ cursor.skipSpace.rest = spelling ++ text ∧
      plain.Spaced tokens text := by
  unfold Ahead at ahead
  generalize here : cursor.rest = whole at ahead
  cases ahead with
  | cons between spelled rest =>
    exact ⟨_, _, spelled, Cursor.rest_skipSpace_of_stops between (spelled.stops _) here, rest⟩

theorem ahead_of_spelled (spelled : Spelling token spelling)
    (here : cursor.skipSpace.rest = spelling ++ text) (rest : plain.Spaced tokens text) :
    Ahead cursor (token :: tokens) := by
  obtain ⟨gap, space, whole⟩ := rest_skipSpace_split cursor
  rw [Ahead, whole, here]
  exact .cons space spelled rest

theorem ahead_of_skipSpace (ahead : Ahead cursor.skipSpace tokens) : Ahead cursor tokens := by
  obtain ⟨gap, space, whole⟩ := rest_skipSpace_split cursor
  rw [Ahead, whole]
  exact ahead.space space

theorem Ahead.skipSpace (ahead : Ahead cursor tokens) : Ahead cursor.skipSpace tokens := by
  unfold Ahead at ahead
  generalize here : cursor.rest = whole at ahead
  cases ahead with
  | nil space =>
    rw [Ahead, Cursor.rest_skipSpace_end space here]
    exact .nil space_nil
  | cons between spelled rest =>
    rw [Ahead, Cursor.rest_skipSpace_of_stops between (spelled.stops _) here]
    exact token_spaced spelled rest

theorem Ahead.end (ahead : Ahead cursor []) : cursor.skipSpace.rest = [] := by
  unfold Ahead at ahead
  generalize here : cursor.rest = whole at ahead
  cases ahead with
  | nil space => exact Cursor.rest_skipSpace_end space here

theorem ahead_of_end (nothing : cursor.skipSpace.rest = []) : Ahead cursor [] := by
  refine ahead_of_skipSpace ?_
  rw [Ahead, nothing]
  exact .nil space_nil

theorem Ahead.marked {mark : Mark} (ahead : Ahead cursor (.mark mark :: tokens)) :
    (∃ text, cursor.skipSpace.rest = mark.char :: text) ∧ Ahead cursor.skipSpace.next tokens := by
  obtain ⟨_, text, ⟨⟩, here, rest⟩ := ahead.spelled
  exact ⟨⟨text, here⟩, by rwa [Ahead, Cursor.rest_next here]⟩

theorem ahead_of_mark (mark : Mark) (here : cursor.skipSpace.rest = mark.char :: text)
    (rest : Ahead cursor.skipSpace.next tokens) : Ahead cursor (.mark mark :: tokens) := by
  rw [Ahead, Cursor.rest_next here] at rest
  exact ahead_of_spelled (.mark mark) here rest

theorem Ahead.quoted {units : List Nat} (ahead : Ahead cursor (.scalar (.text units) :: tokens)) :
    ∃ body text, Spelled units body ∧ cursor.skipSpace.rest = '"' :: (body ++ '"' :: text) ∧
      plain.Spaced tokens text := by
  obtain ⟨_, text, spelled, here, rest⟩ := ahead.spelled
  cases spelled with
  | word spelled => cases spelled
  | text spelled => exact ⟨_, text, spelled, by simpa using here, rest⟩

theorem ahead_of_quoted {units : List Nat} {body rest : List Char} (spelled : Spelled units body)
    (quote : cursor.skipSpace.rest = '"' :: rest) (here : rest = body ++ '"' :: text)
    (more : plain.Spaced tokens text) : Ahead cursor (.scalar (.text units) :: tokens) :=
  ahead_of_spelled (.text spelled) (by simp [quote, here]) more

theorem length_le_spaced {text : List Char} (spaced : plain.Spaced tokens text) :
    tokens.length ≤ text.length := by
  induction spaced with
  | nil => exact Nat.zero_le _
  | cons _ spelled _ ih =>
    obtain ⟨c, more, rfl, -⟩ := spelled.head
    simp only [List.length_append, List.length_cons]
    omega

end Tokens

section Parts

variable {first : Bool} {value : Value} {tokens rest : List Token}

theorem markFirst_nil : MarkFirst [] := by
  simp [MarkFirst]

theorem reads_shorter {form : Jsonc.Form} (reads : Reads false form tokens rest) :
    rest.length < tokens.length := by
  induction reads with
  | lastItem _ close =>
    cases close.eq_bare
    simp only [List.length_cons] at *
    omega
  | lastMember _ close =>
    cases close.eq_bare
    simp only [List.length_cons] at *
    omega
  | _ =>
    simp only [List.length_cons] at *
    omega

def separated (first : Bool) (tokens : List Token) : List Token :=
  if first then tokens else .mark .comma :: tokens

theorem length_le_separated (first : Bool) (tokens : List Token) :
    tokens.length ≤ (separated first tokens).length := by
  cases first
  · exact Nat.le_succ _
  · exact Nat.le_refl _

def ItemTokens (first : Bool) (items : List Value) (tokens rest : List Token) : Prop :=
  (items = [] ∧ tokens = .mark .closeArray :: rest) ∨
    ∃ more, tokens = separated first more ∧ Reads false (.items items) more rest

def MemberTokens (first : Bool) (members : List (List Nat × Value)) (tokens rest : List Token) :
    Prop :=
  (members = [] ∧ tokens = .mark .closeObject :: rest) ∨
    ∃ more, tokens = separated first more ∧ Reads false (.members members) more rest

theorem reads_array {items : List Value} :
    Reads false (.value (.array items)) tokens rest ↔
      ∃ more, tokens = .mark .openArray :: more ∧ ItemTokens true items more rest := by
  constructor
  · intro reads
    cases reads with
    | emptyArray => exact ⟨_, rfl, .inl ⟨rfl, rfl⟩⟩
    | array inside => exact ⟨_, rfl, .inr ⟨_, rfl, inside⟩⟩
  · rintro ⟨_, rfl, ⟨rfl, rfl⟩ | ⟨_, rfl, inside⟩⟩
    · exact .emptyArray
    · exact .array inside

theorem reads_object {members : List (List Nat × Value)} :
    Reads false (.value (.object members)) tokens rest ↔
      ∃ more, tokens = .mark .openObject :: more ∧ MemberTokens true members more rest := by
  constructor
  · intro reads
    cases reads with
    | emptyObject => exact ⟨_, rfl, .inl ⟨rfl, rfl⟩⟩
    | object inside => exact ⟨_, rfl, .inr ⟨_, rfl, inside⟩⟩
  · rintro ⟨_, rfl, ⟨rfl, rfl⟩ | ⟨_, rfl, inside⟩⟩
    · exact .emptyObject
    · exact .object inside

theorem itemTokens_nil : ItemTokens first [] tokens rest ↔ tokens = .mark .closeArray :: rest := by
  constructor
  · rintro (⟨-, rfl⟩ | ⟨_, -, ⟨⟩⟩)
    rfl
  · exact fun same => .inl ⟨rfl, same⟩

theorem itemTokens_cons {items : List Value} :
    ItemTokens first (value :: items) tokens rest ↔
      ∃ more middle, tokens = separated first more ∧ Reads false (.value value) more middle ∧
        ItemTokens false items middle rest := by
  constructor
  · rintro (⟨⟨⟩, -⟩ | ⟨more, rfl, reads⟩)
    cases reads with
    | lastItem last close =>
      cases close.eq_bare
      exact ⟨more, _, rfl, last, .inl ⟨rfl, rfl⟩⟩
    | item reads others => exact ⟨more, _, rfl, reads, .inr ⟨_, rfl, others⟩⟩
  · rintro ⟨more, _, rfl, reads, ⟨rfl, rfl⟩ | ⟨_, rfl, others⟩⟩
    · exact .inr ⟨more, rfl, .lastItem reads .bare⟩
    · exact .inr ⟨more, rfl, .item reads others⟩

theorem ItemTokens.markFirst {items : List Value} (listed : ItemTokens false items tokens rest) :
    MarkFirst tokens := by
  rcases listed with ⟨-, rfl⟩ | ⟨_, rfl, -⟩ <;> exact Jsonc.markFirst_mark _

theorem memberTokens_nil :
    MemberTokens first [] tokens rest ↔ tokens = .mark .closeObject :: rest := by
  constructor
  · rintro (⟨-, rfl⟩ | ⟨_, -, ⟨⟩⟩)
    rfl
  · exact fun same => .inl ⟨rfl, same⟩

theorem memberTokens_cons {name : List Nat} {members : List (List Nat × Value)} :
    MemberTokens first ((name, value) :: members) tokens rest ↔
      ∃ more middle, tokens = separated first (.scalar (.text name) :: .mark .colon :: more) ∧
        Reads false (.value value) more middle ∧ MemberTokens false members middle rest := by
  constructor
  · rintro (⟨⟨⟩, -⟩ | ⟨_, rfl, reads⟩)
    cases reads with
    | lastMember last close =>
      cases close.eq_bare
      exact ⟨_, _, rfl, last, .inl ⟨rfl, rfl⟩⟩
    | member reads others => exact ⟨_, _, rfl, reads, .inr ⟨_, rfl, others⟩⟩
  · rintro ⟨_, _, rfl, reads, ⟨rfl, rfl⟩ | ⟨_, rfl, others⟩⟩
    · exact .inr ⟨_, rfl, .lastMember reads .bare⟩
    · exact .inr ⟨_, rfl, .member reads others⟩

theorem MemberTokens.markFirst {members : List (List Nat × Value)}
    (listed : MemberTokens false members tokens rest) : MarkFirst tokens := by
  rcases listed with ⟨-, rfl⟩ | ⟨_, rfl, -⟩ <;> exact Jsonc.markFirst_mark _

end Parts

end SymbolSearch.Json
