import SymbolSearch.Proofs.Syntax.Places

set_option autoImplicit false

namespace SymbolSearch.Syntax

open SymbolSearch.Text (rowAt)

structure Stands (source : List Char) (start own stop row : Nat) : Prop where
  after : start ≤ own
  before : own ≤ stop
  inside : own < source.length
  row : row = rowAt source own

mutual

-- The items of a group stand behind its bracket, and tokens of a list one behind the other.
def Token.Within (source : List Char) (start stop : Nat) : Token → Prop
  | .leaf _ _ row _ => ∃ own, Stands source start own stop row
  | .group _ items _ row _ =>
    ∃ own, Stands source start own stop row ∧ TokensWithin source own stop items

def TokensWithin (source : List Char) (start stop : Nat) : List Token → Prop
  | [] => start ≤ stop
  | token :: rest => ∃ next, token.Within source start next ∧ TokensWithin source next stop rest

end

variable {source : List Char} {start own next stop row first last : Nat} {token : Token}
  {tokens behind : List Token}

theorem Stands.le (stands : Stands source start own stop row) : start ≤ stop :=
  Nat.le_trans stands.after stands.before

theorem Stands.earlier (stands : Stands source start own stop row) (earlier : first ≤ own) :
    Stands source first own stop row :=
  { stands with after := earlier }

theorem Stands.later (stands : Stands source start own stop row) (later : stop ≤ last) :
    Stands source start own last row :=
  { stands with before := Nat.le_trans stands.before later }

theorem Token.Within.stands (within : token.Within source start stop) :
    ∃ own, Stands source start own stop token.row ∧
      ∀ first ≤ own, token.Within source first stop := by
  cases token with
  | leaf =>
    rw [Token.Within] at within
    obtain ⟨own, stands⟩ := within
    refine ⟨own, stands, ?_⟩
    intro first before
    rw [Token.Within]
    exact ⟨own, stands.earlier before⟩
  | group =>
    rw [Token.Within] at within
    obtain ⟨own, stands, items⟩ := within
    refine ⟨own, stands, ?_⟩
    intro first before
    rw [Token.Within]
    exact ⟨own, stands.earlier before, items⟩

theorem Token.Within.le (within : token.Within source start stop) : start ≤ stop := by
  obtain ⟨_, stands, _⟩ := within.stands
  exact stands.le

theorem Token.Within.earlier (within : token.Within source start stop) (earlier : first ≤ start) :
    token.Within source first stop := by
  obtain ⟨_, stands, all⟩ := within.stands
  exact all first (Nat.le_trans earlier stands.after)

theorem TokensWithin.le (within : TokensWithin source start stop tokens) : start ≤ stop := by
  induction tokens generalizing start with
  | nil => simpa only [TokensWithin] using within
  | cons token tokens ih =>
    rw [TokensWithin] at within
    obtain ⟨next, here, rest⟩ := within
    exact Nat.le_trans here.le (ih rest)

theorem TokensWithin.later (within : TokensWithin source start stop tokens) (later : stop ≤ last) :
    TokensWithin source start last tokens := by
  induction tokens generalizing start with
  | nil =>
    rw [TokensWithin] at within ⊢
    exact Nat.le_trans within later
  | cons token tokens ih =>
    rw [TokensWithin] at within ⊢
    obtain ⟨next, here, rest⟩ := within
    exact ⟨next, here, ih rest⟩

theorem TokensWithin.concat (within : TokensWithin source start next tokens)
    (last : token.Within source next stop) :
    TokensWithin source start stop (tokens ++ [token]) := by
  induction tokens generalizing start with
  | nil =>
    rw [TokensWithin] at within
    rw [List.nil_append, TokensWithin]
    exact ⟨stop, last.earlier within, by simp [TokensWithin]⟩
  | cons head tokens ih =>
    rw [TokensWithin] at within
    obtain ⟨middle, here, rest⟩ := within
    rw [List.cons_append, TokensWithin]
    exact ⟨middle, here, ih rest⟩

theorem TokensWithin.stands (within : TokensWithin source start stop (token :: tokens)) :
    ∃ own, Stands source start own stop token.row ∧
      TokensWithin source own stop (token :: tokens) := by
  rw [TokensWithin] at within
  obtain ⟨next, here, rest⟩ := within
  obtain ⟨own, stands, all⟩ := here.stands
  refine ⟨own, stands.later rest.le, ?_⟩
  rw [TokensWithin]
  exact ⟨next, all own (Nat.le_refl _), rest⟩

theorem TokensWithin.suffix (within : TokensWithin source start stop tokens)
    (suffix : behind <:+ tokens) : ∃ next, start ≤ next ∧ TokensWithin source next stop behind := by
  induction tokens generalizing start with
  | nil =>
    obtain rfl := List.suffix_nil.mp suffix
    exact ⟨start, Nat.le_refl _, within⟩
  | cons token tokens ih =>
    rcases List.suffix_cons_iff.mp suffix with rfl | suffix
    · exact ⟨start, Nat.le_refl _, within⟩
    · rw [TokensWithin] at within
      obtain ⟨middle, here, rest⟩ := within
      obtain ⟨next, after, laid⟩ := ih rest suffix
      exact ⟨next, Nat.le_trans here.le after, laid⟩

theorem Place.Of.stands {place behind : Place} (isPlace : place.Of source)
    (leads : place.Leads behind) (more : place.rest ≠ []) :
    Stands source place.offset place.offset behind.offset place.row := by
  obtain ⟨c, rest, here⟩ := List.exists_cons_of_ne_nil more
  exact ⟨Nat.le_refl _, leads.offset_le, isPlace.lt_length here, isPlace.row⟩

theorem scanItems_within {place : Place} {scanned : List Token} (markup : Bool) (fuel : Nat)
    (close : Option Char) (context : Context) (isPlace : place.Of source)
    (laid : TokensWithin source first place.offset scanned.reverse) :
    TokensWithin source first (scanItems markup fuel close context place scanned).2.offset
      (scanItems markup fuel close context place scanned).1 := by
  -- For a group the scan starts again behind its bracket, with nothing scanned; so the offset that
  -- the tokens stand behind has to be general.
  induction fuel generalizing first place close context scanned with
  | zero => exact laid
  | succ fuel ih =>
    have step := scanItems_step (scansLead markup fuel) close context place scanned
    have space := skipSpace_leads place
    have isStart := isPlace.leads space
    have laid := laid.later space.offset_le
    generalize scanItems markup (fuel + 1) close context place scanned = scan at step ⊢
    generalize (skipSpace place).1 = fresh at step
    generalize (skipSpace place).2 = start at step isStart laid
    cases step with
    | ends leads => exact laid.later leads.offset_le
    | leaf sort text context more leads =>
      apply ih _ _ (isStart.leads leads)
      rw [List.reverse_cons]
      apply laid.concat
      rw [Token.Within]
      exact ⟨_, isStart.stands leads more⟩
    | @group items stop bracket text inner outer more inside =>
      have leads := (scansLead markup fuel).items (some (closing bracket)) inner start.next []
      have empty : TokensWithin source start.offset start.next.offset [].reverse := by
        simpa [TokensWithin] using start.offset_le_next
      have within := ih (some (closing bracket)) inner isStart.next empty
      rw [inside] at leads within
      have leads : start.Leads stop := .next leads
      apply ih _ _ (isStart.leads leads)
      rw [List.reverse_cons]
      apply laid.concat
      rw [Token.Within]
      exact ⟨_, isStart.stands leads more, within⟩

theorem tokens_within (markup : Bool) (text : String) :
    TokensWithin text.toList 0 text.toList.length (Syntax.tokens markup text) := by
  have start := Place.of_ofText text.toList
  have scanFrom {first : Place} (leads : (Place.ofText text.toList).Leads first) (fuel : Nat) :
      TokensWithin text.toList 0 text.toList.length
        (scanItems markup fuel none .statement first []).1 := by
    have isFirst := start.leads leads
    have behind := (scansLead markup fuel).items none .statement first []
    have empty : TokensWithin text.toList 0 first.offset [].reverse := by simp [TokensWithin]
    have laid := scanItems_within markup fuel none .statement isFirst empty
    exact laid.later (isFirst.leads behind).inside
  rw [Syntax.tokens]
  split
  next => exact scanFrom (Place.leads_skipWhile ..) _
  next => exact scanFrom (.refl _) _

end SymbolSearch.Syntax
