import SymbolSearch.Proofs.Json.Exactness
import SymbolSearch.Proofs.Jsonc.Stripping

set_option autoImplicit false

namespace SymbolSearch

namespace Jsonc

def NoTrailingComma : List Token → Prop
  | [] => True
  | token :: rest => (token = .mark .comma → closesFirst rest = false) ∧ NoTrailingComma rest

theorem Reads.noTrailingComma {form : Form} {tokens rest : List Token}
    (reads : Reads false form tokens rest) (behind : NoTrailingComma rest) :
    NoTrailingComma tokens := by
  have other {token : Token} {rest : List Token} (noComma : token ≠ .mark .comma)
      (behind : NoTrailingComma rest) : NoTrailingComma (token :: rest) :=
    ⟨fun comma => absurd comma noComma, behind⟩
  induction reads with
  | scalar => exact other (by simp) behind
  | emptyArray => exact other (by simp) (other (by simp) behind)
  | emptyObject => exact other (by simp) (other (by simp) behind)
  | array _ ih => exact other (by simp) (ih behind)
  | object _ ih => exact other (by simp) (ih behind)
  | lastItem _ close ih =>
    cases close.eq_bare
    exact ih (other (by simp) behind)
  | item _ more ihFirst ihMore => exact ihFirst ⟨fun _ => more.not_closesFirst, ihMore behind⟩
  | lastMember _ close ih =>
    cases close.eq_bare
    exact other (by simp) (other (by simp) (ih (other (by simp) behind)))
  | member _ more ihFirst ihMore =>
    exact other (by simp) (other (by simp)
      (ihFirst ⟨fun _ => more.not_closesFirst, ihMore behind⟩))

theorem Dialect.Spaced.comments_kept {tokens : List Token} {text : List Char}
    (spaced : plain.Spaced tokens text) : withoutComments .code text = text := by
  induction spaced with
  | nil space => simpa [withoutComments] using copies_withoutComments.space space []
  | @cons token tokens gap spelling text between spelled _ ih =>
    rw [copies_withoutComments.space between]
    by_cases comma : token = .mark .comma
    · subst comma
      cases spelled
      simp [withoutComments, Mark.char, ih]
    · rw [copies_withoutComments.spelling spelled comma, ih]

theorem Dialect.Spaced.commas_kept {tokens : List Token} {text : List Char}
    (spaced : plain.Spaced tokens text) (none : NoTrailingComma tokens) :
    withoutTrailingCommas .code text = text := by
  induction spaced with
  | nil space => simpa [withoutTrailingCommas] using copies_withoutTrailingCommas.space space []
  | @cons token tokens gap spelling text between spelled rest ih =>
    rw [copies_withoutTrailingCommas.space between]
    by_cases comma : token = .mark .comma
    · -- What a comma looks ahead to in the text is the next token.
      have goesOn : closesNext text = false := rest.closesNext_eq.trans (none.1 comma)
      subst comma
      cases spelled
      simp [withoutTrailingCommas, Mark.char, goesOn, ih none.2]
    · rw [copies_withoutTrailingCommas.spelling spelled comma, ih none.2]

theorem strip_plain {value : Value} {text : String} (written : plain.Renders value text.toList) :
    strip text = text := by
  obtain ⟨tokens, reads, spaced⟩ := written
  rw [strip, spaced.comments_kept, spaced.commas_kept (reads.noTrailingComma trivial),
    String.ofList_toList]

end Jsonc

namespace Json.Reader

def anything : Reader Unit := fun cursor =>
  (skipValue cursor).map fun stop => ((), stop)

theorem anything_exactly : Exactly anything fun _ _ => True where
  finds := by
    rintro value ⟨⟩ tokens rest cursor - reads mark ahead
    obtain ⟨stop, skipped, ahead⟩ := skipValue_goesOn reads mark ahead
    exact ⟨stop, by simp [anything, skipped, Except.map], ahead⟩
  found := by
    intro result rest cursor stop found ahead
    obtain ⟨place, skipped, same⟩ := run_map found
    cases same
    obtain ⟨value, tokens, reads, before⟩ := skipValue_came skipped ahead
    exact ⟨value, tokens, trivial, reads, before⟩

end Json.Reader

open Json.Reader (anything anything_exactly ofText ofText_eq_ok)

theorem plain_json_untouched (text : String) :
    (ofText anything text = .ok () ↔ ∃ value, Jsonc.plain.Renders value text.toList) ∧
      (ofText anything text = .ok () → Jsonc.strip text = text) := by
  have accepted : ofText anything text = .ok () ↔
      ∃ value, Jsonc.plain.Renders value text.toList := by
    simpa using ofText_eq_ok anything_exactly
  refine ⟨accepted, fun read => ?_⟩
  obtain ⟨value, written⟩ := accepted.mp read
  exact Jsonc.strip_plain written

def markedText : String :=
  "[\"//,]\\\"\",-1.5e+3 ,{}\n]"

theorem plain_json_untouched_marks :
    ofText anything markedText = .ok () ∧ Jsonc.strip markedText = markedText := by
  have found : (ofText anything markedText).toOption = some () := by decide +kernel
  have read : ofText anything markedText = .ok () := by
    cases result : ofText anything markedText with
    | error fault =>
      rw [result] at found
      cases found
    | ok => rfl
  exact ⟨read, (plain_json_untouched markedText).2 read⟩

end SymbolSearch
