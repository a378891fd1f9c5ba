import SymbolSearch.Proofs.Syntax.Layout
import SymbolSearch.Syntax.Outline

set_option autoImplicit false

namespace SymbolSearch.Syntax

open List (suffix_cons suffix_rfl nil_suffix)

theorem skipStatementTail_suffix (skim : Skim) (tokens : List Token) :
    skipStatementTail skim tokens <:+ tokens := by
  induction tokens generalizing skim with
  | nil => exact suffix_rfl
  | cons token rest ih =>
    rw [skipStatementTail]
    split
    next => exact suffix_cons token rest
    split
    next => exact suffix_rfl
    next => exact (ih _).trans (suffix_cons token rest)

theorem skipMemberTail_suffix (skim : Skim) (tokens : List Token) :
    skipMemberTail skim tokens <:+ tokens := by
  induction tokens generalizing skim with
  | nil => exact suffix_rfl
  | cons token rest ih =>
    rw [skipMemberTail]
    split
    next => exact suffix_cons token rest
    split
    next => exact suffix_rfl
    next => exact (ih _).trans (suffix_cons token rest)

theorem findBody_suffix {skim : Skim} {tokens items behind : List Token}
    (found : findBody skim tokens = some (items, behind)) :
    ∃ token, token.block? = some items ∧ token :: behind <:+ tokens := by
  induction tokens generalizing skim with
  | nil => simp [findBody] at found
  | cons token rest ih =>
    rw [findBody] at found
    split at found
    next block =>
      obtain ⟨rfl, rfl⟩ := Prod.mk.inj (Option.some.inj found)
      exact ⟨token, block, suffix_rfl⟩
    next =>
      obtain ⟨token', block, suffix⟩ := ih found
      exact ⟨token', block, suffix.trans (suffix_cons token rest)⟩

theorem findFunctionBody_suffix (skim : Skim) (tokens : List Token) :
    (findFunctionBody skim tokens).2 <:+ tokens := by
  induction tokens generalizing skim with
  | nil => exact suffix_rfl
  | cons token rest ih =>
    rw [findFunctionBody]
    split
    next => exact suffix_cons token rest
    split
    next => exact suffix_cons token rest
    split
    next => exact suffix_rfl
    next => exact (ih _).trans (suffix_cons token rest)

theorem skipGroup_suffix (bracket : Char) (tokens : List Token) :
    skipGroup bracket tokens <:+ tokens := by
  unfold skipGroup
  split
  next token rest =>
    split
    next => exact suffix_cons token rest
    next => exact suffix_rfl
  next => exact suffix_rfl

theorem skipHandlers_suffix (fuel : Nat) (tokens : List Token) :
    skipHandlers fuel tokens <:+ tokens := by
  induction fuel generalizing tokens with
  | zero => simp only [skipHandlers, suffix_rfl]
  | succ fuel ih =>
    cases tokens with
    | nil => simp only [skipHandlers, suffix_rfl]
    | cons token rest =>
      have group := skipGroup_suffix '{' rest
      rw [skipHandlers]
      split
      next =>
        have both := (skipGroup_suffix '{' _).trans (skipGroup_suffix '(' rest)
        exact (ih _).trans (both.trans (suffix_cons token rest))
      split
      next => exact group.trans (suffix_cons token rest)
      next => exact suffix_rfl

theorem skipDecorator_suffix (tokens : List Token) : skipDecorator tokens <:+ tokens := by
  fun_induction skipDecorator tokens <;> grind [List.suffix_cons_iff]

theorem skipDecorators_suffix (fuel : Nat) (tokens : List Token) :
    skipDecorators fuel tokens <:+ tokens := by
  induction fuel generalizing tokens with
  | zero => exact suffix_rfl
  | succ fuel ih =>
    unfold skipDecorators
    split
    next token rest =>
      split
      next => exact (ih _).trans ((skipDecorator_suffix rest).trans (suffix_cons token rest))
      next => exact suffix_rfl
    next => exact suffix_rfl

theorem memberHead_suffix (tokens : List Token) : (memberHead tokens).rest <:+ tokens := by
  fun_induction memberHead tokens <;> grind

theorem dropMark_suffix (tokens : List Token) : dropMark tokens <:+ tokens := by
  unfold dropMark
  split
  next token rest =>
    split
    next => exact suffix_cons token rest
    next => exact suffix_rfl
  next => exact suffix_rfl

theorem classMember_suffix (tokens : List Token) : (classMember tokens).2 <:+ tokens := by
  have head := memberHead_suffix tokens
  rw [classMember]
  dsimp only
  split
  next => exact nil_suffix
  next name rest here =>
    rw [here] at head
    have mark := (dropMark_suffix rest).trans ((suffix_cons name rest).trans head)
    split
    next => exact (findFunctionBody_suffix ..).trans mark
    next => exact (skipMemberTail_suffix ..).trans mark

theorem classMember_row (token : Token) (rest : List Token) :
    (classMember (token :: rest)).1.row = token.row := by
  rw [classMember]
  split
  next => rfl
  split <;> rfl

theorem interfaceMember_suffix (tokens : List Token) : (interfaceMember tokens).2 <:+ tokens := by
  have head := memberHead_suffix tokens
  rw [interfaceMember]
  split
  next => exact nil_suffix
  next name rest here =>
    rw [here] at head
    have mark := (dropMark_suffix rest).trans ((suffix_cons name rest).trans head)
    split
    next => exact (skipMemberTail_suffix ..).trans head
    split
    next => exact (skipMemberTail_suffix ..).trans mark
    next => exact (skipMemberTail_suffix ..).trans mark

theorem interfaceMember_row (token : Token) (rest : List Token) :
    (interfaceMember (token :: rest)).1.row = token.row := by
  rw [interfaceMember]
  split
  next => rfl
  split
  next => rfl
  split <;> rfl

theorem functionHead_suffix (tokens : List Token) : (functionHead tokens).rest <:+ tokens := by
  unfold functionHead
  grind [List.suffix_cons_iff]

end SymbolSearch.Syntax
