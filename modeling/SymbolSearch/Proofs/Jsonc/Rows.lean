import Mathlib.Data.List.NodupEquivFin
import Mathlib.Order.WellFounded
import SymbolSearch.Project
import SymbolSearch.Proofs.Json.Faults
import SymbolSearch.Proofs.Text.Windows

set_option autoImplicit false

namespace SymbolSearch

namespace Text

structure Thins (short long : List Char) : Prop where
  sublist : short.Sublist long
  newlines : short.count '\n' = long.count '\n'

namespace Thins

variable {c : Char} {short middle long : List Char}

theorem refl (text : List Char) : Thins text text :=
  ⟨.refl text, rfl⟩

theorem trans (first : Thins short middle) (second : Thins middle long) : Thins short long :=
  ⟨first.sublist.trans second.sublist, first.newlines.trans second.newlines⟩

theorem keep (c : Char) (thins : Thins short long) : Thins (c :: short) (c :: long) :=
  ⟨thins.sublist.cons_cons c, by simp [List.count_cons, thins.newlines]⟩

theorem drop (thins : Thins short long) (other : c ≠ '\n') : Thins short (c :: long) :=
  ⟨thins.sublist.cons c, by simp [thins.newlines, other]⟩

end Thins

section Places

variable {short long : List Char} {place : ℕ ↪o ℕ} {cut before behind : ℕ}

theorem sublists_of_found (found : ∀ offset, short[offset]? = long[place offset]?)
    (front : ∀ offset < cut, place offset < before) (back : ∀ offset ≥ cut, behind ≤ place offset)
    (apart : before ≤ behind) :
    (short.take cut).Sublist (long.take before) ∧
      (short.drop cut).Sublist (long.drop behind) := by
  constructor
  · apply List.sublist_of_orderEmbedding_getElem?_eq place
    intro offset
    by_cases inFront : offset < cut
    · simp [inFront, front offset inFront, found]
    · have := back offset (by omega)
      simp [List.getElem?_take, inFront]
      omega
  · have rises : StrictMono fun offset => place (cut + offset) - behind := by
      intro first second less
      have := place.strictMono (Nat.add_lt_add_left less cut)
      have := back (cut + first) (by omega)
      dsimp only
      omega
    apply List.sublist_of_orderEmbedding_getElem?_eq (.ofStrictMono _ rises)
    intro offset
    have := back (cut + offset) (by omega)
    simp [List.getElem?_drop, found, Nat.add_sub_cancel' this]

theorem count_split (text : List Char) (offset : ℕ) :
    text.count '\n' = rowAt text offset + (text.drop offset).count '\n' := by
  rw [rowAt, ← List.count_append, List.take_append_drop]

theorem Thins.rowAt_eq (thins : Thins short long)
    (found : ∀ offset, short[offset]? = long[place offset]?) (offset : ℕ) :
    rowAt short offset = rowAt long (place offset) := by
  have front : ∀ earlier < offset, place earlier < place offset := fun _ less =>
    place.strictMono less
  have back : ∀ later ≥ offset, place offset ≤ place later := fun _ more => place.monotone more
  obtain ⟨front, back⟩ := sublists_of_found found front back (Nat.le_refl _)
  have front : rowAt short offset ≤ rowAt long (place offset) := front.count_le '\n'
  have back := back.count_le '\n'
  have same := thins.newlines
  rw [count_split short offset, count_split long (place offset)] at same
  omega

theorem Thins.newline_found (thins : Thins short long)
    (found : ∀ offset, short[offset]? = long[place offset]?) {newline : ℕ}
    (here : long[newline]? = some '\n') : ∃ offset, place offset = newline := by
  by_contra missed
  rw [not_exists] at missed
  have passed : ∃ offset, newline ≤ place offset := ⟨newline, place.strictMono.le_apply⟩
  let cut := Nat.find passed
  have front : ∀ offset < cut, place offset < newline := fun offset less => by
    simpa using Nat.find_min passed less
  have back : ∀ offset ≥ cut, newline + 1 ≤ place offset := fun offset more =>
    Nat.lt_of_le_of_ne (Nat.le_trans (Nat.find_spec passed) (place.monotone more))
      (Ne.symm (missed offset))
  obtain ⟨front, back⟩ := sublists_of_found found front back (Nat.le_succ newline)
  have front : rowAt short cut ≤ rowAt long newline := front.count_le '\n'
  have back := back.count_le '\n'
  have same := thins.newlines
  obtain ⟨inside, newlineHere⟩ := List.getElem?_eq_some_iff.mp here
  rw [count_split short cut, count_split long newline, List.drop_eq_getElem_cons inside,
    newlineHere, List.count_cons_self] at same
  omega

end Places

end Text

namespace Jsonc

open Text (Thins rowAt)

theorem withoutComments_thins (state : CommentState) (text : List Char) :
    Thins (withoutComments state text) text := by
  fun_induction withoutComments state text with
  | case1 => exact .refl []
  | case2 rest ih => exact (ih.drop (by decide)).drop (by decide)
  | case3 rest ih => exact (ih.drop (by decide)).drop (by decide)
  | case4 c rest _ _ ih => exact ih.keep c
  | case5 c rest ih => exact ih.keep c
  | case6 c rest ih => exact ih.keep c
  | case7 rest ih => exact ih.keep '\n'
  | case8 c rest other ih => exact ih.drop other
  | case9 star c rest closes ih =>
    have slash : c = '/' := by simp at closes; exact closes.2
    exact ih.drop (by rw [slash]; decide)
  | case10 star rest _ ih => exact ih.keep '\n'
  | case11 star c rest _ other ih => exact ih.drop other

theorem withoutTrailingCommas_thins (state : CommaState) (text : List Char) :
    Thins (withoutTrailingCommas state text) text := by
  fun_induction withoutTrailingCommas state text with
  | case1 => exact .refl []
  | case2 c rest comma ih =>
    have comma : c = ',' := by simp at comma; exact comma.1
    exact ih.drop (by rw [comma]; decide)
  | case3 c rest _ ih => exact ih.keep c
  | case4 c rest ih => exact ih.keep c
  | case5 c rest ih => exact ih.keep c

theorem strip_thins (text : String) : Thins (strip text).toList text.toList := by
  rw [strip, String.toList_ofList]
  exact (withoutTrailingCommas_thins _ _).trans (withoutComments_thins _ _)

end Jsonc

namespace ProjectText

open Json (KeepsToText)
open Json.Reader

theorem patterns_keeps : KeepsToText patterns :=
  nullable_keeps (list_keeps text_keeps)

theorem compilerReader_keeps : KeepsToText compilerReader := by
  apply record_keeps
  simp only [List.forall_mem_cons, List.not_mem_nil, false_implies, implies_true, and_true]
  exact ⟨member_keeps bool_keeps, member_keeps (nullable_keeps text_keeps)⟩

theorem reader_keeps : KeepsToText reader := by
  apply record_keeps
  simp only [List.forall_mem_cons, List.not_mem_nil, false_implies, implies_true, and_true]
  exact ⟨member_keeps patterns_keeps, member_keeps patterns_keeps, member_keeps patterns_keeps,
    member_keeps compilerReader_keeps⟩

end ProjectText

namespace Jsonc

open Text (rowAt)

theorem strip_keeps_rows (text : String) :
    ∃ place : ℕ ↪o ℕ,
      (∀ offset : ℕ, (strip text).toList[offset]? = text.toList[place offset]?) ∧
      (∀ newline : ℕ, text.toList[newline]? = some '\n' → ∃ offset, place offset = newline) ∧
      (∀ offset, rowAt (strip text).toList offset = rowAt text.toList (place offset)) ∧
      ∀ fault, Json.Reader.ofText ProjectText.reader (strip text) = .error fault →
        1 ≤ fault.line ∧ fault.line ≤ text.toList.count '\n' + 1 := by
  have thins := strip_thins text
  obtain ⟨place, found⟩ := List.sublist_iff_exists_orderEmbedding_getElem?_eq.mp thins.sublist
  refine ⟨place, found, fun newline here => thins.newline_found found here, thins.rowAt_eq found,
    fun fault failed => ?_⟩
  rw [← thins.newlines]
  exact Json.Reader.ofText_fault_line ProjectText.reader_keeps failed

def brokenText : String :=
  "/*\n*/ \x7b\n // none\n \"files\": 1,\n\x7d"

theorem strip_keeps_rows_broken :
    ∃ fault, Json.Reader.ofText ProjectText.reader (strip brokenText) = .error fault ∧
      fault.line = 4 ∧ 1 ≤ fault.line ∧ fault.line ≤ brokenText.toList.count '\n' + 1 := by
  obtain ⟨fault, failed, line⟩ : ∃ fault,
      Json.Reader.ofText ProjectText.reader (strip brokenText) = .error fault ∧ fault.line = 4 :=
    ⟨_, by with_unfolding_all rfl, by decide⟩
  obtain ⟨place, -, -, -, real⟩ := strip_keeps_rows brokenText
  exact ⟨fault, failed, line, real fault failed⟩

end Jsonc

end SymbolSearch
