import Mathlib.Data.List.Chain
import Mathlib.Data.List.Sort
import SymbolSearch.Proofs.Text.Windows

set_option autoImplicit false

namespace SymbolSearch.Text

-- At most the radius away, in numbers that go below zero and have no largest one.
def Near (line radius number : Nat) : Prop :=
  (line : Int) - radius ≤ number ∧ (number : Int) ≤ line + radius

def clampedTo (count : Nat) (bound : Int) : Int :=
  max 1 (min bound count)

theorem filter_numbers (count : Nat) {first : Nat} (begun : 1 ≤ first) (last : Nat) :
    (List.range' 1 count).filter (fun number => first ≤ number ∧ number ≤ last) =
      List.range' first (min last count + 1 - first) := by
  apply List.SortedLT.eq_of_mem_iff
  · exact ((List.sortedLT_range' 1 count Nat.one_ne_zero).pairwise.filter _).sortedLT
  · exact List.sortedLT_range' _ _ Nat.one_ne_zero
  · intro number
    simp only [List.mem_filter, List.mem_range'_1, decide_eq_true_eq]
    omega

section Windows

variable {text : String} (numbered : (lines text).length < Nat.pow 2 32) (line radius : Nat)

include numbered

theorem lines_le_lineLimit : (lines text).length ≤ lineLimit :=
  Nat.le_sub_one_of_lt numbered

theorem window_numbers :
    (window text line radius).map Prod.fst =
      List.range' (max (line - radius) 1)
        (min (line + radius) (lines text).length + 1 - max (line - radius) 1) := by
  -- Every line has a number, so the largest number cuts nothing off.
  have limited : min (min (line + radius) lineLimit) (lines text).length =
      min (line + radius) (lines text).length := by
    have fits := lines_le_lineLimit numbered
    omega
  have among := filter_numbers (lines text).length (Nat.le_max_right (line - radius) 1)
    (min (line + radius) lineLimit)
  rw [limited, ← numberedLines_numbers, List.filter_map] at among
  rw [window_eq_filter, ← among]
  rfl

theorem mem_window_iff_near {number : Nat} {content : String} :
    (number, content) ∈ window text line radius ↔
      1 ≤ number ∧ Near line radius number ∧ (lines text)[number - 1]? = some content := by
  rw [mem_window, Near]
  constructor
  · rintro ⟨here, begun, _, _, _⟩
    exact ⟨begun, by omega, here⟩
  · rintro ⟨begun, near, here⟩
    obtain ⟨inside, _⟩ := List.getElem?_eq_some_iff.mp here
    have fits := lines_le_lineLimit numbered
    exact ⟨here, begun, by omega, by omega, by omega⟩

theorem window_consecutive :
    (window text line radius).IsChain fun left right => right.1 = left.1 + 1 := by
  rw [← List.isChain_map (R := fun left right => right = left + 1) Prod.fst,
    window_numbers numbered]
  exact List.isChain_range' _ _ 1

theorem window_length_le : (window text line radius).length ≤ 2 * radius + 1 := by
  rw [← List.length_map Prod.fst, window_numbers numbered, List.length_range']
  omega

theorem window_ends (some : window text line radius ≠ []) :
    (((window text line radius).head some).1 : Int) =
        clampedTo (lines text).length ((line : Int) - radius) ∧
      (((window text line radius).getLast some).1 : Int) =
        clampedTo (lines text).length ((line : Int) + radius) := by
  have numbers := window_numbers numbered line radius
  have someNumbers : (window text line radius).map Prod.fst ≠ [] := by simpa using some
  have first := List.head_map someNumbers
  have last := List.getLast_map someNumbers
  simp only [numbers] at someNumbers first last
  rw [List.head_range'] at first
  rw [List.getLast_range'] at last
  have count : min (line + radius) (lines text).length + 1 - max (line - radius) 1 ≠ 0 := by
    simpa using someNumbers
  rw [← first, ← last, clampedTo, clampedTo]
  omega

/-- A window shows, in order and without a gap, every line that is at most the radius away and
nothing else; so it has no more lines than the interval, shows the line it is around if there is
one, and begins and ends at the bounds of the interval or at an end of the text. -/
theorem window_clamped_interval :
    let shown := window text line radius
    (∀ number content, (number, content) ∈ shown ↔
      1 ≤ number ∧ Near line radius number ∧ (lines text)[number - 1]? = some content) ∧
    (shown.IsChain fun left right => right.1 = left.1 + 1) ∧
    shown.length ≤ 2 * radius + 1 ∧
    (∀ (_ : 1 ≤ line) (_ : line ≤ (lines text).length), (line, (lines text)[line - 1]) ∈ shown) ∧
    ∀ some : shown ≠ [],
      ((shown.head some).1 : Int) = clampedTo (lines text).length ((line : Int) - radius) ∧
      ((shown.getLast some).1 : Int) = clampedTo (lines text).length ((line : Int) + radius) := by
  refine ⟨fun _ _ => mem_window_iff_near numbered line radius,
    window_consecutive numbered line radius, window_length_le numbered line radius, ?_,
    window_ends numbered line radius⟩
  intro begun inside
  refine (mem_window_iff_near numbered line radius).mpr ⟨begun, ?_, ?_⟩
  · rw [Near]
    omega
  · exact List.getElem?_eq_getElem _

end Windows

theorem window_clamped_interval_wide :
    (lines "a\r\nb\nc").length < Nat.pow 2 32 ∧
      (1, "a") ∈ window "a\r\nb\nc" 3 4294967295 ∧
      (3, "c") ∈ window "a\r\nb\nc" 3 4294967295 ∧
      ∃ some : window "a\r\nb\nc" 3 4294967295 ≠ [],
        ((window "a\r\nb\nc" 3 4294967295).head some).1 = 1 ∧
        ((window "a\r\nb\nc" 3 4294967295).getLast some).1 = 3 := by
  have count : (lines "a\r\nb\nc").length = 3 := by decide
  have numbered : (lines "a\r\nb\nc").length < Nat.pow 2 32 := by
    rw [count]
    decide
  obtain ⟨members, -, -, around, ends⟩ := window_clamped_interval numbered 3 4294967295
  have first : (1, "a") ∈ window "a\r\nb\nc" 3 4294967295 :=
    (members 1 "a").mpr ⟨by omega, ⟨by omega, by omega⟩, by decide⟩
  have last : (3, "c") ∈ window "a\r\nb\nc" 3 4294967295 := around (by omega) (by omega)
  have some := List.ne_nil_of_mem first
  obtain ⟨start, stop⟩ := ends some
  rw [count, clampedTo] at start stop
  exact ⟨numbered, first, last, some, by omega, by omega⟩

end SymbolSearch.Text
