import Mathlib.Data.List.Basic
import SymbolSearch.Text.Lines

set_option autoImplicit false

namespace SymbolSearch.Text

def rowAt (text : List Char) (offset : Nat) : Nat :=
  (text.take offset).count '\n'

theorem rowAt_mono (text : List Char) {first second : Nat} (before : first ≤ second) :
    rowAt text first ≤ rowAt text second :=
  (List.take_sublist_take_left before).count_le '\n'

theorem linesFrom_newline (line rest : List Char) :
    linesFrom line ('\n' :: rest) = endedLine line :: linesFrom [] rest := rfl

theorem linesFrom_other (line : List Char) {c : Char} (rest : List Char) (other : c ≠ '\n') :
    linesFrom line (c :: rest) = linesFrom (c :: line) rest := by
  rw [linesFrom]
  exact other

theorem linesFrom_begun (c : Char) (line rest : List Char) :
    0 < (linesFrom (c :: line) rest).length := by
  induction rest generalizing c line with
  | nil => simp [linesFrom]
  | cons d rest ih =>
    by_cases newline : d = '\n'
    · simp [newline, linesFrom_newline]
    · rw [linesFrom_other _ _ newline]
      exact ih d (c :: line)

theorem rowAt_lt_length_linesFrom (line : List Char) {text : List Char} {offset : Nat}
    (inside : offset < text.length) : rowAt text offset < (linesFrom line text).length := by
  induction text generalizing line offset with
  | nil => simp at inside
  | cons c rest ih =>
    by_cases newline : c = '\n'
    · cases offset with
      | zero => simp [rowAt, newline, linesFrom_newline]
      | succ offset =>
        have later := ih [] (Nat.lt_of_succ_lt_succ inside)
        simpa [rowAt, newline, linesFrom_newline] using later
    · rw [linesFrom_other line rest newline]
      cases offset with
      | zero => simpa [rowAt] using linesFrom_begun c line rest
      | succ offset =>
        have later := ih (c :: line) (Nat.lt_of_succ_lt_succ inside)
        simpa [rowAt, newline] using later

theorem rowAt_lt_length_lines {text : String} {offset : Nat}
    (inside : offset < text.toList.length) : rowAt text.toList offset < (lines text).length := by
  rw [lines, List.length_map]
  exact rowAt_lt_length_linesFrom [] inside

example : (lines "a\r\nb\n").length = 2 := by decide

theorem dropWhile_lt_eq_filter {α : Type} {entries : List (Nat × α)}
    (increasing : entries.Pairwise fun left right => left.1 < right.1) (first : Nat) :
    entries.dropWhile (fun entry => entry.1 < first) =
      entries.filter fun entry => first ≤ entry.1 := by
  induction entries with
  | nil => rfl
  | cons entry entries ih =>
    obtain ⟨above, increasing⟩ := List.pairwise_cons.mp increasing
    by_cases below : entry.1 < first
    · rw [List.dropWhile_cons_of_pos (by simpa using below),
        List.filter_cons_of_neg (by simpa using below), ih increasing]
    · rw [List.dropWhile_cons_of_neg (by simpa using below), eq_comm]
      apply List.filter_eq_self.mpr
      intro other member
      rcases List.mem_cons.mp member with rfl | member
      · simpa using below
      · have later := above other member
        simp only [decide_eq_true_eq]
        omega

theorem takeWhile_le_eq_filter {α : Type} {entries : List (Nat × α)}
    (increasing : entries.Pairwise fun left right => left.1 < right.1) (last : Nat) :
    entries.takeWhile (fun entry => entry.1 ≤ last) =
      entries.filter fun entry => entry.1 ≤ last := by
  induction entries with
  | nil => rfl
  | cons entry entries ih =>
    obtain ⟨above, increasing⟩ := List.pairwise_cons.mp increasing
    by_cases within : entry.1 ≤ last
    · rw [List.takeWhile_cons_of_pos (by simpa using within),
        List.filter_cons_of_pos (by simpa using within), ih increasing]
    · rw [List.takeWhile_cons_of_neg (by simpa using within), eq_comm]
      apply List.filter_eq_nil_iff.mpr
      intro other member
      rcases List.mem_cons.mp member with rfl | member
      · simpa using within
      · have later := above other member
        simp only [decide_eq_true_eq]
        omega

def numberedLines (text : String) : List (Nat × String) :=
  ((lines text).zipIdx 1).map fun (content, number) => (number, content)

theorem mem_numberedLines {text : String} {number : Nat} {content : String} :
    (number, content) ∈ numberedLines text ↔
      1 ≤ number ∧ (lines text)[number - 1]? = some content := by
  rw [← List.mk_mem_zipIdx_iff_le_and_getElem?_sub]
  simp [numberedLines]

theorem numberedLines_numbers (text : String) :
    (numberedLines text).map Prod.fst = List.range' 1 (lines text).length := by
  simp [numberedLines, Function.comp_def]

theorem numberedLines_increasing (text : String) :
    (numberedLines text).Pairwise fun left right => left.1 < right.1 := by
  rw [← List.pairwise_map (f := Prod.fst), numberedLines_numbers]
  exact List.pairwise_lt_range'

theorem window_eq_filter (text : String) (line radius : Nat) :
    window text line radius = (numberedLines text).filter fun entry =>
      max (line - radius) 1 ≤ entry.1 ∧ entry.1 ≤ min (line + radius) lineLimit := by
  have increasing := numberedLines_increasing text
  rw [window, ← numberedLines, dropWhile_lt_eq_filter increasing,
    takeWhile_le_eq_filter (increasing.filter _), List.filter_filter]
  simp only [Bool.decide_and, Bool.and_comm]

theorem mem_window {text : String} {line radius number : Nat} {content : String} :
    (number, content) ∈ window text line radius ↔
      (lines text)[number - 1]? = some content ∧ 1 ≤ number ∧ number ≤ lineLimit ∧
        line ≤ number + radius ∧ number ≤ line + radius := by
  rw [window_eq_filter, List.mem_filter, mem_numberedLines, decide_eq_true_eq]
  constructor
  · rintro ⟨⟨_, here⟩, _, _⟩
    exact ⟨here, by omega, by omega, by omega, by omega⟩
  · rintro ⟨here, _, _, _, _⟩
    exact ⟨⟨by omega, here⟩, by omega, by omega⟩

theorem window_shows_line {text : String} {line : Nat} (begun : 1 ≤ line)
    (inside : line ≤ (lines text).length) (numbered : line ≤ lineLimit) (radius : Nat) :
    ∃ content, (line, content) ∈ window text line radius := by
  have before : line - 1 < (lines text).length := by omega
  refine ⟨(lines text)[line - 1], mem_window.mpr ⟨?_, begun, numbered, ?_, ?_⟩⟩
  · rw [List.getElem?_eq_getElem before]
  · omega
  · omega

end SymbolSearch.Text
