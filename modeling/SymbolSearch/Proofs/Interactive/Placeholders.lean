import Mathlib.Data.List.Infix
import SymbolSearch.Editor

set_option autoImplicit false

namespace SymbolSearch

namespace Text

theorem occursIn_iff {part text : List Char} : occursIn part text = true ↔ part <:+: text := by
  induction text with
  | nil => simp [occursIn]
  | cons c rest ih => simp [occursIn, ih, List.infix_cons_iff]

section Replace

variable {old new : List Char}

theorem replaceFrom_eq (skip : Nat) (text : List Char) :
    replaceFrom old new skip text = replace old new (text.drop skip) := by
  induction text generalizing skip with
  | nil => simp [replace, replaceFrom]
  | cons c rest ih =>
    cases skip with
    | zero => rfl
    | succ skip => simp [replaceFrom, ih]

@[simp] theorem replace_nil : replace old new [] = [] := rfl

theorem replace_append (some : old ≠ []) (text : List Char) :
    replace old new (old ++ text) = new ++ replace old new text := by
  obtain ⟨c, rest, rfl⟩ := List.exists_cons_of_ne_nil some
  have starts : (c :: rest).isPrefixOf (c :: (rest ++ text)) = true := by
    simp [List.isPrefixOf_iff_prefix]
  rw [List.cons_append, replace, replaceFrom, if_pos starts, replaceFrom_eq]
  simp

theorem replace_cons {c : Char} {text : List Char} (other : ¬ old <+: c :: text) :
    replace old new (c :: text) = c :: replace old new text := by
  rw [replace, replaceFrom, if_neg (by simpa [List.isPrefixOf_iff_prefix] using other)]
  rfl

end Replace

def occurrences (part text : List Char) : Nat :=
  text.tails.countP part.isPrefixOf

theorem occurrences_cons (part : List Char) (c : Char) (text : List Char) :
    occurrences part (c :: text) =
      occurrences part text + if part.isPrefixOf (c :: text) then 1 else 0 := by
  rw [occurrences, List.tails_cons, List.countP_cons, occurrences]

theorem occurrences_le_append (part front text : List Char) :
    occurrences part text ≤ occurrences part (front ++ text) := by
  induction front with
  | nil => exact Nat.le_refl _
  | cons c front ih =>
    rw [List.cons_append, occurrences_cons]
    omega

theorem replace_behind {part new front text : List Char}
    (same : occurrences part (front ++ text) = occurrences part text) :
    replace part new (front ++ text) = front ++ replace part new text := by
  induction front with
  | nil => rfl
  | cons c front ih =>
    rw [List.cons_append, occurrences_cons] at same
    have least := occurrences_le_append part front text
    have other : ¬ part <+: c :: (front ++ text) := by
      intro starts
      rw [if_pos (List.isPrefixOf_iff_prefix.mpr starts)] at same
      omega
    rw [List.cons_append, replace_cons other, ih (by omega), List.cons_append]

section Mark

variable {c : Char} {inner new : List Char}

theorem occurrences_mark (once : c ∉ inner) (text : List Char) :
    occurrences (c :: inner) (c :: inner ++ text) = occurrences (c :: inner) text + 1 := by
  have inside (part : List Char) (absent : c ∉ part) :
      occurrences (c :: inner) (part ++ text) = occurrences (c :: inner) text := by
    induction part with
    | nil => rfl
    | cons d part ih =>
      simp only [List.mem_cons, not_or] at absent
      simp [occurrences_cons, ih absent.2, absent.1]
  rw [List.cons_append, occurrences_cons, inside inner once, if_pos]
  simp [List.isPrefixOf_iff_prefix]

theorem count_replace (once : c ∉ inner) (absent : c ∉ new) (text : List Char) :
    text.count c = (replace (c :: inner) new text).count c + occurrences (c :: inner) text := by
  induction size : text.length using Nat.strongRecOn generalizing text with
  | ind size ih =>
    subst size
    cases text with
    | nil => rfl
    | cons d rest =>
      by_cases starts : c :: inner <+: d :: rest
      · obtain ⟨more, same⟩ := starts
        have shorter : more.length < (d :: rest).length := by
          rw [← same, List.length_append, List.length_cons]
          omega
        rw [← same, replace_append (List.cons_ne_nil c inner), occurrences_mark once,
          List.count_append, List.count_append, ih _ shorter more rfl, List.count_cons_self,
          List.count_eq_zero_of_not_mem once, List.count_eq_zero_of_not_mem absent]
        omega
      · have notHere : (c :: inner).isPrefixOf (d :: rest) = false := by
          rwa [Bool.eq_false_iff, ne_eq, List.isPrefixOf_iff_prefix]
        have behind := ih _ (Nat.lt_succ_self rest.length) rest rfl
        rw [replace_cons starts, occurrences_cons, notHere, List.count_cons, List.count_cons,
          behind]
        simp only [Bool.false_eq_true, if_false]
        omega

end Mark

end Text

namespace EditorCommand

open Text (occurrences replace)

inductive Piece where
  | char (c : Char)
  | path
  | line
deriving DecidableEq, Repr

def pieces : List Char → List Piece
  | '{' :: 'p' :: 'a' :: 't' :: 'h' :: '}' :: rest => .path :: pieces rest
  | '{' :: 'l' :: 'i' :: 'n' :: 'e' :: '}' :: rest => .line :: pieces rest
  | c :: rest => .char c :: pieces rest
  | [] => []

def Piece.text (path line : List Char) : Piece → List Char
  | char c => [c]
  | .path => path
  | .line => line

def lineText (line : Nat) : List Char :=
  (toString (max line 1)).toList

-- A word with the path in the place of its path marks, and the line in the place of its line marks.
-- Nothing is looked for in the text of the path.
def substituted (path : Path) (line : Nat) (word : String) : String :=
  String.ofList ((pieces word.toList).flatMap (Piece.text path.text.toList (lineText line)))

theorem replace_pathMark (path : List Char) (word : List Char) :
    replace pathMark path word = (pieces word).flatMap (Piece.text path lineMark) := by
  have some : pathMark ≠ [] := by decide
  fun_induction pieces word with
  | case1 rest ih =>
    rw [List.flatMap_cons, ← ih]
    exact Text.replace_append some rest
  | case2 rest ih =>
    have kept : replace pathMark path (lineMark ++ rest) = lineMark ++ replace pathMark path rest :=
      Text.replace_behind (by simp [lineMark, pathMark, Text.occurrences_cons])
    rw [List.flatMap_cons, ← ih]
    exact kept
  | case3 c rest noPath _ ih =>
    have other : ¬ pathMark <+: c :: rest := by
      rintro ⟨more, same⟩
      obtain ⟨rfl, rfl⟩ := List.cons.inj same
      exact noPath more rfl rfl
    rw [Text.replace_cons other, ih]
    rfl
  | case4 => rfl

theorem occurrences_lineMark (text : List Char) :
    occurrences lineMark (lineMark ++ text) = occurrences lineMark text + 1 :=
  Text.occurrences_mark (by decide) text

theorem lineText_plain (line : Nat) : '{' ∉ lineText line := by
  intro member
  have digit : '{'.isDigit := by
    refine Nat.isDigit_of_mem_toDigits (b := 10) (by decide) (by decide) ?_ (n := max line 1)
    simpa [lineText] using member
  cases digit

-- The line marks that stand in a word once the path has been filled in are those that it had.
def Settled (path : Path) (word : String) : Prop :=
  occurrences lineMark (replace pathMark path.text.toList word.toList) =
    (pieces word.toList).count .line

instance (path : Path) (word : String) : Decidable (Settled path word) :=
  inferInstanceAs (Decidable (_ = _))

section Pieces

variable (path line : List Char) (parts : List Piece)

theorem Piece.text_other {part : Piece} (other : part ≠ .line) (path line new : List Char) :
    part.text path line = part.text path new := by
  cases part with
  | line => exact absurd rfl other
  | _ => rfl

theorem count_line_le :
    parts.count .line ≤ occurrences lineMark (parts.flatMap (Piece.text path lineMark)) := by
  induction parts with
  | nil => exact Nat.zero_le _
  | cons part parts ih =>
    rw [List.flatMap_cons]
    by_cases isLine : part = .line
    · subst isLine
      rw [Piece.text, occurrences_lineMark, List.count_cons_self]
      omega
    · rw [List.count_cons_of_ne isLine]
      exact Nat.le_trans ih (Text.occurrences_le_append lineMark _ _)

theorem replace_lineMark
    (settled : occurrences lineMark (parts.flatMap (Piece.text path lineMark)) =
      parts.count .line) :
    replace lineMark line (parts.flatMap (Piece.text path lineMark)) =
      parts.flatMap (Piece.text path line) := by
  induction parts with
  | nil => rfl
  | cons part parts ih =>
    rw [List.flatMap_cons] at settled ⊢
    rw [List.flatMap_cons]
    by_cases isLine : part = .line
    · subst isLine
      rw [Piece.text, occurrences_lineMark, List.count_cons_self] at settled
      rw [Piece.text, Piece.text, Text.replace_append (by decide), ih (Nat.succ.inj settled)]
    · rw [List.count_cons_of_ne isLine] at settled
      -- The marks behind this part are all there are, so none begins in it.
      have least := count_line_le path parts
      have more := Text.occurrences_le_append lineMark (part.text path lineMark)
        (parts.flatMap (Piece.text path lineMark))
      rw [Text.replace_behind (by omega), ih (by omega), Piece.text_other isLine path line lineMark]

theorem count_brace (plain : '{' ∉ line) :
    (parts.flatMap (Piece.text path lineMark)).count '{' =
      (parts.flatMap (Piece.text path line)).count '{' + parts.count .line := by
  induction parts with
  | nil => rfl
  | cons part parts ih =>
    rw [List.flatMap_cons, List.flatMap_cons, List.count_append, List.count_append, ih]
    cases part <;> simp [Piece.text, lineMark, List.count_eq_zero_of_not_mem plain]
    all_goals omega

theorem replace_lineMark_iff (plain : '{' ∉ line) :
    replace lineMark line (parts.flatMap (Piece.text path lineMark)) =
        parts.flatMap (Piece.text path line) ↔
      occurrences lineMark (parts.flatMap (Piece.text path lineMark)) = parts.count .line := by
  refine ⟨fun same => ?_, replace_lineMark path line parts⟩
  have replaced := Text.count_replace (by decide : '{' ∉ ['l', 'i', 'n', 'e', '}']) plain
    (parts.flatMap (Piece.text path lineMark))
  have together := count_brace path line parts plain
  change _ = (replace lineMark line _).count '{' + occurrences lineMark _ at replaced
  rw [same] at replaced
  omega

end Pieces

theorem fill_eq_substituted_iff (path : Path) (line : Nat) (word : String) :
    fill path line word = substituted path line word ↔ Settled path word := by
  rw [fill, substituted, String.ofList_inj, Settled, replace_pathMark]
  exact replace_lineMark_iff _ (lineText line) _ (lineText_plain line)

theorem path_mem_pieces {word : List Char} (names : pathMark <:+: word) :
    .path ∈ pieces word := by
  fun_induction pieces word with
  | case1 => exact List.mem_cons_self
  | case2 rest ih =>
    have later : pathMark <:+: rest := by simpa [pathMark, List.infix_cons_iff] using names
    exact List.mem_cons_of_mem _ (ih later)
  | case3 c rest noPath _ ih =>
    rcases List.infix_cons_iff.mp names with ⟨more, same⟩ | later
    · obtain ⟨rfl, rfl⟩ := List.cons.inj same
      exact absurd rfl (noPath more rfl)
    · exact List.mem_cons_of_mem _ (ih later)
  | case4 => exact absurd names (by simp [pathMark])

theorem path_infix_substituted {path : Path} {word : String} (names : pathMark <:+: word.toList)
    (line : Nat) : path.text.toList <:+: (substituted path line word).toList := by
  rw [substituted, String.toList_ofList, List.flatMap_def]
  exact List.infix_of_mem_flatten (List.mem_map_of_mem (path_mem_pieces names))

theorem exists_mem_withPosition (words : List String) :
    ∃ word ∈ withPosition words, pathMark <:+: word.toList := by
  unfold withPosition
  split
  next named =>
    obtain ⟨word, member, names⟩ := List.any_eq_true.mp named
    exact ⟨word, member, Text.occursIn_iff.mp names⟩
  next =>
    refine ⟨_, List.mem_append_right _ (List.mem_singleton_self _), ?_⟩
    exact ⟨[], ':' :: lineMark, by simp⟩

/-- The arguments are the words of the template with both marks filled in at once just if no line
mark comes about when the path is filled in; one of them then holds the path as it is. -/
theorem arguments_at_once_iff (template : String) (command : EditorCommand)
    (read : ofTemplate template = .ok command) (path : Path) (line : Nat) :
    ∃ words,
      Text.words? template = some (command.program :: words) ∧
      command.words =
        (if ∃ word ∈ words, pathMark <:+: word.toList then words
        else words ++ [String.ofList (pathMark ++ ':' :: lineMark)]) ∧
      (command.arguments path line = command.words.map (substituted path line) ↔
        ∀ word ∈ command.words, Settled path word) ∧
      ((∀ word ∈ command.words, Settled path word) →
        ∃ argument ∈ command.arguments path line, path.text.toList <:+: argument.toList) := by
  unfold ofTemplate at read
  split at read
  next => cases read
  next => cases read
  next program words split =>
    cases read
    have atOnce : (withPosition words).map (fill path line) =
        (withPosition words).map (substituted path line) ↔
          ∀ word ∈ withPosition words, Settled path word := by
      simp only [List.map_inj_left, fill_eq_substituted_iff]
    refine ⟨words, split, ?_, atOnce, fun settled => ?_⟩
    · simp [withPosition, namesPath, Text.occursIn_iff]
    · obtain ⟨word, member, names⟩ := exists_mem_withPosition words
      refine ⟨fill path line word, List.mem_map_of_mem member, ?_⟩
      rw [(fill_eq_substituted_iff path line word).mpr (settled word member)]
      exact path_infix_substituted names line

theorem arguments_at_once_iff_braces :
    ofTemplate "code -g {path}:{line} +{line}" =
        .ok { program := "code", words := ["-g", "{path}:{line}", "+{line}"] } ∧
      (∀ word ∈ ["-g", "{path}:{line}", "+{line}"],
        Settled { text := "/{path}/\x7bli.ts" } word) ∧
      (EditorCommand.mk "code" ["-g", "{path}:{line}", "+{line}"]).arguments
          { text := "/{path}/\x7bli.ts" } 7 =
        ["-g", "{path}:{line}", "+{line}"].map (substituted { text := "/{path}/\x7bli.ts" } 7) ∧
      ∃ argument ∈ (EditorCommand.mk "code" ["-g", "{path}:{line}", "+{line}"]).arguments
          { text := "/{path}/\x7bli.ts" } 7,
        "/{path}/\x7bli.ts".toList <:+: argument.toList := by
  have read : ofTemplate "code -g {path}:{line} +{line}" =
      .ok { program := "code", words := ["-g", "{path}:{line}", "+{line}"] } := by
    decide +kernel
  have settled : ∀ word ∈ ["-g", "{path}:{line}", "+{line}"],
      Settled { text := "/{path}/\x7bli.ts" } word := by
    simp only [List.forall_mem_cons]
    refine ⟨?_, ?_, ?_, by simp⟩ <;> unfold Settled <;> cbv
  obtain ⟨_, _, _, atOnce, holds⟩ :=
    arguments_at_once_iff _ _ read { text := "/{path}/\x7bli.ts" } 7
  exact ⟨read, settled, atOnce.mpr settled, holds settled⟩

/-- A file with the mark of the line in its name is asked for under another name. -/
theorem line_in_path_replaced :
    ofTemplate "code" = .ok { program := "code", words := ["{path}:{line}"] } ∧
      (EditorCommand.mk "code" ["{path}:{line}"]).arguments { text := "/{line}.ts" } 7 =
        ["/7.ts:7"] ∧
      ["{path}:{line}"].map (substituted { text := "/{line}.ts" } 7) = ["/{line}.ts:7"] ∧
      ¬ ∃ argument ∈ ["/7.ts:7"], "/{line}.ts".toList <:+: argument.toList := by
  refine ⟨by cbv, by cbv, by cbv, ?_⟩
  rintro ⟨argument, member, holds⟩
  rw [List.mem_singleton.mp member, ← Text.occursIn_iff] at holds
  exact absurd holds (by cbv; decide)

end EditorCommand

end SymbolSearch
