import Mathlib.Data.List.Infix
import SymbolSearch.Proofs.Query.ExactNames

set_option autoImplicit false

namespace SymbolSearch

namespace Text

-- A sigma between these texts, the first one read backwards, ends a word.
def endsWord (before after : List Char) : Bool :=
  casedNext before && !casedNext after

def lowerBetween (before after : List Char) : List Char → List Char
  | [] => []
  | c :: rest =>
    (if c = 'Σ' then [if endsWord before (rest ++ after) then 'ς' else 'σ'] else lowerChar c) ++
      lowerBetween (c :: before) after rest

theorem lowerFrom_append (before front rest : List Char) :
    lowerFrom before (front ++ rest) =
      lowerBetween before rest front ++ lowerFrom (front.reverse ++ before) rest := by
  induction front generalizing before with
  | nil => rfl
  | cons c front ih => simp [lowerFrom, lowerBetween, endsWord, ih]

theorem lowerCase_eq (text : List Char) : lowerCase text = lowerBetween [] [] text := by
  simpa [lowerCase, lowerFrom] using lowerFrom_append [] text []

def looseSigma (c : Char) : Char :=
  if c = 'ς' then 'σ' else c

theorem lowerBetween_loose (before after before' after' text : List Char) :
    (lowerBetween before after text).map looseSigma =
      (lowerBetween before' after' text).map looseSigma := by
  induction text generalizing before before' with
  | nil => rfl
  | cons c text ih =>
    simp only [lowerBetween, List.map_append, ih (c :: before) (c :: before')]
    congr 1
    by_cases sigma : c = 'Σ'
    · simp only [sigma, if_true, List.map_cons, List.map_nil, apply_ite looseSigma]
      simp [looseSigma]
    · simp [sigma]

theorem lowerBetween_length (before after before' after' text : List Char) :
    (lowerBetween before after text).length = (lowerBetween before' after' text).length := by
  simpa using congrArg List.length (lowerBetween_loose before after before' after' text)

def SigmasAgree (before after before' after' text : List Char) : Prop :=
  ∀ front rest, text = front ++ 'Σ' :: rest →
    endsWord (front.reverse ++ before) (rest ++ after) =
      endsWord (front.reverse ++ before') (rest ++ after')

theorem sigmasAgree_cons {before after before' after' text : List Char} {c : Char} :
    SigmasAgree before after before' after' (c :: text) ↔
      (c = 'Σ' → endsWord before (text ++ after) = endsWord before' (text ++ after')) ∧
        SigmasAgree (c :: before) after (c :: before') after' text := by
  constructor
  · intro agree
    refine ⟨fun sigma => agree [] text (by rw [sigma]; rfl), ?_⟩
    intro front rest split
    simpa using agree (c :: front) rest (by rw [split]; rfl)
  · rintro ⟨first, agree⟩ front rest split
    cases front with
    | nil =>
      obtain ⟨sigma, rfl⟩ := List.cons.inj split
      exact first sigma
    | cons _ front =>
      obtain ⟨rfl, same⟩ := List.cons.inj split
      simpa using agree front rest same

theorem lowerBetween_eq_iff {before after before' after' text : List Char} :
    lowerBetween before after text = lowerBetween before' after' text ↔
      SigmasAgree before after before' after' text := by
  induction text generalizing before before' with
  | nil => simp [lowerBetween, SigmasAgree]
  | cons c text ih =>
    rw [sigmasAgree_cons, ← ih, lowerBetween, lowerBetween]
    by_cases sigma : c = 'Σ'
    · simp only [sigma, if_true, List.singleton_append, List.cons.injEq, true_imp_iff]
      apply and_congr_left'
      cases endsWord before (text ++ after) <;> cases endsWord before' (text ++ after') <;> decide
    · simp only [sigma, if_false, List.append_cancel_left_eq, false_imp_iff, true_and]

def KeepsSigmas (front word behind : List Char) : Prop :=
  SigmasAgree [] [] front.reverse behind word

theorem keepsSigmas_of_none {front word behind : List Char} (none : 'Σ' ∉ word) :
    KeepsSigmas front word behind := by
  rintro before rest rfl
  simp at none

theorem lowerCase_word (front word behind : List Char) :
    lowerCase (front ++ word ++ behind) =
      lowerBetween [] (word ++ behind) front ++
        (lowerBetween front.reverse behind word ++
          lowerFrom (word.reverse ++ front.reverse) behind) := by
  rw [lowerCase, List.append_assoc, lowerFrom_append, lowerFrom_append, List.append_nil]

theorem lowerCase_word_loose (front word behind : List Char) :
    (lowerCase word).map looseSigma <:+: (lowerCase (front ++ word ++ behind)).map looseSigma := by
  rw [lowerCase_word, lowerCase_eq, lowerBetween_loose [] [] front.reverse behind]
  exact ((List.prefix_append _ _).isInfix.trans (List.suffix_append _ _).isInfix).map looseSigma

theorem lowerCase_word_prefix_iff {front word behind : List Char} :
    lowerCase word <+: (lowerCase (front ++ word ++ behind)).drop (lowerCase front).length ↔
      KeepsSigmas front word behind := by
  rw [lowerCase_word, lowerCase_eq front, lowerBetween_length [] [] [] (word ++ behind),
    List.drop_left, lowerCase_eq, KeepsSigmas, ← lowerBetween_eq_iff]
  -- Both forms have the same length, so a prefix of this length is the word.
  constructor
  · rintro ⟨rest, split⟩
    exact (List.append_inj split (lowerBetween_length _ _ _ _ _)).1
  · intro same
    rw [same]
    exact List.prefix_append _ _

theorem trim_infix (text : List Char) : trim text <:+: text := by
  have suffix : trimStart text <:+ text := List.dropWhile_suffix isBlank
  have front : trimEnd (trimStart text) <+: trimStart text := by
    rw [← List.reverse_suffix, trimEnd, List.reverse_reverse]
    exact List.dropWhile_suffix isBlank
  exact front.isInfix.trans suffix.isInfix

end Text

theorem Alignment.occurrence?_of_prefix {pattern field : List Char} {start : Nat}
    (nonempty : pattern ≠ []) (occurs : pattern <+: field.drop start) :
    ∃ first, occurrence? pattern field = some first := by
  induction field generalizing start with
  | nil => exact absurd (by simpa using occurs) nonempty
  | cons c field ih =>
    rw [occurrence?]
    split
    next => exact ⟨0, rfl⟩
    next absent =>
      cases start with
      | zero => exact absurd (List.isPrefixOf_iff_prefix.mpr occurs) absent
      | succ start =>
        obtain ⟨first, found⟩ := ih occurs
        exact ⟨first + 1, by rw [found]; rfl⟩

namespace FieldMatch

variable {α : Type} [Measure α]

theorem verbatim?_isSome (settings : SearchSettings α) {pattern field : List Char} {start : Nat}
    (nonempty : pattern ≠ []) (occurs : pattern <+: field.drop start) :
    (verbatim? settings pattern field).isSome := by
  obtain ⟨first, found⟩ := Alignment.occurrence?_of_prefix nonempty occurs
  rw [verbatim?, found]
  rfl

/-- A query that is a part of a text as spelled stands in the text up to the form of its sigmas. At
the place where it is spelled it stands in the lower case exactly if its sigmas end words there
where they do in the query alone, and it is then found; so it is always found if it has no capital
sigma. -/
theorem part_found_unless_sigma (text query : String) (part : query.toList <:+: text.toList)
    (nonblank : Text.trim query.toList ≠ []) :
    let word := Text.trim query.toList
    ∃ pattern, Pattern.ofQuery? query = some pattern ∧
      pattern.chars.map Text.looseSigma <:+: (foldField text).map Text.looseSigma ∧
      (∀ front behind, text.toList = front ++ word ++ behind →
        (pattern.chars <+: (foldField text).drop (Text.lowerCase front).length ↔
          Text.KeepsSigmas front word behind) ∧
        (Text.KeepsSigmas front word behind →
          ∀ settings : SearchSettings α,
            (verbatim? settings pattern.chars (foldField text)).isSome)) ∧
      ('Σ' ∉ word →
        ∀ settings : SearchSettings α,
          (verbatim? settings pattern.chars (foldField text)).isSome) := by
  intro word
  obtain ⟨pattern, looksFor, chars⟩ := Pattern.ofQuery?_eq_some nonblank
  obtain ⟨front, behind, spelled⟩ := (Text.trim_infix query.toList).trans part
  have found (front behind : List Char) (spelled : text.toList = front ++ word ++ behind)
      (keeps : Text.KeepsSigmas front word behind) (settings : SearchSettings α) :
      (verbatim? settings pattern.chars (foldField text)).isSome := by
    have occurs := Text.lowerCase_word_prefix_iff.mpr keeps
    rw [← chars, ← spelled] at occurs
    exact verbatim?_isSome settings pattern.nonempty occurs
  refine ⟨pattern, looksFor, ?_, ?_, ?_⟩
  · rw [chars, foldField, ← spelled]
    exact Text.lowerCase_word_loose front _ behind
  · intro front behind spelled
    refine ⟨?_, found front behind spelled⟩
    rw [chars, foldField, spelled]
    exact Text.lowerCase_word_prefix_iff
  · intro none
    exact found front behind spelled.symm (Text.keepsSigmas_of_none none)

theorem part_found_unless_sigma_inner :
    " ΣUM".toList <:+: "get ΣUM".toList ∧ Text.trim " ΣUM".toList ≠ [] ∧
      Text.KeepsSigmas "get ".toList (Text.trim " ΣUM".toList) [] ∧
      ∃ pattern, Pattern.ofQuery? " ΣUM" = some pattern ∧
        ∀ settings : SearchSettings Rat,
          (verbatim? settings pattern.chars (foldField "get ΣUM")).isSome := by
  have part : " ΣUM".toList <:+: "get ΣUM".toList := ⟨"get".toList, [], by decide +kernel⟩
  have nonblank : Text.trim " ΣUM".toList ≠ [] := by decide +kernel
  have keeps : Text.KeepsSigmas "get ".toList (Text.trim " ΣUM".toList) [] :=
    Text.lowerBetween_eq_iff.mp (by decide +kernel)
  obtain ⟨pattern, looksFor, _, places, _⟩ :=
    @part_found_unless_sigma Rat _ "get ΣUM" " ΣUM" part nonblank
  have spelled : "get ΣUM".toList = "get ".toList ++ Text.trim " ΣUM".toList ++ [] := by
    decide +kernel
  exact ⟨part, nonblank, keeps, pattern, looksFor, (places _ _ spelled).2 keeps⟩

/-- A sigma at the end of the query, and inside a word of the text. -/
theorem own_part_not_found :
    "ΑΣ".toList <:+: "ΑΣΑ".toList ∧ Text.trim "ΑΣ".toList ≠ [] ∧
      ∃ pattern, Pattern.ofQuery? "ΑΣ" = some pattern ∧
        ¬ pattern.chars <:+: foldField "ΑΣΑ" ∧
        ∀ settings : SearchSettings Rat,
          verbatim? settings pattern.chars (foldField "ΑΣΑ") = none := by
  have chars : Text.lowerCase (Text.trim "ΑΣ".toList) = ['α', 'ς'] := by decide +kernel
  have field : foldField "ΑΣΑ" = ['α', 'σ', 'α'] := by decide +kernel
  have nonblank : Text.trim "ΑΣ".toList ≠ [] := by decide +kernel
  obtain ⟨pattern, looksFor, same⟩ := Pattern.ofQuery?_eq_some nonblank
  rw [chars] at same
  refine ⟨⟨[], ['Α'], by decide +kernel⟩, nonblank, pattern, looksFor, ?_, ?_⟩
  · rw [same, field]
    decide
  · intro settings
    rw [same, field]
    rfl

end FieldMatch

end SymbolSearch
