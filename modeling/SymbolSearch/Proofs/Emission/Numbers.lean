import Mathlib.Data.List.DropRight
import Mathlib.Data.List.Nodup
import Mathlib.Data.List.Pairwise
import SymbolSearch.Proofs.Emission.Subjects

set_option autoImplicit false

namespace SymbolSearch

-- The decimal number behind the last `-` of an id.
def trailingNumber? (id : String) : Option Nat :=
  let digits := id.toList.rtakeWhile (· ≠ '-')
  if digits ≠ [] ∧ digits.all Char.isDigit then some (Nat.ofDigitChars 10 digits 0) else none

theorem rtakeWhile_numbered (label : String) (number : Nat) :
    (Emission.numbered label number).toList.rtakeWhile (· ≠ '-') = Nat.toDigits 10 number := by
  have digits : ∀ c ∈ (Nat.toDigits 10 number).reverse, (decide (c ≠ '-')) = true := by
    intro c member
    have digit := Nat.isDigit_of_mem_toDigits (by decide) (by decide) (List.mem_reverse.mp member)
    rw [decide_eq_true_eq]
    rintro rfl
    exact absurd digit (by decide)
  simp only [Emission.numbered, String.toList_append, Nat.toString_eq_repr, Nat.toList_repr,
    List.rtakeWhile, List.reverse_append]
  rw [List.takeWhile_append_of_pos digits]
  simp

theorem trailingNumber?_numbered (label : String) (number : Nat) :
    trailingNumber? (Emission.numbered label number) = some number := by
  have digits : (Nat.toDigits 10 number).all Char.isDigit = true :=
    List.all_eq_true.mpr fun _ => Nat.isDigit_of_mem_toDigits (by decide) (by decide)
  simp only [trailingNumber?, rtakeWhile_numbered]
  rw [if_pos ⟨Nat.toDigits_ne_nil, digits⟩, Nat.ofDigitChars_toDigits (by decide) (by decide)]

example : trailingNumber? "interface-method-12" = some 12 := by decide

def numberedFrom (next : Nat) : List Subject → List (Nat × Subject)
  | [] => []
  | subject :: subjects => (next, subject) :: numberedFrom (subject.number next + 1) subjects

def numberAfter (next : Nat) (subjects : List Subject) : Nat :=
  subjects.foldl (fun next subject => subject.number next + 1) next

def idNumber (numbered : Nat × Subject) : Nat :=
  numbered.2.number numbered.1

theorem le_idNumber (numbered : Nat × Subject) : numbered.1 ≤ idNumber numbered := by
  unfold idNumber Subject.number
  split <;> omega

theorem idNumber_of_unnamed {numbered : Nat × Subject}
    (unnamed : numbered.2.name.isNone = true) : idNumber numbered = numbered.1 + 1 := by
  simp [idNumber, Subject.number, Option.isNone_iff_eq_none.mp unnamed]

theorem numberedFrom_append (next : Nat) (front rest : List Subject) :
    numberedFrom next (front ++ rest) =
      numberedFrom next front ++ numberedFrom (numberAfter next front) rest := by
  induction front generalizing next with
  | nil => rfl
  | cons subject front ih => simp [numberedFrom, numberAfter, ih]

theorem numberAfter_append (next : Nat) (front rest : List Subject) :
    numberAfter next (front ++ rest) = numberAfter (numberAfter next front) rest :=
  List.foldl_append

theorem numberedFrom_subjects (next : Nat) (subjects : List Subject) :
    (numberedFrom next subjects).map (·.2) = subjects := by
  induction subjects generalizing next with
  | nil => rfl
  | cons subject subjects ih => simp [numberedFrom, ih]

theorem numberedFrom_lower {next : Nat} {subjects : List Subject} :
    ∀ numbered ∈ numberedFrom next subjects, next ≤ numbered.1 := by
  induction subjects generalizing next with
  | nil => simp [numberedFrom]
  | cons subject subjects ih =>
    refine List.forall_mem_cons.mpr ⟨Nat.le_refl _, fun numbered member => ?_⟩
    have first := le_idNumber (next, subject)
    have later := ih numbered member
    exact Nat.le_trans first (Nat.le_of_succ_le later)

theorem numberedFrom_apart (next : Nat) (subjects : List Subject) :
    (numberedFrom next subjects).Pairwise fun earlier later => idNumber earlier < later.1 := by
  induction subjects generalizing next with
  | nil => exact .nil
  | cons subject subjects ih =>
    exact .cons (fun later member => numberedFrom_lower later member) (ih _)

theorem numberAfter_upper (next : Nat) (subjects : List Subject) :
    next ≤ numberAfter next subjects ∧
      ∀ numbered ∈ numberedFrom next subjects, idNumber numbered < numberAfter next subjects := by
  induction subjects generalizing next with
  | nil => simp [numberedFrom, numberAfter]
  | cons subject subjects ih =>
    obtain ⟨after, inside⟩ := ih (subject.number next + 1)
    have first := le_idNumber (next, subject)
    exact ⟨Nat.le_trans first (Nat.le_of_succ_le after),
      List.forall_mem_cons.mpr ⟨Nat.lt_of_succ_le after, inside⟩⟩

def madeUpNumbers (numbered : List (Nat × Subject)) : List Nat :=
  (numbered.filter (·.2.name.isNone)).map (·.1)

section Numbered

variable (next : Nat) (subjects : List Subject)

theorem idNumbers_increasing :
    ((numberedFrom next subjects).map idNumber).Pairwise (· < ·) := by
  rw [List.pairwise_map]
  refine (numberedFrom_apart next subjects).imp fun apart => ?_
  exact Nat.lt_of_lt_of_le apart (le_idNumber _)

theorem madeUpNumbers_increasing :
    (madeUpNumbers (numberedFrom next subjects)).Pairwise (· < ·) := by
  rw [madeUpNumbers, List.pairwise_map]
  refine ((numberedFrom_apart next subjects).filter _).imp fun apart => ?_
  exact Nat.lt_of_le_of_lt (le_idNumber _) apart

theorem idNumbers_disjoint :
    ((numberedFrom next subjects).map idNumber).Disjoint
      (madeUpNumbers (numberedFrom next subjects)) := by
  have ordered := numberedFrom_apart next subjects
  have apart : ∀ ⦃first⦄, first ∈ numberedFrom next subjects →
      ∀ ⦃second⦄, second ∈ numberedFrom next subjects →
        first.2.name.isNone = true → idNumber second ≠ first.1 := by
    refine List.Pairwise.forall_of_forall_of_flip ?_ (ordered.imp ?_) (ordered.imp ?_)
    · intro numbered _ unnamed
      rw [idNumber_of_unnamed unnamed]
      exact Nat.succ_ne_self _
    · intro earlier later below _
      have own := le_idNumber earlier
      have beyond := le_idNumber later
      omega
    · intro earlier later below _
      exact Nat.ne_of_lt below
  intro number isId isMadeUp
  obtain ⟨second, inRun, rfl⟩ := List.mem_map.mp isId
  obtain ⟨first, unnamed, same⟩ := List.mem_map.mp isMadeUp
  obtain ⟨inRun', unnamed⟩ := List.mem_filter.mp unnamed
  exact apart inRun' inRun unnamed same.symm

theorem numbers_bounded :
    ∀ number ∈ (numberedFrom next subjects).map idNumber ++
        madeUpNumbers (numberedFrom next subjects),
      next ≤ number ∧ number < numberAfter next subjects := by
  intro number taken
  have inside (numbered : Nat × Subject) (inRun : numbered ∈ numberedFrom next subjects) :
      next ≤ numbered.1 ∧ idNumber numbered < numberAfter next subjects :=
    ⟨numberedFrom_lower numbered inRun, (numberAfter_upper next subjects).2 numbered inRun⟩
  rcases List.mem_append.mp taken with isId | isMadeUp
  · obtain ⟨numbered, inRun, rfl⟩ := List.mem_map.mp isId
    obtain ⟨lower, upper⟩ := inside numbered inRun
    exact ⟨Nat.le_trans lower (le_idNumber numbered), upper⟩
  · obtain ⟨numbered, unnamed, rfl⟩ := List.mem_map.mp isMadeUp
    obtain ⟨lower, upper⟩ := inside numbered (List.mem_filter.mp unnamed).1
    exact ⟨lower, Nat.lt_of_le_of_lt (le_idNumber numbered) upper⟩

end Numbered

namespace Emission

def subjectsOf (files : List SourceFile) : List Subject :=
  (files.filter fun file => !file.declared.isEmpty).flatMap SourceFile.subjects

def unnamed (subjects : List Subject) (elements : List Element) : List Element :=
  (subjects.zip elements).filterMap fun (subject, element) =>
    if subject.name.isNone then some element else none

def ShowsIn (numbered : Nat × Subject) (element : Element) : Prop :=
  ∃ file, Shows file numbered.1 numbered.2 element

theorem Written.shown {file : SourceFile} {before elements : List Element} {next stop : Nat}
    {subjects : List Subject} (written : Written file before next subjects elements stop) :
    List.Forall₂ ShowsIn (numberedFrom next subjects) elements ∧
      stop = numberAfter next subjects := by
  induction written with
  | nil => exact ⟨.nil, rfl⟩
  | cons shows _ _ ih => exact ⟨.cons ⟨_, shows⟩ ih.1, ih.2⟩

theorem emitFiles_shown (files : List SourceFile) (next : Nat) :
    List.Forall₂ ShowsIn (numberedFrom next (subjectsOf files)) (emitEach emitFile files next).1 ∧
      (emitEach emitFile files next).2 = numberAfter next (subjectsOf files) := by
  induction files generalizing next with
  | nil => exact ⟨.nil, rfl⟩
  | cons file files ih =>
    cases declares : file.declared.isEmpty with
    | true => simpa [emitEach, emitFile, subjectsOf, declares] using ih next
    | false =>
      obtain ⟨shown, stop⟩ := (emitFile_written declares next).shown
      obtain ⟨rest, after⟩ := ih (emitFile file next).2
      have subjects : subjectsOf (file :: files) = file.subjects ++ subjectsOf files := by
        simp [subjectsOf, declares]
      rw [subjects, numberedFrom_append, numberAfter_append, ← stop]
      exact ⟨List.rel_append shown rest, after⟩

theorem ShowsIn.filled {numbered : Nat × Subject} {element : Element}
    (shown : ShowsIn numbered element) : numbered.2.Filled element.subject := by
  obtain ⟨_, shows⟩ := shown
  exact shows.filled

theorem ShowsIn.idNumber {numbered : Nat × Subject} {element : Element}
    (shown : ShowsIn numbered element) :
    trailingNumber? element.id = some (SymbolSearch.idNumber numbered) := by
  obtain ⟨_, shows⟩ := shown
  obtain ⟨label, id⟩ := shows.id
  rw [id]
  exact trailingNumber?_numbered label _

theorem ids_of_shown {numbered : List (Nat × Subject)} {elements : List Element}
    (shown : List.Forall₂ ShowsIn numbered elements) :
    (elements.map (·.id)).map trailingNumber? = (numbered.map idNumber).map some := by
  induction shown with
  | nil => rfl
  | cons first _ ih => rw [List.map_cons, List.map_cons, first.idNumber, ih]; rfl

theorem ids_nodup {next : Nat} {subjects : List Subject} {elements : List Element}
    (shown : List.Forall₂ ShowsIn (numberedFrom next subjects) elements) :
    (elements.map (·.id)).Nodup := by
  apply List.Nodup.of_map trailingNumber?
  rw [ids_of_shown shown]
  have distinct : ((numberedFrom next subjects).map idNumber).Nodup :=
    (idNumbers_increasing next subjects).imp Nat.ne_of_lt
  exact distinct.map fun _ _ => Option.some.inj

theorem unnamed_of_shown {numbered : List (Nat × Subject)} {elements : List Element}
    (shown : List.Forall₂ ShowsIn numbered elements) :
    List.Forall₂ (fun element number => element.name = element.kind.madeUpLabel ++ toString number)
      (unnamed (numbered.map (·.2)) elements) (madeUpNumbers numbered) := by
  induction shown with
  | nil => exact .nil
  | @cons first element rest elements shown _ ih =>
    obtain ⟨_, shows⟩ := shown
    cases given : first.2.name with
    | none =>
      have taken : unnamed ((first :: rest).map (·.2)) (element :: elements) =
          element :: unnamed (rest.map (·.2)) elements := by
        simp [unnamed, given]
      have number : madeUpNumbers (first :: rest) = first.1 :: madeUpNumbers rest := by
        simp [madeUpNumbers, given]
      rw [taken, number]
      refine .cons ?_ ih
      rw [shows.name, given, shows.kind]
      rfl
    | some text => simpa [unnamed, madeUpNumbers, given] using ih

/-- In a run over any files, whatever number it starts with, the numbers behind the last `-` of the
ids increase from element to element, and so the ids are different. The made-up names, which are
those of the elements whose subjects have none, have numbers of their own, each used once. -/
theorem numbers_used_once (files : List SourceFile) (next : Nat) :
    ∃ numbers madeUp : List Nat,
      ((emitEach emitFile files next).1.map (·.id)).map trailingNumber? = numbers.map some ∧
      numbers.Pairwise (· < ·) ∧
      ((emitEach emitFile files next).1.map (·.id)).Nodup ∧
      List.Forall₂ (fun subject element => subject.Filled element.subject) (subjectsOf files)
        (emitEach emitFile files next).1 ∧
      List.Forall₂
        (fun element number => element.name = element.kind.madeUpLabel ++ toString number)
        (unnamed (subjectsOf files) (emitEach emitFile files next).1) madeUp ∧
      madeUp.Pairwise (· < ·) ∧
      numbers.Disjoint madeUp ∧
      ∀ number ∈ numbers ++ madeUp, next ≤ number ∧ number < (emitEach emitFile files next).2 := by
  obtain ⟨shown, after⟩ := emitFiles_shown files next
  have madeUp := unnamed_of_shown shown
  have filled : List.Forall₂ (fun subject element => subject.Filled element.subject)
      ((numberedFrom next (subjectsOf files)).map (·.2)) (emitEach emitFile files next).1 :=
    List.forall₂_map_left_iff.mpr (shown.imp fun _ _ shown => shown.filled)
  rw [numberedFrom_subjects] at madeUp filled
  rw [after]
  exact ⟨_, _, ids_of_shown shown, idNumbers_increasing _ _, ids_nodup shown, filled, madeUp,
    madeUpNumbers_increasing _ _, idNumbers_disjoint _ _, numbers_bounded _ _⟩

end Emission

end SymbolSearch
