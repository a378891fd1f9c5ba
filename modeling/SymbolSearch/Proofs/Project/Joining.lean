import Mathlib.Data.List.Basic
import SymbolSearch.Project

set_option autoImplicit false

namespace SymbolSearch

namespace Path

def componentsBelow (text : List Char) : List Component :=
  ((piecesFrom [] text).filter fun piece => !vanishes piece).map Component.ofPiece

theorem piecesFrom_slash (piece front back : List Char) :
    piecesFrom piece (front ++ '/' :: back) = piecesFrom piece front ++ piecesFrom [] back := by
  induction front generalizing piece with
  | nil => rfl
  | cons c front ih =>
    by_cases slash : c = '/'
    · simp [slash, piecesFrom, ih]
    · simp [piecesFrom, ih]

theorem head_slash {front : List Char} (begun : front ≠ []) (back : List Char) :
    head (front ++ '/' :: back) = ((head front).1, (head front).2 ++ '/' :: back) := by
  fun_cases head front with
  | case1 rest => rfl
  | case2 => rfl
  | case3 rest => rfl
  | case4 _ notRoot notHere notBelow =>
    obtain ⟨c, rest, rfl⟩ := List.exists_cons_of_ne_nil begun
    apply head.eq_4
    · rintro more same
      exact notRoot rest (by rw [(List.cons.inj same).1])
    · simp
    · rintro more same
      obtain ⟨rfl, same⟩ := List.cons.inj same
      cases rest with
      | nil => exact notHere rfl
      | cons d rest =>
        obtain ⟨rfl, -⟩ : d = '/' ∧ _ := by simpa using same
        exact notBelow rest rfl

theorem components_slash {front : List Char} (begun : front ≠ []) (back : List Char) :
    components ⟨String.ofList (front ++ '/' :: back)⟩ =
      components ⟨String.ofList front⟩ ++ componentsBelow back := by
  simp [components, head_slash begun, piecesFrom_slash, componentsBelow]

theorem componentsBelow_slash (front back : List Char) :
    componentsBelow (front ++ '/' :: back) = componentsBelow front ++ componentsBelow back := by
  simp [componentsBelow, piecesFrom_slash]

theorem components_join {base below : Path} (given : base.text ≠ "")
    (relative : below.isAbsolute = false) :
    (base.join below).components = base.components ++ componentsBelow below.text.toList := by
  obtain ⟨text⟩ := base
  obtain ⟨front, rfl⟩ : ∃ front, text = String.ofList front := ⟨_, (String.ofList_toList).symm⟩
  obtain ⟨back, rfl⟩ : ∃ back, below = ⟨String.ofList back⟩ := ⟨_, by rw [String.ofList_toList]⟩
  have begun : front ≠ [] := by simpa using given
  rw [join, relative, Bool.false_or, if_neg (by simpa using begun), String.toList_ofList]
  split
  next ends =>
    -- The slash at the end parts the two, unless it is the root of the tree.
    obtain ⟨before, rfl⟩ := List.getLast?_eq_some_iff.mp ends
    dsimp only
    rw [← String.ofList_append, List.append_assoc, List.singleton_append]
    by_cases root : before = []
    · subst root
      simp [components, head, componentsBelow, piecesFrom, vanishes]
    · rw [components_slash root, components_slash root]
      simp [componentsBelow, piecesFrom, vanishes]
  next =>
    rw [← components_slash begun]
    congr 2
    simp [String.append_assoc]

end Path

end SymbolSearch
