import Mathlib.Data.List.Basic
import SymbolSearch.Project

set_option autoImplicit false

namespace SymbolSearch

namespace Path

namespace Component

def label : Component → String
  | name text => text
  | _ => ""

theorem compare_eq : Component.compare = compareLex (compareOn rank) (compareOn label) := by
  funext left right
  cases left <;> cases right <;> rfl

instance : Std.TransCmp Component.compare :=
  compare_eq ▸ inferInstance

instance : Std.LawfulEqCmp Component.compare where
  eq_of_compare {left right} same := by
    cases left <;> cases right <;> simp_all [Component.compare, rank]

end Component

theorem compareComponents_eq : compareComponents = List.compareLex Component.compare := by
  funext lefts rights
  induction lefts generalizing rights with
  | nil => cases rights <;> rfl
  | cons left lefts ih =>
    cases rights with
    | nil => rfl
    | cons right rights => simp [compareComponents, List.compareLex_cons_cons, ih]

instance : Std.TransCmp compareComponents :=
  compareComponents_eq ▸ inferInstance

instance : Std.LawfulEqCmp compareComponents :=
  compareComponents_eq ▸ inferInstance

variable {left right : Path}

instance : Std.TransCmp compare where
  eq_swap {left right} :=
    @Std.OrientedCmp.eq_swap _ compareComponents _ left.components right.components
  isLE_trans {left middle right} :=
    @Std.TransCmp.isLE_trans _ compareComponents _ left.components middle.components
      right.components

theorem compare_eq_iff : left.compare right = .eq ↔ left.components = right.components :=
  @Std.LawfulEqCmp.compare_eq_iff_eq _ compareComponents _ _ _

end Path

namespace Project

open SymbolSearch.Path

def Increasing (paths : List Path) : Prop :=
  paths.Pairwise fun left right => left.compare right = .lt

def Sorted (paths : List Path) : Prop :=
  paths.Pairwise fun left right => (left.compare right).isLE

theorem mergeSort_sorted (paths : List Path) :
    Sorted (paths.mergeSort fun left right => (left.compare right).isLE) := by
  apply List.pairwise_mergeSort
  · exact fun left middle right => Std.TransCmp.isLE_trans
  · intro left right
    have swapped : right.compare left = (left.compare right).swap := Std.OrientedCmp.eq_swap
    rw [swapped]
    cases left.compare right <;> rfl

theorem dropRepeats_increasing {last : Path} {paths : List Path} (sorted : Sorted (last :: paths)) :
    Increasing (last :: dropRepeats last paths) := by
  induction paths generalizing last with
  | nil => exact List.pairwise_singleton ..
  | cons path paths ih =>
    obtain ⟨first, rest⟩ := List.pairwise_cons.mp sorted
    obtain ⟨le, above⟩ := List.forall_mem_cons.mp first
    rw [dropRepeats]
    split
    · exact ih (List.pairwise_cons.mpr ⟨above, rest.tail⟩)
    next other =>
      have less : last.compare path = .lt := by
        refine Ordering.isLE_iff_eq_lt_or_eq_eq.mp le |>.resolve_right fun equal => other ?_
        exact same_iff.mpr (compare_eq_iff.mp equal).symm
      have increasing := ih rest
      refine List.pairwise_cons.mpr ⟨List.forall_mem_cons.mpr ⟨less, ?_⟩, increasing⟩
      intro later member
      exact Std.TransCmp.lt_trans less ((List.pairwise_cons.mp increasing).1 later member)

theorem mem_components_dropRepeats {last : Path} {paths : List Path} {components : List Component} :
    components ∈ (last :: dropRepeats last paths).map Path.components ↔
      components ∈ (last :: paths).map Path.components := by
  induction paths generalizing last with
  | nil => rfl
  | cons path paths ih =>
    rw [dropRepeats]
    split
    next repeated =>
      rw [ih]
      simp [same_iff.mp repeated]
    next =>
      have rest := @ih path
      simp only [List.map_cons, List.mem_cons] at rest ⊢
      rw [rest]

theorem canonical_increasing (paths : List Path) : Increasing (canonical paths) := by
  have sorted := mergeSort_sorted paths
  rw [canonical]
  generalize paths.mergeSort _ = ordered at sorted
  cases ordered with
  | nil => exact .nil
  | cons path rest => exact dropRepeats_increasing sorted

theorem mem_components_canonical {paths : List Path} {components : List Component} :
    components ∈ (canonical paths).map Path.components ↔
      components ∈ paths.map Path.components := by
  have permuted : (paths.mergeSort fun left right => (left.compare right).isLE).Perm paths :=
    List.mergeSort_perm ..
  rw [← (permuted.map Path.components).mem_iff, canonical]
  generalize paths.mergeSort _ = ordered
  cases ordered with
  | nil => rfl
  | cons path rest => exact mem_components_dropRepeats

theorem exists_same_canonical {paths : List Path} {path : Path} :
    (∃ found ∈ canonical paths, found.same path) ↔ ∃ listed ∈ paths, listed.same path := by
  simpa [same_iff] using @mem_components_canonical paths path.components

theorem Increasing.components_eq {lefts rights : List Path} (left : Increasing lefts)
    (right : Increasing rights)
    (same : ∀ components, components ∈ lefts.map Path.components ↔
      components ∈ rights.map Path.components) :
    lefts.map Path.components = rights.map Path.components := by
  have rises {paths : List Path} (increasing : Increasing paths) :
      (paths.map Path.components).Pairwise fun left right =>
        compareComponents left right = .lt :=
    List.pairwise_map.mpr increasing
  have nodup {paths : List Path} (increasing : Increasing paths) :
      (paths.map Path.components).Nodup :=
    (rises increasing).imp fun less equal => by
      subst equal
      exact Std.OrientedCmp.not_lt_of_lt less less
  refine List.Perm.eq_of_pairwise ?_ (rises left) (rises right)
    ((List.perm_ext_iff_of_nodup (nodup left) (nodup right)).mpr same)
  exact fun first second _ _ less greater => absurd greater (Std.OrientedCmp.not_lt_of_lt less)

theorem canonical_components_eq {lefts rights : List Path}
    (same : ∀ components, components ∈ lefts.map Path.components ↔
      components ∈ rights.map Path.components) :
    (canonical lefts).map Path.components = (canonical rights).map Path.components := by
  refine (canonical_increasing lefts).components_eq (canonical_increasing rights) ?_
  intro components
  rw [mem_components_canonical, mem_components_canonical, same]

end Project

end SymbolSearch
