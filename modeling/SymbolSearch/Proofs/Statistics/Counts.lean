import Mathlib.Algebra.BigOperators.Group.List.Lemmas
import Mathlib.Algebra.GroupWithZero.Nat
import Mathlib.Data.List.Induction
import SymbolSearch.Proofs.Lists.FirstOccurrences
import SymbolSearch.Statistics

set_option autoImplicit false

namespace SymbolSearch.Statistics

section Tables

variable {κ : Type} [DecidableEq κ] {key : κ} {keys others : List κ} {table other : List (κ × Nat)}

structure Counts (keys : List κ) (table : List (κ × Nat)) : Prop where
  nodup : (table.map Prod.fst).Nodup
  covers : ∀ key ∈ keys, (key, keys.count key) ∈ table
  exact : ∀ entry ∈ table, entry.1 ∈ keys ∧ entry.2 = keys.count entry.1

theorem tally_eq (key : κ) (table : List (κ × Nat)) :
    tally key table =
      changeOrAdd Prod.fst key (fun entry => (key, entry.2 + 1)) (key, 1) table := by
  induction table with
  | nil => rfl
  | cons entry table ih => rw [tally, changeOrAdd, ih]

def raised (key : κ) : κ × Nat → κ × Nat :=
  changed Prod.fst key fun entry => (key, entry.2 + 1)

theorem raised_own {entry : κ × Nat} (own : entry.1 = key) :
    raised key entry = (key, entry.2 + 1) :=
  changed_own own

theorem raised_other {entry : κ × Nat} (other : entry.1 ≠ key) : raised key entry = entry :=
  changed_other other

theorem raised_fst (key : κ) (entry : κ × Nat) : (raised key entry).1 = entry.1 := by
  by_cases own : entry.1 = key
  · rw [raised_own own, own]
  · rw [raised_other own]

namespace Counts

theorem empty : Counts ([] : List κ) [] :=
  ⟨List.nodup_nil, by simp, by simp⟩

theorem mem_iff (counts : Counts keys table) {entry : κ × Nat} :
    entry ∈ table ↔ entry.1 ∈ keys ∧ entry.2 = keys.count entry.1 := by
  refine ⟨counts.exact entry, ?_⟩
  rintro ⟨occurs, exact⟩
  have listed := counts.covers entry.1 occurs
  rwa [← exact] at listed

theorem mem_keys (counts : Counts keys table) : key ∈ table.map Prod.fst ↔ key ∈ keys := by
  constructor
  · intro listed
    obtain ⟨entry, member, rfl⟩ := List.mem_map.mp listed
    exact (counts.exact entry member).1
  · intro occurs
    exact List.mem_map_of_mem (counts.covers key occurs)

theorem raise (counts : Counts keys table) (known : key ∈ keys) :
    Counts (keys ++ [key]) (table.map (raised key)) := by
  have same : (table.map (raised key)).map Prod.fst = table.map Prod.fst := by
    simp [raised_fst, Function.comp_def]
  refine ⟨same ▸ counts.nodup, ?_, ?_⟩
  · intro again occurs
    have before : again ∈ keys := by
      rcases List.mem_append.mp occurs with before | last
      · exact before
      · exact List.mem_singleton.mp last ▸ known
    refine List.mem_map.mpr ⟨_, counts.covers again before, ?_⟩
    by_cases own : again = key
    · rw [raised_own own, own, List.count_append, List.count_singleton_self]
    · rw [raised_other own, List.count_append, List.count_singleton, beq_false_of_ne (Ne.symm own)]
      rfl
  · intro entry member
    obtain ⟨entry, listed, rfl⟩ := List.mem_map.mp member
    obtain ⟨occurs, exact⟩ := counts.exact entry listed
    by_cases own : entry.1 = key
    · subst own
      rw [raised_own rfl, exact]
      exact ⟨List.mem_append_left _ occurs, by simp⟩
    · rw [raised_other own]
      exact ⟨List.mem_append_left _ occurs, by simpa [Ne.symm own] using exact⟩

theorem add (counts : Counts keys table) (absent : key ∉ keys) :
    Counts (keys ++ [key]) (table ++ [(key, 1)]) := by
  have none : keys.count key = 0 := List.count_eq_zero_of_not_mem absent
  refine ⟨?_, ?_, ?_⟩
  · rw [List.map_append, List.nodup_append']
    exact ⟨counts.nodup, by simp, by simpa using mt counts.mem_keys.mp absent⟩
  · intro again occurs
    rcases List.mem_append.mp occurs with occurs | last
    · have differs : again ≠ key := ne_of_mem_of_not_mem occurs absent
      apply List.mem_append_left
      simpa [differs, Ne.symm] using counts.covers again occurs
    · obtain rfl := List.mem_singleton.mp last
      simp [none]
  · intro entry member
    rcases List.mem_append.mp member with listed | last
    · obtain ⟨occurs, exact⟩ := counts.exact entry listed
      have differs : entry.1 ≠ key := ne_of_mem_of_not_mem occurs absent
      exact ⟨List.mem_append_left _ occurs, by simpa [differs.symm] using exact⟩
    · obtain rfl := List.mem_singleton.mp last
      simp [none]

theorem tally (counts : Counts keys table) (key : κ) :
    Counts (keys ++ [key]) (tally key table) := by
  by_cases known : key ∈ keys
  · rw [tally_eq, changeOrAdd_known counts.nodup (counts.mem_keys.mpr known)]
    exact counts.raise known
  · rw [tally_eq, changeOrAdd_new (mt counts.mem_keys.mp known)]
    exact counts.add known

theorem of_keys (keys : List κ) : Counts keys (counts keys) := by
  induction keys using List.reverseRecOn with
  | nil => exact empty
  | append_singleton keys key ih =>
    rw [counts, List.foldl_concat]
    exact ih.tally key

theorem perm (counts : Counts keys table) (others : Counts keys other) : table.Perm other := by
  rw [List.perm_ext_iff_of_nodup (.of_map _ counts.nodup) (.of_map _ others.nodup)]
  intro entry
  rw [counts.mem_iff, others.mem_iff]

theorem reordered (counts : Counts keys table) (perm : other.Perm table) : Counts keys other where
  nodup := (perm.map Prod.fst).nodup_iff.mpr counts.nodup
  covers := fun key occurs => perm.mem_iff.mpr (counts.covers key occurs)
  exact := fun entry member => counts.exact entry (perm.mem_iff.mp member)

theorem of_perm (counts : Counts keys table) (perm : others.Perm keys) : Counts others table where
  nodup := counts.nodup
  covers := fun key occurs =>
    perm.count_eq key ▸ counts.covers key (perm.mem_iff.mp occurs)
  exact := fun entry member => by
    rw [perm.mem_iff, perm.count_eq]
    exact counts.exact entry member

theorem sum (counts : Counts keys table) : (table.map Prod.snd).sum = keys.length := by
  have each : table.map Prod.snd = (table.map Prod.fst).map keys.count := by
    rw [List.map_map]
    exact List.map_congr_left fun entry member => (counts.exact entry member).2
  have distinct : (table.map Prod.fst).Perm keys.dedup := by
    rw [List.perm_ext_iff_of_nodup counts.nodup keys.nodup_dedup]
    intro key
    rw [counts.mem_keys, List.mem_dedup]
  rw [each, (distinct.map keys.count).sum_eq]
  exact keys.sum_map_count_dedup_eq_length

end Counts

end Tables

section Ranking

variable {κ : Type} (name : κ → String) {left right : κ × Nat} {table other : List (κ × Nat)}

def Outranks (left right : κ × Nat) : Prop :=
  right.2 < left.2 ∨ left.2 = right.2 ∧ name left.1 < name right.1

instance : DecidableRel (Outranks name) := fun left right =>
  inferInstanceAs (Decidable (right.2 < left.2 ∨ left.2 = right.2 ∧ name left.1 < name right.1))

theorem before_iff {left right : String × Nat} :
    before left right = true ↔ right.2 < left.2 ∨ left.2 = right.2 ∧ left.1 ≤ right.1 := by
  simp [before]

theorem before_trans {left middle right : String × Nat} (first : before left middle = true)
    (second : before middle right = true) : before left right = true := by
  rw [before_iff] at first second ⊢
  rcases first with more | ⟨same, le⟩
  · left
    omega
  · rcases second with more | ⟨again, later⟩
    · left
      omega
    · exact .inr ⟨same.trans again, String.le_trans le later⟩

theorem before_total (left right : String × Nat) :
    (before left right || before right left) = true := by
  rw [Bool.or_eq_true, before_iff, before_iff]
  have names := String.le_total left.1 right.1
  by_cases same : left.2 = right.2
  · exact names.imp (fun le => .inr ⟨same, le⟩) fun le => .inr ⟨same.symm, le⟩
  · omega

variable {name}

theorem Outranks.asymm (first : Outranks name left right) : ¬Outranks name right left := by
  rintro (more | ⟨same, later⟩)
  · rcases first with more | ⟨same, _⟩ <;> omega
  · rcases first with more | ⟨_, earlier⟩
    · omega
    · exact String.lt_irrefl _ (String.lt_trans earlier later)

theorem outranks_of_before (injective : name.Injective)
    (le : before (name left.1, left.2) (name right.1, right.2) = true) (apart : left.1 ≠ right.1) :
    Outranks name left right := by
  rcases before_iff.mp le with more | ⟨same, le⟩
  · exact .inl more
  · refine .inr ⟨same, String.not_le.mp fun ge => apart ?_⟩
    exact injective (String.le_antisymm le ge)

theorem ranked_perm (name : κ → String) (table : List (κ × Nat)) : (ranked name table).Perm table :=
  List.mergeSort_perm _ _

theorem ranked_outranks (injective : name.Injective) (nodup : (table.map Prod.fst).Nodup) :
    (ranked name table).Pairwise (Outranks name) := by
  have sorted : (ranked name table).Pairwise fun left right =>
      before (name left.1, left.2) (name right.1, right.2) = true := by
    apply List.pairwise_mergeSort
    · exact fun _ _ _ => before_trans
    · exact fun _ _ => before_total _ _
  have apart : (ranked name table).Pairwise fun left right => left.1 ≠ right.1 :=
    List.pairwise_map.mp (((ranked_perm name table).map Prod.fst).nodup_iff.mpr nodup)
  exact (sorted.and apart).imp fun ⟨le, differ⟩ => outranks_of_before injective le differ

-- Distinct keys leave no ties, so there is one way to put the entries in order.
theorem ranked_eq (injective : name.Injective) (nodup : (table.map Prod.fst).Nodup)
    (perm : other.Perm table) (ordered : other.Pairwise (Outranks name)) :
    ranked name table = other := by
  refine List.Perm.eq_of_pairwise ?_ (ranked_outranks injective nodup) ordered
    ((ranked_perm name table).trans perm.symm)
  exact fun left right _ _ first second => absurd second first.asymm

theorem ranked_eq_of_perm (injective : name.Injective) (nodup : (table.map Prod.fst).Nodup)
    (perm : other.Perm table) : ranked name other = ranked name table := by
  have nodupOther : (other.map Prod.fst).Nodup := (perm.map Prod.fst).nodup_iff.mpr nodup
  refine (ranked_eq injective nodup ((ranked_perm name other).trans perm) ?_).symm
  exact ranked_outranks injective nodupOther

end Ranking

theorem kindName_injective : Kind.name.Injective := by
  intro left right same
  have found := Kind.ofName_name left
  rw [same, Kind.ofName_name] at found
  exact (Option.some.inj found).symm

theorem extensionLabel_eq_iff {left right : Element} :
    extensionLabel left = extensionLabel right ↔ left.path.extension? = right.path.extension? := by
  unfold extensionLabel
  cases left.path.extension? <;> cases right.path.extension? <;> simp [← String.toList_inj]

section Elements

variable {elements others : List Element} {kinds : List (Kind × Nat)}
  {extensions : List (String × Nat)}

theorem ofTables_eq (kindCounts : Counts (elements.map (·.kind)) kinds)
    (extensionCounts : Counts (elements.map extensionLabel) extensions) :
    ofTables elements.length kinds extensions = ofElements elements := by
  have sameKinds := Counts.of_keys (elements.map (·.kind))
  have sameExtensions := Counts.of_keys (elements.map extensionLabel)
  rw [ofElements, ofTables, ofTables,
    ranked_eq_of_perm kindName_injective sameKinds.nodup (kindCounts.perm sameKinds),
    ranked_eq_of_perm Function.injective_id sameExtensions.nodup
      (extensionCounts.perm sameExtensions)]

theorem ofTables_perm (perm : others.Perm elements)
    (kindCounts : Counts (others.map (·.kind)) kinds)
    (extensionCounts : Counts (others.map extensionLabel) extensions) :
    ofTables others.length kinds extensions = ofElements elements := by
  rw [perm.length_eq]
  exact ofTables_eq (kindCounts.of_perm (perm.symm.map _))
    (extensionCounts.of_perm (perm.symm.map _))

theorem ofElements_perm (perm : others.Perm elements) : ofElements others = ofElements elements :=
  ofTables_perm perm (.of_keys _) (.of_keys _)

/-- The kinds stand with their exact counts, which add up to the total, and of the extensions with
their exact counts the first ten; larger counts come first and equal ones in the order of the names,
so nothing that is left out belongs in front of anything listed. Neither the order of the elements
nor that in which the counted keys are read makes a difference. -/
theorem ofElements_exact (elements : List Element) :
    let statistics := ofElements elements
    let labels := elements.map extensionLabel
    statistics.total = elements.length ∧
    Counts (elements.map (·.kind)) statistics.byKind ∧
    (statistics.byKind.map Prod.snd).sum = statistics.total ∧
    statistics.byKind.Pairwise (Outranks Kind.name) ∧
    (∃ all, Counts labels all ∧ all.Pairwise (Outranks id) ∧
      statistics.byExtension = all.take 10) ∧
    (∀ label ∈ labels, (label, labels.count label) ∉ statistics.byExtension →
      ∀ entry ∈ statistics.byExtension, Outranks id entry (label, labels.count label)) ∧
    (∀ left ∈ elements, ∀ right ∈ elements,
      extensionLabel left = extensionLabel right ↔ left.path.extension? = right.path.extension?) ∧
    ∀ others, others.Perm elements → ofElements others = statistics ∧
      ∀ kinds extensions, Counts (others.map (·.kind)) kinds →
        Counts (others.map extensionLabel) extensions →
        ofTables others.length kinds extensions = statistics := by
  intro statistics labels
  have kindTable := Counts.of_keys (elements.map (·.kind))
  have extensionTable := Counts.of_keys labels
  have kindCounts : Counts (elements.map (·.kind)) statistics.byKind :=
    kindTable.reordered (ranked_perm Kind.name _)
  have allCounts : Counts labels (ranked id (counts labels)) :=
    extensionTable.reordered (ranked_perm id _)
  have allOutrank : (ranked id (counts labels)).Pairwise (Outranks id) :=
    ranked_outranks Function.injective_id extensionTable.nodup
  have cut : statistics.byExtension = (ranked id (counts labels)).take 10 := rfl
  refine ⟨rfl, kindCounts, ?_, ranked_outranks kindName_injective kindTable.nodup,
    ⟨_, allCounts, allOutrank, cut⟩, ?_, fun _ _ _ _ => extensionLabel_eq_iff,
    fun _ perm => ⟨ofElements_perm perm, fun _ _ => ofTables_perm perm⟩⟩
  · rw [kindCounts.sum, List.length_map]
    rfl
  · -- What is left out stands behind the cut, and so behind everything listed.
    intro label occurs omitted entry listed
    have member := allCounts.covers label occurs
    rw [← List.take_append_drop 10 (ranked id (counts labels)), ← cut] at member allOutrank
    have behind := (List.mem_append.mp member).resolve_left omitted
    exact (List.pairwise_append.mp allOutrank).2.2 entry listed _ behind

end Elements

def elevenFiles : List Element :=
  ["k", "j", "i", "h", "g", "f", "e", "d", "c", "b", "a"].map fun extension =>
    { (default : Element) with kind := .file, path := ⟨"x." ++ extension⟩ }

def elevenCounts : List (String × Nat) :=
  [".a", ".b", ".c", ".d", ".e", ".f", ".g", ".h", ".i", ".j", ".k"].map fun label => (label, 1)

theorem ofElements_exact_eleven :
    ".k" ∈ elevenFiles.map extensionLabel ∧ (".k", 1) ∉ (ofElements elevenFiles).byExtension ∧
      (".j", 1) ∈ (ofElements elevenFiles).byExtension ∧ Outranks id (".j", 1) (".k", 1) ∧
      elevenFiles.reverse.Perm elevenFiles ∧
      Counts (elevenFiles.reverse.map (·.kind)) [(.file, 11)] ∧
      Counts (elevenFiles.reverse.map extensionLabel) elevenCounts ∧
      ofTables 11 [(.file, 11)] elevenCounts = ofElements elevenFiles := by
  obtain ⟨-, -, -, -, -, behind, -, again⟩ := ofElements_exact elevenFiles
  have table := Counts.of_keys (elevenFiles.map extensionLabel)
  have extensions : Counts (elevenFiles.map extensionLabel) elevenCounts :=
    ⟨by decide, by decide, by decide⟩
  have inOrder : ranked id (counts (elevenFiles.map extensionLabel)) = elevenCounts :=
    ranked_eq Function.injective_id table.nodup (extensions.perm table) (by decide)
  have ten : (ofElements elevenFiles).byExtension = elevenCounts.take 10 := by
    rw [ofElements, ofTables, inOrder]
    rfl
  have occurs : ".k" ∈ elevenFiles.map extensionLabel := by decide
  have omitted : (".k", 1) ∉ (ofElements elevenFiles).byExtension := by
    rw [ten]
    decide
  have listed : (".j", 1) ∈ (ofElements elevenFiles).byExtension := by
    rw [ten]
    decide
  have reversed : elevenFiles.reverse.Perm elevenFiles := List.reverse_perm _
  have kinds : Counts (elevenFiles.reverse.map (·.kind)) [(.file, 11)] :=
    ⟨by decide, by decide, by decide⟩
  have turned := extensions.of_perm (reversed.map extensionLabel)
  exact ⟨occurs, omitted, listed, behind ".k" occurs omitted _ listed, reversed, kinds, turned,
    (again _ reversed).2 _ _ kinds turned⟩

end SymbolSearch.Statistics
