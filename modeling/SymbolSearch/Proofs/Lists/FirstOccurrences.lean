import Mathlib.Data.List.Basic

set_option autoImplicit false

namespace SymbolSearch

section Changes

variable {α κ : Type} [DecidableEq κ] {key : α → κ} {wanted : κ} {change : α → α} {fresh item : α}
  {items : List α}

def changeOrAdd (key : α → κ) (wanted : κ) (change : α → α) (fresh : α) : List α → List α
  | [] => [fresh]
  | item :: rest =>
    if key item = wanted then change item :: rest
    else item :: changeOrAdd key wanted change fresh rest

def changed (key : α → κ) (wanted : κ) (change : α → α) (item : α) : α :=
  if key item = wanted then change item else item

theorem changed_own (own : key item = wanted) : changed key wanted change item = change item :=
  if_pos own

theorem changed_other (other : key item ≠ wanted) : changed key wanted change item = item :=
  if_neg other

theorem changeOrAdd_new (unknown : wanted ∉ items.map key) :
    changeOrAdd key wanted change fresh items = items ++ [fresh] := by
  induction items with
  | nil => rfl
  | cons item items ih =>
    rw [List.map_cons, List.mem_cons, not_or] at unknown
    rw [changeOrAdd, if_neg (Ne.symm unknown.1), ih unknown.2, List.cons_append]

theorem changeOrAdd_known (distinct : (items.map key).Nodup) (known : wanted ∈ items.map key) :
    changeOrAdd key wanted change fresh items = items.map (changed key wanted change) := by
  induction items with
  | nil => simp at known
  | cons item items ih =>
    obtain ⟨apart, distinct⟩ := List.nodup_cons.mp distinct
    rw [changeOrAdd, List.map_cons]
    split
    next own =>
      -- The key is not met again, so the other items stay.
      have kept : items.map (changed key wanted change) = items := by
        conv_rhs => rw [← List.map_id items]
        apply List.map_congr_left
        intro other member
        exact changed_other fun again =>
          apart (List.mem_map.mpr ⟨other, member, again.trans own.symm⟩)
      rw [kept, changed_own own]
    next other =>
      rw [changed_other other, ih distinct ((List.mem_cons.mp known).resolve_left (Ne.symm other))]

end Changes

section Repeats

variable {κ : Type} [BEq κ] [LawfulBEq κ]

omit [LawfulBEq κ] in
-- Induction on what is left when the items with the key of the first one are taken away.
theorem keyed_induction {α : Type} (key : α → κ) {motive : List α → Prop} (nil : motive [])
    (cons : ∀ item items, motive (items.filter fun other => !key other == key item) →
      motive (item :: items)) (items : List α) : motive items := by
  induction length : items.length using Nat.strongRecOn generalizing items with
  | _ count ih =>
    subst length
    cases items with
    | nil => exact nil
    | cons item items =>
      have shorter := Nat.lt_succ_of_le
        (List.length_filter_le (fun other => !key other == key item) items)
      exact cons item items (ih _ shorter _ rfl)

theorem eraseDups_filter (keep : κ → Bool) (items : List κ) :
    (items.filter keep).eraseDups = items.eraseDups.filter keep := by
  induction items using keyed_induction (id : κ → κ) with
  | nil => rfl
  | cons item items ih =>
    simp only [id_eq] at ih
    rw [List.eraseDups_cons]
    by_cases kept : keep item = true
    · rw [List.filter_cons_of_pos kept, List.filter_cons_of_pos kept, List.eraseDups_cons, ← ih,
        List.filter_comm]
    · rw [List.filter_cons_of_neg kept, List.filter_cons_of_neg kept, ← ih, List.filter_filter]
      congr 1
      apply List.filter_congr
      intro other _
      by_cases same : other = item <;> simp_all

theorem eraseDups_ordered (items : List κ) :
    items.eraseDups.Pairwise fun first second => items.idxOf first < items.idxOf second := by
  induction items with
  | nil => exact List.Pairwise.nil
  | cons item items ih =>
    rw [List.eraseDups_cons, eraseDups_filter]
    have later {other : κ} (occurs : other ∈ items.eraseDups.filter fun other => !other == item) :
        (item :: items).idxOf other = items.idxOf other + 1 := by
      have differs : other ≠ item := by simpa using (List.mem_filter.mp occurs).2
      exact List.idxOf_cons_ne _ differs.symm
    refine List.pairwise_cons.mpr ⟨fun other occurs => ?_, ?_⟩
    · rw [later occurs, List.idxOf_cons_self]
      exact Nat.succ_pos _
    · refine (ih.sublist List.filter_sublist).imp_of_mem ?_
      intro first second firstOccurs secondOccurs before
      rw [later firstOccurs, later secondOccurs]
      exact Nat.succ_lt_succ before

theorem eraseDups_nodup (items : List κ) : items.eraseDups.Nodup :=
  (eraseDups_ordered items).imp fun before => ne_of_apply_ne items.idxOf (Nat.ne_of_lt before)

theorem eraseDups_concat_known {items : List κ} {item : κ} (known : item ∈ items) :
    (items ++ [item]).eraseDups = items.eraseDups := by
  simp [List.eraseDups_append, List.removeAll, known]

theorem eraseDups_concat_new {items : List κ} {item : κ} (unknown : item ∉ items) :
    (items ++ [item]).eraseDups = items.eraseDups ++ [item] := by
  simp [List.eraseDups_append, List.removeAll, unknown, List.eraseDups_cons]

variable {α : Type} (key : α → κ)

def gathered (items : List α) : List α :=
  (items.map key).eraseDups.flatMap fun first => items.filter fun item => key item == first

theorem gathered_cons (item : α) (items : List α) :
    gathered key (item :: items) =
      item :: (items.filter fun other => key other == key item) ++
        gathered key (items.filter fun other => !key other == key item) := by
  have others : ((items.map key).filter fun other => !other == key item) =
      (items.filter fun other => !key other == key item).map key := by
    rw [List.filter_map]
    rfl
  rw [gathered, List.map_cons, List.eraseDups_cons, others, List.flatMap_cons, gathered]
  congr 1
  · simp
  · apply List.flatMap_congr
    intro later occurs
    have differs : later ≠ key item := by
      obtain ⟨other, member, rfl⟩ := List.mem_map.mp (List.mem_eraseDups.mp occurs)
      simpa using (List.mem_filter.mp member).2
    rw [List.filter_cons_of_neg (by simpa using differs.symm), List.filter_filter]
    apply List.filter_congr
    intro other _
    by_cases same : key other = later <;> simp_all

theorem gathered_perm (items : List α) : (gathered key items).Perm items := by
  induction items using keyed_induction key with
  | nil => exact .refl []
  | cons item items ih =>
    rw [gathered_cons]
    exact ((ih.append_left _).trans (List.filter_append_perm _ items)).cons item

theorem gathered_filter (items : List α) (shared : κ) :
    (gathered key items).filter (fun item => key item == shared) =
      items.filter fun item => key item == shared := by
  induction items using keyed_induction key with
  | nil => rfl
  | cons item items ih =>
    rw [gathered_cons, List.filter_append, ih]
    by_cases first : key item = shared
    · subst first
      simp [List.filter_filter]
    · have apart (other : α) : (key other == shared && key other == key item) = false := by
        simp only [Bool.and_eq_false_imp, beq_iff_eq, beq_eq_false_iff_ne]
        rintro rfl
        exact Ne.symm first
      have kept (other : α) : (key other == shared && !key other == key item) =
          (key other == shared) := by
        have := apart other
        grind
      simp [List.filter_filter, first, apart, kept]

theorem gathered_keys (items : List α) :
    ((gathered key items).map key).eraseDups = (items.map key).eraseDups := by
  induction items using keyed_induction key with
  | nil => rfl
  | cons item items ih =>
    have firsts : ((items.filter fun other => key other == key item).map key).filter
        (fun other => !other == key item) = [] := by
      simp only [List.filter_eq_nil_iff, List.forall_mem_map, List.mem_filter]
      rintro other ⟨_, same⟩
      simp [same]
    rw [gathered_cons, List.cons_append, List.map_cons, List.map_append, List.eraseDups_cons,
      List.filter_append, firsts, List.nil_append, eraseDups_filter, ih, ← eraseDups_filter,
      List.map_cons, List.eraseDups_cons]
    congr 2
    simp [List.filter_map, List.filter_filter, Function.comp_def]

end Repeats

end SymbolSearch
