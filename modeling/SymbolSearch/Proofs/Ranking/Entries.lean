import SymbolSearch.Ranking.Desk

set_option autoImplicit false

namespace SymbolSearch.Ranking.Desk

variable {β : Type} {entries : List (Key × β)} {key : Key} {value : β}

def Distinct (entries : List (Key × β)) : Prop :=
  (entries.map Prod.fst).Nodup

theorem distinct_cons (entry : Key × β) (entries : List (Key × β)) :
    Distinct (entry :: entries) ↔ (∀ value, (entry.1, value) ∉ entries) ∧ Distinct entries := by
  simp [Distinct]

theorem mem_of_lookup (found : entries.lookup key = some value) : (key, value) ∈ entries := by
  obtain ⟨before, after, rfl, _⟩ := List.lookup_eq_some_iff.mp found
  simp

theorem Distinct.lookup (distinct : Distinct entries) (present : (key, value) ∈ entries) :
    entries.lookup key = some value := by
  induction entries with
  | nil => simp at present
  | cons entry entries ih =>
    obtain ⟨absent, rest⟩ := (distinct_cons entry entries).mp distinct
    rcases List.mem_cons.mp present with rfl | later
    · simp
    · obtain ⟨first, found⟩ := entry
      have other : (key == first) = false := by
        apply beq_false_of_ne
        rintro rfl
        exact absent value later
      simpa only [List.lookup_cons, other] using ih rest later

theorem Distinct.eq_of_mem {other : β} (distinct : Distinct entries)
    (present : (key, value) ∈ entries) (again : (key, other) ∈ entries) : value = other := by
  have first := distinct.lookup present
  rw [distinct.lookup again] at first
  exact (Option.some.inj first).symm

theorem lookup_eq_none : entries.lookup key = none ↔ ∀ value, (key, value) ∉ entries := by
  rw [List.lookup_eq_none_iff]
  constructor
  · intro absent value present
    simpa using absent _ present
  · rintro absent ⟨found, value⟩ present
    have other : key ≠ found := by
      rintro rfl
      exact absent value present
    simpa using other

theorem forget_cons (entry : Key × β) (entries : List (Key × β)) :
    forget key (entry :: entries) =
      if entry.1 = key then forget key entries else entry :: forget key entries := by
  by_cases same : entry.1 = key <;> simp [forget, same]

@[simp] theorem mem_forget (entry : Key × β) :
    entry ∈ forget key entries ↔ entry ∈ entries ∧ entry.1 ≠ key := by
  simp [forget]

theorem Distinct.forget (distinct : Distinct entries) (key : Key) :
    Distinct (forget key entries) :=
  distinct.sublist (List.filter_sublist.map Prod.fst)

theorem Distinct.cons_forget (distinct : Distinct entries) (key : Key) (value : β) :
    Distinct ((key, value) :: Desk.forget key entries) := by
  rw [distinct_cons]
  exact ⟨by simp, distinct.forget key⟩

theorem forget_absent (absent : ∀ value, (key, value) ∉ entries) :
    forget key entries = entries := by
  simp only [forget, List.filter_eq_self]
  rintro ⟨found, value⟩ present
  have other : found ≠ key := by
    rintro rfl
    exact absent value present
  simpa using other

theorem Distinct.length_forget (distinct : Distinct entries) (present : (key, value) ∈ entries) :
    (Desk.forget key entries).length + 1 = entries.length := by
  induction entries with
  | nil => simp at present
  | cons entry entries ih =>
    obtain ⟨absent, rest⟩ := (distinct_cons entry entries).mp distinct
    rcases List.mem_cons.mp present with rfl | later
    · rw [forget_cons, if_pos rfl, forget_absent absent, List.length_cons]
    · have other : entry.1 ≠ key := by
        rintro rfl
        exact absent value later
      rw [forget_cons, if_neg other, List.length_cons, List.length_cons, ih rest later]

end SymbolSearch.Ranking.Desk
