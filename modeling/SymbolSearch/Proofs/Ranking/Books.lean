import SymbolSearch.Proofs.Ranking.Steps

set_option autoImplicit false

namespace SymbolSearch.Ranking.Desk

variable {α : Type}

structure Books (desk : Desk α) : Prop where
  pending_slot : ∀ key slot, (key, slot) ∈ desk.pending →
    ∃ outcome, desk.slots[slot]? = some { key, outcome }
  pending_distinct : Distinct desk.pending
  open_pending : ∀ (key : Key) (slot : Nat), desk.slots[slot]? = some { key, outcome := none } →
    (key, slot) ∈ desk.pending
  done_distinct : Distinct desk.done
  done_not_pending : ∀ key ranked, (key, ranked) ∈ desk.done →
    ∀ slot, (key, slot) ∉ desk.pending

variable {desk : Desk α}

theorem Books.of_eq {other : Desk α} (books : desk.Books) (done : other.done = desk.done)
    (pending : other.pending = desk.pending) (slots : other.slots = desk.slots) : other.Books := by
  obtain ⟨_, otherDone, otherPending, otherSlots, _⟩ := other
  subst done pending slots
  exact ⟨books.pending_slot, books.pending_distinct, books.open_pending, books.done_distinct,
    books.done_not_pending⟩

theorem Books.empty (capacity : Option Nat) : (Desk.empty capacity : Desk α).Books := by
  constructor <;> simp [Desk.empty, Distinct]

theorem Books.hit (books : desk.Books) {key : Key} {ranked : Ranked α}
    (present : (key, ranked) ∈ desk.done) :
    { desk with done := (key, ranked) :: forget key desk.done }.Books where
  pending_slot := books.pending_slot
  pending_distinct := books.pending_distinct
  open_pending := books.open_pending
  done_distinct := books.done_distinct.cons_forget key ranked
  done_not_pending := by
    intro other value kept
    rcases List.mem_cons.mp kept with same | kept
    · cases same
      exact books.done_not_pending key ranked present
    · exact books.done_not_pending other value ((mem_forget _).mp kept).1

theorem Books.openSlot (books : desk.Books) {key : Key} (miss : desk.done.lookup key = none)
    (absent : desk.pending.lookup key = none) : (desk.openSlot key).Books where
  pending_slot := by
    intro other slot pending
    rcases List.mem_cons.mp pending with same | pending
    · cases same
      exact ⟨none, (openSlot_slot ..).mpr (.inr ⟨rfl, rfl⟩)⟩
    · obtain ⟨outcome, here⟩ := books.pending_slot other slot pending
      exact ⟨outcome, (openSlot_slot ..).mpr (.inl here)⟩
  pending_distinct :=
    (distinct_cons _ _).mpr ⟨lookup_eq_none.mp absent, books.pending_distinct⟩
  open_pending := by
    intro other slot here
    rcases (openSlot_slot ..).mp here with here | ⟨rfl, same⟩
    · exact List.mem_cons_of_mem _ (books.open_pending other slot here)
    · cases same
      exact List.mem_cons_self
  done_distinct := books.done_distinct
  done_not_pending := by
    intro other ranked kept slot pending
    rcases List.mem_cons.mp pending with same | pending
    · cases same
      exact lookup_eq_none.mp miss ranked kept
    · exact books.done_not_pending other ranked kept slot pending

theorem Books.finish (books : desk.Books) (caller place : Nat) (outcome : Outcome α) :
    (desk.finish caller place outcome).Books where
  pending_slot := by
    intro key slot pending
    obtain ⟨settled, here⟩ := books.pending_slot key slot pending
    by_cases same : slot = place
    · exact ⟨some outcome, (finish_slot ..).mpr (.inl ⟨same, settled, here, rfl⟩)⟩
    · exact ⟨settled, (finish_slot ..).mpr (.inr ⟨same, here⟩)⟩
  pending_distinct := books.pending_distinct
  open_pending := by
    intro key slot here
    rcases (finish_slot ..).mp here with ⟨_, _, _, settled⟩ | ⟨_, here⟩
    · cases settled
    · exact books.open_pending key slot here
  done_distinct := books.done_distinct
  done_not_pending := books.done_not_pending

theorem mem_keep {key other : Key} {ranked value : Ranked α}
    (kept : (other, value) ∈ desk.keep key ranked) :
    (other = key ∧ value = ranked) ∨ ((other, value) ∈ desk.done ∧ other ≠ key) := by
  have present : (other, value) ∈ (key, ranked) :: forget key desk.done := by
    unfold keep at kept
    split at kept
    · exact kept
    · exact List.mem_of_mem_take kept
  simpa using present

theorem Distinct.keep (distinct : Distinct desk.done) (key : Key) (ranked : Ranked α) :
    Distinct (desk.keep key ranked) := by
  have kept := distinct.cons_forget key ranked
  unfold Desk.keep
  split
  · exact kept
  · exact kept.sublist ((List.take_sublist _ _).map Prod.fst)

theorem Books.closed (books : desk.Books) {slot : Nat} {entry : Slot α} (outcome : Outcome α)
    (here : desk.slots[slot]? = some entry) (settled : entry.outcome.isSome)
    (pending : desk.pending.lookup entry.key = some slot) :
    (desk.closed entry.key outcome).Books where
  pending_slot := by
    intro key other pending
    exact books.pending_slot key other ((mem_forget _).mp pending).1
  pending_distinct := books.pending_distinct.forget entry.key
  open_pending := by
    intro key other (unsettled : desk.slots[other]? = some { key, outcome := none })
    have stillPending := books.open_pending key other unsettled
    refine (mem_forget _).mpr ⟨stillPending, ?_⟩
    -- The slot that is closed is the only pending one of its key, and it has an outcome.
    rintro rfl
    have same : other = slot :=
      books.pending_distinct.eq_of_mem stillPending (mem_of_lookup pending)
    rw [same, here] at unsettled
    have none : entry.outcome = none := congrArg Slot.outcome (Option.some.inj unsettled)
    simp [none] at settled
  done_distinct := by
    unfold Desk.closed
    cases outcome with
    | ok ranked => exact books.done_distinct.keep entry.key ranked
    | error _ => exact books.done_distinct
  done_not_pending := by
    intro key ranked kept other listed
    obtain ⟨stillPending, otherKey⟩ := (mem_forget _).mp listed
    cases outcome with
    | ok _ =>
      rcases mem_keep kept with ⟨same, _⟩ | ⟨kept, _⟩
      · exact otherKey same
      · exact books.done_not_pending key ranked kept other stillPending
    | error _ => exact books.done_not_pending key ranked kept other stillPending

theorem Books.join (books : desk.Books) (slot : Nat) : (desk.join slot).Books := by
  obtain ⟨state, _, same⟩ := join_cases desk slot
  rw [same]
  exact books.of_eq rfl rfl rfl

end SymbolSearch.Ranking.Desk
