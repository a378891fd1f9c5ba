import SymbolSearch.Proofs.Ranking.Attendance
import SymbolSearch.Proofs.Ranking.Selection

set_option autoImplicit false

namespace SymbolSearch.Ranking.Desk

variable {α : Type} {search : String → Nat → Ranked α} {capacity : Option Nat}
  {desk after : Desk α} {event : Event}

structure Within (capacity : Option Nat) (desk : Desk α) : Prop where
  capacity_eq : desk.capacity = capacity
  done_length : ∀ most, capacity = some most → desk.done.length ≤ most

theorem keep_length_le {most : Nat} (capacity : desk.capacity = some most) (key : Key)
    (ranked : Ranked α) : (desk.keep key ranked).length ≤ most := by
  simp only [keep, capacity]
  exact List.length_take_le ..

theorem Within.keep_cases (within : desk.Within capacity) {key : Key} (ranked : Ranked α)
    (absent : ∀ value, (key, value) ∉ desk.done) :
    desk.keep key ranked = (key, ranked) :: desk.done ∨
    (capacity = some desk.done.length ∧
      desk.keep key ranked = ((key, ranked) :: desk.done).dropLast) := by
  obtain ⟨rfl, length⟩ := within
  unfold keep
  rw [forget_absent absent]
  split
  next => exact .inl rfl
  next most bounded =>
    rcases Nat.lt_or_eq_of_le (length most bounded) with room | full
    · exact .inl (List.take_of_length_le room)
    · -- The new one is in front, so it is the last one that goes.
      refine .inr ⟨bounded.trans (congrArg some full.symm), ?_⟩
      rw [List.dropLast_eq_take, List.length_cons, Nat.add_sub_cancel, full]

theorem lookup_dropLast {β : Type} {entries : List (Key × β)} {key : Key} {value : β}
    (found : entries.lookup key = some value) (lost : entries.dropLast.lookup key = none) :
    entries.getLast? = some (key, value) := by
  rcases List.eq_nil_or_concat' entries with rfl | ⟨rest, ⟨other, last⟩, rfl⟩
  · simp at found
  · rw [List.dropLast_concat] at lost
    rw [List.lookup_append, lost, Option.none_or] at found
    rw [List.getLast?_concat, List.mem_singleton.mp (mem_of_lookup found)]

theorem Change.capacity_eq (change : Change search desk event after) :
    after.capacity = desk.capacity := by
  cases change <;> rfl

theorem Change.within (change : Change search desk event after) (books : desk.Books)
    (within : desk.Within capacity) : after.Within capacity := by
  refine ⟨change.capacity_eq.trans within.capacity_eq, fun most bounded => ?_⟩
  have length := within.done_length most bounded
  cases change with
  | hit found =>
    -- To use an entry again moves it to the front.
    have same := books.done_distinct.length_forget (mem_of_lookup found)
    exact Nat.le_trans (Nat.le_of_eq same) length
  | @close _ _ key outcome _ _ _ =>
    cases outcome with
    | ok ranked => exact keep_length_le (within.capacity_eq.trans bounded) key ranked
    | error _ => exact length
  | _ => exact length

theorem Change.pending_kept (change : Change search desk event after) (books : desk.Books)
    {key : Key} {slot : Nat} (pending : desk.pending.lookup key = some slot) :
    after.pending.lookup key = some slot ∨
    ∃ caller outcome, event = .settle caller ∧ desk.ready? caller = some (slot, outcome) := by
  cases change with
  | @openSlot opened _ absent =>
    left
    have other : (key == opened) = false := by
      apply beq_false_of_ne
      rintro rfl
      rw [absent] at pending
      cases pending
    simpa [Desk.addCaller, Desk.openSlot, List.lookup_cons, other] using pending
  | @close caller place closed outcome ready _ here =>
    by_cases same : key = closed
    · subst same
      rw [pending] at here
      cases here
      exact .inr ⟨caller, outcome, rfl, ready⟩
    · left
      have stays : (key, slot) ∈ forget closed desk.pending :=
        (mem_forget _).mpr ⟨mem_of_lookup pending, same⟩
      exact (books.pending_distinct.forget closed).lookup stays
  | _ => exact .inl pending

theorem Change.evicted (change : Change search desk event after) (coherent : desk.Coherent)
    (within : desk.Within capacity) {key : Key} {ranked : Ranked α}
    (kept : desk.done.lookup key = some ranked) (lost : after.done.lookup key = none) :
    ∃ caller slot other newer, event = .settle caller ∧
      desk.ready? caller = some (slot, .ok newer) ∧ desk.pending.lookup other = some slot ∧
      capacity = some desk.done.length ∧ desk.done.getLast? = some (key, ranked) ∧
      after.done = (other, newer) :: desk.done.dropLast ∧
      after.pending = forget other desk.pending ∧ after.slots = desk.slots := by
  have present := mem_of_lookup kept
  have gone := lookup_eq_none.mp lost
  cases change with
  | @hit used value found =>
    -- A hit only changes the order.
    by_cases same : key = used
    · subst same
      exact absurd List.mem_cons_self (gone value)
    · exact absurd (List.mem_cons_of_mem _ ((mem_forget _).mpr ⟨present, same⟩)) (gone ranked)
  | @close caller slot other outcome ready settled pending =>
    cases outcome with
    | error _ => exact absurd present (gone ranked)
    | ok newer =>
      have absent (value : Ranked α) (listed : (other, value) ∈ desk.done) : False :=
        coherent.books.done_not_pending other value listed slot (mem_of_lookup pending)
      change (desk.keep other newer).lookup key = none at lost
      refine ⟨caller, slot, other, newer, rfl, ready, pending, ?_⟩
      rcases within.keep_cases newer absent with same | ⟨full, same⟩
      · rw [same] at lost
        exact absurd (List.mem_cons_of_mem _ present) (lookup_eq_none.mp lost ranked)
      · have filled : desk.done ≠ [] := List.ne_nil_of_mem present
        rw [List.dropLast_cons_of_ne_nil filled] at same
        have rest : desk.done.dropLast.lookup key = none := by
          rw [same] at lost
          exact lookup_eq_none.mpr fun value listed =>
            lookup_eq_none.mp lost value (List.mem_cons_of_mem _ listed)
        exact ⟨full, lookup_dropLast kept rest, same, rfl, rfl⟩
  | _ => exact absurd present (gone ranked)

theorem Within.empty (capacity : Option Nat) : (Desk.empty capacity : Desk α).Within capacity :=
  ⟨rfl, fun _ _ => Nat.zero_le _⟩

theorem Within.run (within : desk.Within capacity) (coherent : desk.Coherent)
    (events : List Event) : (desk.run search events).Within capacity := by
  induction events generalizing desk with
  | nil => exact within
  | cons event events ih =>
    have next : (desk.step search event).Within capacity :=
      (coherent.change event).within coherent.books within
    exact ih next (coherent.step search event)

theorem Justified.selected {successes : List Success} {key : Key} {ranked : Ranked α}
    (justified : Justified search successes key ranked) :
    ranked.length ≤ key.limit ∧ (ranked.map (·.element.id)).Nodup ∧
      ∀ result ∈ ranked, result ∈ search key.query (min (3 * key.limit) (Nat.pow 2 64 - 1)) := by
  rcases justified with ⟨_, rfl⟩ | ⟨ids, _, rfl⟩
  · simp
  · exact ⟨select_length_le, select_ids_nodup, fun _ => mem_of_mem_select⟩

/-- In any state of any run: a key is kept or pending or neither, and no more keys are kept than the
capacity allows. In any step from there, a pending slot is closed by its own caller or stays, and a
ranking that is lost is the last one of a full desk, lost to the one that is settled. What is kept
for a key is chosen from its candidates, no element twice and no more than asked for. -/
theorem run_halves_consistent (search : String → Nat → Ranked α) (capacity : Option Nat)
    (events : List Event) :
    let desk := (Desk.empty capacity).run search events
    (∀ key, desk.done.lookup key = none ∨ desk.pending.lookup key = none) ∧
    (desk.done.map Prod.fst).Nodup ∧
    (∀ most, capacity = some most → desk.done.length ≤ most) ∧
    (∀ event key slot, desk.pending.lookup key = some slot →
      (desk.step search event).pending.lookup key = some slot ∨
      ∃ caller outcome, event = .settle caller ∧ desk.ready? caller = some (slot, outcome)) ∧
    (∀ event key ranked, desk.done.lookup key = some ranked →
      let after := desk.step search event
      after.done.lookup key = none →
      ∃ caller slot other newer, event = .settle caller ∧
        desk.ready? caller = some (slot, .ok newer) ∧ desk.pending.lookup other = some slot ∧
        capacity = some desk.done.length ∧ desk.done.getLast? = some (key, ranked) ∧
        after.done = (other, newer) :: desk.done.dropLast ∧
        after.pending = forget other desk.pending ∧ after.slots = desk.slots) ∧
    (∀ key ranked, desk.done.lookup key = some ranked →
      ranked.length ≤ key.limit ∧ (ranked.map (·.element.id)).Nodup ∧
      ∀ result ∈ ranked, result ∈ search key.query (min (3 * key.limit) (Nat.pow 2 64 - 1))) := by
  intro desk
  have coherent : desk.Coherent := (Coherent.empty capacity).run search events
  have recorded : Recorded search (keysOf events) _ desk :=
    (Recorded.empty capacity).run (.empty capacity) events
  have within : desk.Within capacity := (Within.empty capacity).run (.empty capacity) events
  refine ⟨?_, coherent.books.done_distinct, within.done_length, ?_, ?_, ?_⟩
  · intro key
    rcases kept : desk.done.lookup key with _ | ranked
    · exact .inl rfl
    · exact .inr (lookup_eq_none.mpr
        (coherent.books.done_not_pending key ranked (mem_of_lookup kept)))
  · intro event key slot pending
    exact (coherent.change event).pending_kept coherent.books pending
  · intro event key ranked kept after lost
    exact (coherent.change event).evicted coherent within kept lost
  · intro key ranked kept
    exact (recorded.done_justified key ranked (mem_of_lookup kept)).selected

def shortKey : Key :=
  { query := "user", limit := 1 }

def aboutToLose : List Event :=
  [.call userKey, .start 0, .reply 0 (.ok ["a"]), .settle 0, .call authKey, .start 1,
    .reply 1 (.ok ["a"]), .call shortKey, .start 2]

theorem run_halves_consistent_loss :
    (((Desk.empty (some 1)).run oneCandidate aboutToLose).step oneCandidate
      (.settle 1)).done.length ≤ 1 ∧
    (((Desk.empty (some 1)).run oneCandidate aboutToLose).step oneCandidate
      (.settle 1)).done.lookup userKey = none ∧
    (((Desk.empty (some 1)).run oneCandidate aboutToLose).step oneCandidate
      (.settle 1)).pending.lookup shortKey = some 2 := by
  have kept : ((Desk.empty (some 1)).run oneCandidate aboutToLose).done.lookup userKey =
      some (oneCandidate "user" 6) := rfl
  have lost : (((Desk.empty (some 1)).run oneCandidate aboutToLose).step oneCandidate
      (.settle 1)).done.lookup userKey = none := rfl
  have pending : ((Desk.empty (some 1)).run oneCandidate aboutToLose).pending.lookup shortKey =
      some 2 := rfl
  have ready : (((Desk.empty (some 1)).run oneCandidate aboutToLose).ready? 1).map Prod.fst =
      some 1 := rfl
  obtain ⟨_, _, _, stays, loses, _⟩ := run_halves_consistent oneCandidate (some 1) aboutToLose
  obtain ⟨_, _, _, _, _, _, _, full, _, done, _⟩ := loses (.settle 1) userKey _ kept lost
  refine ⟨?_, lost, ?_⟩
  · simp [done, ← Option.some.inj full]
  · rcases stays (.settle 1) shortKey 2 pending with stays | ⟨caller, outcome, same, elsewhere⟩
    · exact stays
    · cases same
      rw [elsewhere] at ready
      cases ready

end SymbolSearch.Ranking.Desk
