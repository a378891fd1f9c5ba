import SymbolSearch.Proofs.Ranking.Record

set_option autoImplicit false

namespace SymbolSearch.Ranking.Desk

variable {α : Type}

-- The ranking of a key is kept, or is the outcome of the slot that is still pending for it.
def Known (desk : Desk α) (key : Key) (ranked : Ranked α) : Prop :=
  (key, ranked) ∈ desk.done ∨
    ∃ slot, (key, slot) ∈ desk.pending ∧
      desk.slots[slot]? = some { key, outcome := some (.ok ranked) }

structure Keeps (before after : Desk α) : Prop where
  done : ∀ key ranked, (key, ranked) ∈ before.done → (key, ranked) ∈ after.done
  done_length : before.done.length ≤ after.done.length
  known : ∀ key ranked, before.Known key ranked → after.Known key ranked

structure Unbounded (origin : Desk α) (keys : List Key) (successes : List Success)
    (desk : Desk α) : Prop where
  capacity : desk.capacity = none
  since : Keeps origin desk
  slot_known : ∀ (slot : Nat) (key : Key) (ranked : Ranked α),
    desk.slots[slot]? = some { key, outcome := some (.ok ranked) } → desk.Known key ranked
  returned_known : ∀ (caller : Nat) (key : Key) (ranked : Ranked α),
    desk.callers[caller]? = some (.returned (.ok ranked)) → keys[caller]? = some key →
    desk.Known key ranked
  success_known : ∀ success ∈ successes, ∃ ranked, desk.Known success.request.key ranked
  success_once : ∀ key, successes.countP (·.request.key = key) ≤ 1

variable {search : String → Nat → Ranked α} {keys : List Key} {successes : List Success}
  {origin desk after : Desk α}

theorem Known.outcome {key : Key} {ranked : Ranked α} {slot : Nat} (known : desk.Known key ranked)
    (books : desk.Books) (pending : (key, slot) ∈ desk.pending) :
    desk.slots[slot]? = some { key, outcome := some (.ok ranked) } := by
  rcases known with kept | ⟨other, otherPending, here⟩
  · exact absurd pending (books.done_not_pending key ranked kept slot)
  · rwa [books.pending_distinct.eq_of_mem pending otherPending]

theorem Known.unique {key : Key} {left right : Ranked α} (books : desk.Books)
    (first : desk.Known key left) (second : desk.Known key right) : left = right := by
  rcases first with kept | ⟨slot, pending, here⟩
  · rcases second with kept' | ⟨slot, pending, _⟩
    · exact books.done_distinct.eq_of_mem kept kept'
    · exact absurd pending (books.done_not_pending key left kept slot)
  · rw [second.outcome books pending] at here
    cases here
    rfl

theorem Keeps.refl (desk : Desk α) : Keeps desk desk :=
  ⟨fun _ _ => id, Nat.le_refl _, fun _ _ => id⟩

theorem Keeps.trans (first : Keeps origin desk) (second : Keeps desk after) : Keeps origin after :=
  ⟨fun key ranked kept => second.done key ranked (first.done key ranked kept),
    Nat.le_trans first.done_length second.done_length,
    fun key ranked known => second.known key ranked (first.known key ranked known)⟩

theorem Keeps.of_eq (done : after.done = desk.done) (pending : after.pending = desk.pending)
    (slots : after.slots = desk.slots) : Keeps desk after := by
  obtain ⟨_, _, _, _, _⟩ := after
  subst done pending slots
  exact ⟨fun _ _ => id, Nat.le_refl _, fun _ _ => id⟩

theorem Keeps.hit (books : desk.Books) {key : Key} {ranked : Ranked α}
    (present : (key, ranked) ∈ desk.done) :
    Keeps desk { desk with done := (key, ranked) :: forget key desk.done } := by
  have done (other : Key) (value : Ranked α) (kept : (other, value) ∈ desk.done) :
      (other, value) ∈ (key, ranked) :: forget key desk.done := by
    by_cases same : other = key
    · subst same
      rw [books.done_distinct.eq_of_mem kept present]
      exact List.mem_cons_self
    · exact List.mem_cons_of_mem _ ((mem_forget _).mpr ⟨kept, same⟩)
  refine ⟨done, ?_, ?_⟩
  · exact Nat.le_of_eq (books.done_distinct.length_forget present).symm
  · intro other value known
    exact known.imp_left (done other value)

theorem Keeps.openSlot (desk : Desk α) (key : Key) : Keeps desk (desk.openSlot key) where
  done := fun _ _ => id
  done_length := Nat.le_refl _
  known := by
    rintro other value (kept | ⟨slot, pending, here⟩)
    · exact .inl kept
    · exact .inr ⟨slot, List.mem_cons_of_mem _ pending, (openSlot_slot ..).mpr (.inl here)⟩

theorem Keeps.finish {place : Nat} (caller : Nat) (outcome : Outcome α)
    (unsettled : ∃ key, desk.slots[place]? = some { key, outcome := none }) :
    Keeps desk (desk.finish caller place outcome) where
  done := fun _ _ => id
  done_length := Nat.le_refl _
  known := by
    rintro key ranked (kept | ⟨slot, pending, here⟩)
    · exact .inl kept
    · refine .inr ⟨slot, pending, (finish_slot ..).mpr (.inr ⟨?_, here⟩)⟩
      rintro rfl
      obtain ⟨_, there⟩ := unsettled
      rw [here] at there
      cases there

theorem keep_unbounded (unbounded : desk.capacity = none) (key : Key) (ranked : Ranked α) :
    desk.keep key ranked = (key, ranked) :: forget key desk.done := by
  simp [keep, unbounded]

theorem Keeps.closed (books : desk.Books) (unbounded : desk.capacity = none) {slot : Nat}
    {key : Key} {outcome : Outcome α}
    (here : desk.slots[slot]? = some { key, outcome := some outcome })
    (pending : (key, slot) ∈ desk.pending) : Keeps desk (desk.closed key outcome) := by
  have absent (ranked : Ranked α) : (key, ranked) ∉ desk.done :=
    fun kept => books.done_not_pending key ranked kept slot pending
  have done (other : Key) (value : Ranked α) (kept : (other, value) ∈ desk.done) :
      (other, value) ∈ (desk.closed key outcome).done := by
    cases outcome with
    | ok ranked =>
      simp only [Desk.closed, keep_unbounded unbounded, forget_absent absent]
      exact List.mem_cons_of_mem _ kept
    | error _ => exact kept
  refine ⟨done, ?_, ?_⟩
  · cases outcome with
    | ok ranked => simp [Desk.closed, keep_unbounded unbounded, forget_absent absent]
    | error _ => exact Nat.le_refl _
  · intro other value known
    by_cases same : other = key
    · -- The slot that is closed is the one that is pending, and its outcome goes to the books.
      subst same
      rw [known.outcome books pending] at here
      cases here
      left
      simp [Desk.closed, keep_unbounded unbounded]
    · rcases known with kept | ⟨place, placePending, there⟩
      · exact .inl (done other value kept)
      · exact .inr ⟨place, (mem_forget _).mpr ⟨placePending, same⟩, there⟩

theorem Unbounded.next (unbounded : Unbounded origin keys successes desk) (keeps : Keeps desk after)
    (capacity : after.capacity = desk.capacity)
    (slots : ∀ (slot : Nat) (key : Key) (ranked : Ranked α),
      after.slots[slot]? = some { key, outcome := some (.ok ranked) } →
      desk.slots[slot]? = some { key, outcome := some (.ok ranked) } ∨ after.Known key ranked)
    (callers : ∀ (caller : Nat) (ranked : Ranked α),
      after.callers[caller]? = some (.returned (.ok ranked)) →
      desk.callers[caller]? = some (.returned (.ok ranked))) :
    Unbounded origin keys successes after where
  capacity := capacity.trans unbounded.capacity
  since := unbounded.since.trans keeps
  slot_known := by
    intro slot key ranked here
    rcases slots slot key ranked here with before | known
    · exact keeps.known key ranked (unbounded.slot_known slot key ranked before)
    · exact known
  returned_known := by
    intro caller key ranked here keyHere
    exact keeps.known key ranked
      (unbounded.returned_known caller key ranked (callers caller ranked here) keyHere)
  success_known := by
    intro success member
    obtain ⟨ranked, known⟩ := unbounded.success_known success member
    exact ⟨ranked, keeps.known _ ranked known⟩
  success_once := unbounded.success_once

theorem Unbounded.addCaller (unbounded : Unbounded origin keys successes desk)
    (length : desk.callers.length = keys.length) {key : Key} {state : Caller α}
    (known : ∀ ranked, state = .returned (.ok ranked) → desk.Known key ranked) :
    Unbounded origin (keys ++ [key]) successes (desk.addCaller state) where
  capacity := unbounded.capacity
  since := unbounded.since.trans (.of_eq rfl rfl rfl)
  slot_known := unbounded.slot_known
  returned_known := by
    intro caller other ranked here keyHere
    rcases (getElem?_concat_iff ..).mp here with before | ⟨atEnd, same⟩
    · have inside := (List.getElem?_eq_some_iff.mp before).1
      rw [List.getElem?_append_left (by omega)] at keyHere
      exact unbounded.returned_known caller other ranked before keyHere
    · rw [atEnd, length, List.getElem?_concat_length] at keyHere
      cases keyHere
      exact known ranked same.symm
  success_known := unbounded.success_known
  success_once := unbounded.success_once

theorem Unbounded.setCaller (unbounded : Unbounded origin keys successes desk) {caller : Nat}
    {state : Caller α}
    (known : ∀ key ranked, state = .returned (.ok ranked) → keys[caller]? = some key →
      desk.Known key ranked) :
    Unbounded origin keys successes (desk.setCaller caller state) where
  capacity := unbounded.capacity
  since := unbounded.since.trans (.of_eq rfl rfl rfl)
  slot_known := unbounded.slot_known
  returned_known := by
    intro other key ranked here keyHere
    rcases (getElem?_set_iff ..).mp here with ⟨rfl, _, same⟩ | ⟨_, here⟩
    · exact known key ranked same.symm keyHere
    · exact unbounded.returned_known other key ranked here keyHere
  success_known := unbounded.success_known
  success_once := unbounded.success_once

theorem Unbounded.openSlot (unbounded : Unbounded origin keys successes desk) (key : Key) :
    Unbounded origin keys successes (desk.openSlot key) := by
  refine unbounded.next (.openSlot desk key) rfl ?_ (fun _ _ => id)
  intro slot other ranked here
  rcases (openSlot_slot ..).mp here with before | ⟨_, same⟩
  · exact .inl before
  · cases same

theorem Unbounded.finish (unbounded : Unbounded origin keys successes desk) (books : desk.Books)
    {place : Nat} {key : Key} (unsettled : desk.slots[place]? = some { key, outcome := none })
    (caller : Nat) (outcome : Outcome α) :
    Unbounded origin keys successes (desk.finish caller place outcome) := by
  refine unbounded.next (.finish caller outcome ⟨key, unsettled⟩) rfl ?_ ?_
  · intro slot other ranked here
    rcases (finish_slot ..).mp here with ⟨rfl, _, before, _⟩ | ⟨_, before⟩
    · rw [unsettled] at before
      cases before
      exact .inr (.inr ⟨slot, books.open_pending other slot unsettled, here⟩)
    · exact .inl before
  · intro other ranked here
    rcases (getElem?_set_iff ..).mp here with ⟨_, _, same⟩ | ⟨_, here⟩
    · cases same
    · exact here

theorem Unbounded.join (unbounded : Unbounded origin keys successes desk)
    (length : desk.callers.length = keys.length) (key : Key) (slot : Nat) :
    Unbounded origin (keys ++ [key]) successes (desk.join slot) := by
  obtain ⟨state, joins, same⟩ := join_cases desk slot
  rw [same]
  cases joins <;> exact unbounded.addCaller length (by simp)

theorem Unbounded.call (unbounded : Unbounded origin keys successes desk) (books : desk.Books)
    (length : desk.callers.length = keys.length) (key : Key) :
    Unbounded origin (keys ++ [key]) successes (desk.call key) := by
  rcases call_cases desk key with
    ⟨ranked, hit, same⟩ | ⟨_, slot, _, same⟩ | ⟨_, _, same⟩
  · rw [same]
    have used : Unbounded origin keys successes
        { desk with done := (key, ranked) :: forget key desk.done } :=
      unbounded.next (.hit books (mem_of_lookup hit)) rfl (fun _ _ _ => .inl) (fun _ _ => id)
    refine used.addCaller length ?_
    rintro _ ⟨⟩
    exact .inl List.mem_cons_self
  · rw [same]
    exact unbounded.join length key slot
  · rw [same]
    exact (unbounded.openSlot key).join length key _

theorem Unbounded.start (unbounded : Unbounded origin keys successes desk)
    (coherent : desk.Coherent) (search : String → Nat → Ranked α) (caller : Nat) :
    Unbounded origin keys successes (desk.start search caller) := by
  rcases start_cases search desk caller with
    same | ⟨slot, entry, here, _, ⟨_, same⟩ | ⟨_, same⟩⟩
  · rwa [same]
  · rw [same]
    obtain ⟨key, unsettled⟩ := coherent.seating.placed caller _ here
    exact unbounded.finish coherent.books unsettled caller _
  · rw [same]
    exact unbounded.setCaller (by simp)

theorem Unbounded.addSuccess (unbounded : Unbounded origin keys successes desk) {success : Success}
    {ranked : Ranked α} (known : desk.Known success.request.key ranked)
    (fresh : ∀ other ∈ successes, other.request.key ≠ success.request.key) :
    Unbounded origin keys (successes ++ [success]) desk where
  capacity := unbounded.capacity
  since := unbounded.since
  slot_known := unbounded.slot_known
  returned_known := unbounded.returned_known
  success_known := by
    intro other member
    rcases List.mem_append.mp member with before | last
    · exact unbounded.success_known other before
    · rw [List.mem_singleton.mp last]
      exact ⟨ranked, known⟩
  success_once := by
    intro key
    rw [List.countP_append]
    by_cases same : success.request.key = key
    · have none : successes.countP (·.request.key = key) = 0 := by
        rw [List.countP_eq_zero]
        intro other member
        simpa [same] using fresh other member
      simp [none, same]
    · simpa [same] using unbounded.success_once key

theorem Unbounded.fresh (unbounded : Unbounded origin keys successes desk) (books : desk.Books)
    {slot : Nat} {key : Key} (unsettled : desk.slots[slot]? = some { key, outcome := none }) :
    ∀ success ∈ successes, success.request.key ≠ key := by
  -- What has succeeded is known, and the slot of the request would have its outcome.
  rintro success member rfl
  obtain ⟨ranked, known⟩ := unbounded.success_known success member
  have settled := known.outcome books (books.open_pending _ slot unsettled)
  rw [unsettled] at settled
  cases settled

theorem success?_eq_none {caller : Nat} (answer : Except Failure (List String))
    (idle : ∀ slot found entry, desk.callers[caller]? = some (.asking slot found) →
      desk.slots[slot]? ≠ some entry) : desk.success? (.reply caller answer) = none := by
  unfold success?
  split
  next _ _ same =>
    cases same
    split
    next slot found asking =>
      have missing : desk.slots[slot]? = none :=
        Option.eq_none_iff_forall_ne_some.mpr fun entry => idle slot found entry asking
      simp [missing]
    next => rfl
  next => rfl

theorem Unbounded.reply (unbounded : Unbounded origin keys successes desk)
    (coherent : desk.Coherent) (caller : Nat) (answer : Except Failure (List String)) :
    Unbounded origin keys (successes ++ (desk.success? (.reply caller answer)).toList)
      (desk.reply caller answer) := by
  rcases reply_cases desk caller answer with
    ⟨same, idle⟩ | ⟨slot, found, entry, asking, here, same⟩
  · rw [same, success?_eq_none answer idle]
    simpa using unbounded
  · rw [same]
    obtain ⟨key, unsettled⟩ := coherent.seating.placed caller _ asking
    rw [here] at unsettled
    cases unsettled
    have finished := unbounded.finish coherent.books here caller
      (answer.map fun ids => select found ids key.limit)
    cases answer with
    | error _ => simpa [success?] using finished
    | ok ids =>
      rw [success?_reply asking here]
      have known : Known (desk.finish caller slot (.ok (select found ids key.limit))) key
          (select found ids key.limit) :=
        .inr ⟨slot, coherent.books.open_pending key slot here,
          (finish_slot ..).mpr (.inl ⟨rfl, none, here, rfl⟩)⟩
      exact finished.addSuccess known (unbounded.fresh coherent.books here)

theorem Unbounded.close (unbounded : Unbounded origin keys successes desk)
    (coherent : desk.Coherent) {slot : Nat} {key : Key} {outcome : Outcome α}
    (here : desk.slots[slot]? = some { key, outcome := some outcome }) :
    Unbounded origin keys successes (desk.close slot outcome) ∧
      Keeps desk (desk.close slot outcome) := by
  rcases close_cases desk slot outcome with ⟨same, _⟩ | ⟨entry, there, pending, same⟩
  · rw [same]
    exact ⟨unbounded, .refl desk⟩
  · rw [same]
    rw [here] at there
    cases there
    have keeps : Keeps desk (desk.closed key outcome) :=
      .closed coherent.books unbounded.capacity here (mem_of_lookup pending)
    exact ⟨unbounded.next keeps rfl (fun _ _ _ => .inl) (fun _ _ => id), keeps⟩

theorem Unbounded.settle (unbounded : Unbounded origin keys successes desk)
    (coherent : desk.Coherent) (recorded : Recorded search keys successes desk) (caller : Nat) :
    Unbounded origin keys successes (desk.settle caller) := by
  rcases settle_cases desk caller with same | ⟨slot, outcome, ready, same⟩
  · rwa [same]
  · rw [same]
    obtain ⟨key, here⟩ := outcomeAt_eq_some.mp (coherent.ready ready).1
    obtain ⟨closed, keeps⟩ := unbounded.close coherent here
    refine closed.setCaller ?_
    intro other ranked returned keyHere
    obtain ⟨state, there, slotThere, _⟩ := ready_state ready
    obtain ⟨_, atKey⟩ := recorded.caller_key caller slot state other there slotThere keyHere
    rw [here] at atKey
    cases atKey
    cases outcome with
    | error _ => cases returned
    | ok _ =>
      cases returned
      exact keeps.known key ranked (unbounded.slot_known slot key ranked here)

theorem Unbounded.drop (unbounded : Unbounded origin keys successes desk) (caller : Nat) :
    Unbounded origin keys successes (desk.drop caller) := by
  have dropped : Unbounded origin keys successes (desk.setCaller caller .dropped) :=
    unbounded.setCaller (by simp)
  rcases drop_cases desk caller with same | ⟨_, _, same⟩ | ⟨slot, _, _, _, same⟩
  · rwa [same]
  · rwa [same]
  · rw [same]
    rcases handOver_cases (desk.setCaller caller .dropped) slot with ⟨same, _⟩ | ⟨_, _, same⟩
    · rwa [same]
    · rw [same]
      exact dropped.setCaller (by simp)

theorem Unbounded.step (unbounded : Unbounded origin keys successes desk)
    (coherent : desk.Coherent) (recorded : Recorded search keys successes desk) (event : Event) :
    Unbounded origin (keys ++ event.key?.toList) (successes ++ (desk.success? event).toList)
      (desk.step search event) := by
  cases event with
  | call key =>
    simpa [success?, Event.key?, Desk.step] using
      unbounded.call coherent.books recorded.callers_length key
  | start caller =>
    simpa [success?, Event.key?, Desk.step] using unbounded.start coherent search caller
  | reply caller answer =>
    simpa [Event.key?, Desk.step] using unbounded.reply coherent caller answer
  | settle caller =>
    simpa [success?, Event.key?, Desk.step] using unbounded.settle coherent recorded caller
  | drop caller => simpa [success?, Event.key?, Desk.step] using unbounded.drop caller

theorem Unbounded.run (unbounded : Unbounded origin keys successes desk)
    (coherent : desk.Coherent) (recorded : Recorded search keys successes desk)
    (events : List Event) :
    Unbounded origin (keys ++ keysOf events) (successes ++ desk.successes search events)
      (desk.run search events) := by
  induction events generalizing desk keys successes with
  | nil => simpa [keysOf, Desk.successes, Desk.run] using unbounded
  | cons event events ih =>
    have rest := ih (unbounded.step coherent recorded event) (coherent.step search event)
      (recorded.step coherent event)
    rwa [List.append_assoc, List.append_assoc, ← keysOf_cons] at rest

theorem Unbounded.empty : Unbounded (Desk.empty none : Desk α) [] [] (Desk.empty none) := by
  refine ⟨rfl, .refl _, ?_, ?_, ?_, ?_⟩ <;> simp [Desk.empty]

theorem successes_append (search : String → Nat → Ranked α) (desk : Desk α)
    (events later : List Event) :
    desk.successes search (events ++ later) =
      desk.successes search events ++ (desk.run search events).successes search later := by
  induction events generalizing desk with
  | nil => rfl
  | cons event events ih => simp [Desk.successes, Desk.run, ih]

/-- Any interleaving of calls, replies, settlements and dropped callers: one request at most
succeeds for a key, its ranking is kept for ever, and all its callers get it. -/
theorem run_unbounded (search : String → Nat → Ranked α) (events later : List Event) (key : Key) :
    let start : Desk α := .empty none
    let before := start.run search events
    let after := start.run search (events ++ later)
    (start.successes search events).countP (·.request.key = key) ≤ 1 ∧
    (∀ ranked, before.done.lookup key = some ranked → after.done.lookup key = some ranked) ∧
    before.done.length ≤ after.done.length ∧
    (∀ first second left right,
      (keysOf events)[first]? = some key → before.outcomeOf first = some (.ok left) →
      (keysOf (events ++ later))[second]? = some key → after.outcomeOf second = some (.ok right) →
      left = right) ∧
    (∀ caller ranked,
      (keysOf events)[caller]? = some key → before.outcomeOf caller = some (.ok ranked) →
      Justified search (start.successes search events) key ranked) := by
  intro start before after
  have coherent : before.Coherent := (Coherent.empty none).run search events
  have recorded : Recorded search (keysOf events) (start.successes search events) before :=
    (Recorded.empty none).run (.empty none) events
  have unbounded : Unbounded start (keysOf events) (start.successes search events) before :=
    Unbounded.empty.run (.empty none) (.empty none) events
  have afterCoherent : after.Coherent := (Coherent.empty none).run search (events ++ later)
  have kept : Unbounded before (keysOf (events ++ later))
      (start.successes search (events ++ later)) after := by
    have here : Unbounded before (keysOf events) (start.successes search events) before :=
      { unbounded with since := .refl before }
    have later := here.run coherent recorded later
    rwa [← run_append, ← successes_append, ← keysOf_append] at later
  refine ⟨unbounded.success_once key, ?_, kept.since.done_length, ?_, ?_⟩
  · intro ranked found
    have stays := kept.since.done key ranked (mem_of_lookup found)
    exact afterCoherent.books.done_distinct.lookup stays
  · intro first second left right firstKey firstOk secondKey secondOk
    have leftKnown : after.Known key left := kept.since.known key left
      (unbounded.returned_known first key left (outcomeOf_eq_some.mp firstOk) firstKey)
    have rightKnown : after.Known key right :=
      kept.returned_known second key right (outcomeOf_eq_some.mp secondOk) secondKey
    exact leftKnown.unique afterCoherent.books rightKnown
  · intro caller ranked callerKey callerOk
    rcases unbounded.returned_known caller key ranked (outcomeOf_eq_some.mp callerOk) callerKey with
      kept | ⟨slot, _, settled⟩
    · exact recorded.done_justified key ranked kept
    · exact recorded.slot_justified slot key ranked settled

end SymbolSearch.Ranking.Desk
