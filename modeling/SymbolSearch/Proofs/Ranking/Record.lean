import SymbolSearch.Proofs.Ranking.Coherence

set_option autoImplicit false

namespace SymbolSearch.Ranking

variable {α : Type}

def Caller.slot? : Caller α → Option Nat
  | waiting slot => some slot
  | chosen slot => some slot
  | asking slot _ => some slot
  | answered slot _ => some slot
  | returned _ => none
  | dropped => none

def Request.key (request : Request) : Key :=
  { query := request.query, limit := request.limit }

namespace Desk

def Event.key? : Event → Option Key
  | .call key => some key
  | _ => none

def keysOf (events : List Event) : List Key :=
  events.filterMap Event.key?

structure Success where
  request : Request
  ids : List String
deriving DecidableEq, Repr

def success? (desk : Desk α) : Event → Option Success
  | .reply caller (.ok ids) =>
    match desk.callers[caller]? with
    | some (.asking slot found) =>
      desk.slots[slot]?.map fun entry => { request := requestOf entry.key found, ids }
    | _ => none
  | _ => none

def successes (search : String → Nat → Ranked α) (desk : Desk α) : List Event → List Success
  | [] => []
  | event :: events =>
    (desk.success? event).toList ++ (desk.step search event).successes search events

-- The ranking is empty for want of candidates, or is what the service chose from the candidates of
-- this key, asked for this query and limit.
def Justified (search : String → Nat → Ranked α) (successes : List Success) (key : Key)
    (ranked : Ranked α) : Prop :=
  let found := search key.query (min (3 * key.limit) (Nat.pow 2 64 - 1))
  ((key.limit = 0 ∨ found = []) ∧ ranked = []) ∨
    ∃ ids,
      { request :=
          { query := key.query
            limit := key.limit
            candidates := found.map fun result => .ofElement result.element },
        ids } ∈ successes ∧
      ranked = select found ids key.limit

structure Recorded (search : String → Nat → Ranked α) (keys : List Key) (successes : List Success)
    (desk : Desk α) : Prop where
  callers_length : desk.callers.length = keys.length
  caller_key : ∀ (caller slot : Nat) (state : Caller α) (key : Key),
    desk.callers[caller]? = some state → state.slot? = some slot → keys[caller]? = some key →
    ∃ outcome, desk.slots[slot]? = some { key, outcome }
  asking_candidates : ∀ (caller slot : Nat) (found : Ranked α) (entry : Slot α),
    desk.callers[caller]? = some (.asking slot found) → desk.slots[slot]? = some entry →
    found = candidates search entry.key ∧ found ≠ []
  slot_justified : ∀ (slot : Nat) (key : Key) (ranked : Ranked α),
    desk.slots[slot]? = some { key, outcome := some (.ok ranked) } →
    Justified search successes key ranked
  done_justified : ∀ key ranked, (key, ranked) ∈ desk.done →
    Justified search successes key ranked

variable {search : String → Nat → Ranked α} {keys : List Key} {successes more : List Success}
  {desk : Desk α}

theorem Justified.mono {key : Key} {ranked : Ranked α}
    (justified : Justified search successes key ranked) :
    Justified search (successes ++ more) key ranked := by
  rcases justified with empty | ⟨ids, member, same⟩
  · exact .inl empty
  · exact .inr ⟨ids, List.mem_append_left _ member, same⟩

theorem candidates_eq_nil {key : Key} (none : candidates search key = []) :
    key.limit = 0 ∨ search key.query (min (3 * key.limit) (Nat.pow 2 64 - 1)) = [] := by
  unfold candidates at none
  split at none
  next zero => exact .inl zero
  next => exact .inr none

theorem candidates_eq_search {key : Key} (some : candidates search key ≠ []) :
    candidates search key = search key.query (min (3 * key.limit) (Nat.pow 2 64 - 1)) := by
  unfold candidates at some ⊢
  split
  next zero => simp [zero] at some
  next => rfl

theorem ready_state {caller slot : Nat} {outcome : Outcome α}
    (ready : desk.ready? caller = some (slot, outcome)) :
    ∃ state, desk.callers[caller]? = some state ∧ state.slot? = some slot ∧
      ∀ place, state.holds place = false := by
  rcases ready_cases ready with here | ⟨here, _⟩
  · exact ⟨_, here, rfl, by simp [Caller.holds]⟩
  · exact ⟨_, here, rfl, by simp [Caller.holds]⟩

theorem Recorded.empty (capacity : Option Nat) :
    Recorded search [] [] (Desk.empty capacity : Desk α) := by
  constructor <;> simp [Desk.empty]

theorem Recorded.addCaller (recorded : Recorded search keys successes desk) {key : Key}
    {state : Caller α}
    (atKey : ∀ slot, state.slot? = some slot → ∃ outcome, desk.slots[slot]? = some { key, outcome })
    (notAsking : ∀ slot found, state ≠ .asking slot found) :
    Recorded search (keys ++ [key]) successes (desk.addCaller state) where
  callers_length := by simp [Desk.addCaller, recorded.callers_length]
  caller_key := by
    intro caller slot other found here slotHere keyHere
    have length := recorded.callers_length
    rcases (getElem?_concat_iff ..).mp here with before | ⟨atEnd, rfl⟩
    · have inside := (List.getElem?_eq_some_iff.mp before).1
      rw [List.getElem?_append_left (by omega)] at keyHere
      exact recorded.caller_key caller slot other found before slotHere keyHere
    · rw [atEnd, length, List.getElem?_concat_length] at keyHere
      cases keyHere
      exact atKey slot slotHere
  asking_candidates := by
    intro caller slot found entry here
    rcases (getElem?_concat_iff ..).mp here with before | ⟨_, same⟩
    · exact recorded.asking_candidates caller slot found entry before
    · exact absurd same.symm (notAsking slot found)
  slot_justified := recorded.slot_justified
  done_justified := recorded.done_justified

theorem Recorded.hit (recorded : Recorded search keys successes desk) {key : Key}
    {ranked : Ranked α} (present : (key, ranked) ∈ desk.done) :
    Recorded search keys successes { desk with done := (key, ranked) :: forget key desk.done } where
  callers_length := recorded.callers_length
  caller_key := recorded.caller_key
  asking_candidates := recorded.asking_candidates
  slot_justified := recorded.slot_justified
  done_justified := by
    intro other value kept
    rcases List.mem_cons.mp kept with same | kept
    · cases same
      exact recorded.done_justified key ranked present
    · exact recorded.done_justified other value ((mem_forget _).mp kept).1

theorem Recorded.openSlot (recorded : Recorded search keys successes desk)
    (seating : desk.Seating) (key : Key) :
    Recorded search keys successes (desk.openSlot key) where
  callers_length := recorded.callers_length
  caller_key := by
    intro caller slot state found here slotHere keyHere
    obtain ⟨outcome, there⟩ := recorded.caller_key caller slot state found here slotHere keyHere
    exact ⟨outcome, (openSlot_slot ..).mpr (.inl there)⟩
  asking_candidates := by
    intro caller slot found entry here there
    obtain ⟨other, unsettled⟩ := seating.placed caller _ here
    have same := (openSlot_slot desk key slot _).mpr (.inl unsettled)
    rw [there] at same
    cases same
    exact recorded.asking_candidates caller slot found _ here unsettled
  slot_justified := by
    intro slot other ranked here
    rcases (openSlot_slot ..).mp here with before | ⟨_, same⟩
    · exact recorded.slot_justified slot other ranked before
    · cases same
  done_justified := recorded.done_justified

theorem Recorded.setCaller (recorded : Recorded search keys successes desk) {caller : Nat}
    {before state : Caller α} (here : desk.callers[caller]? = some before)
    (sameSlot : ∀ slot, state.slot? = some slot → before.slot? = some slot)
    (asks : ∀ slot found entry, state = .asking slot found → desk.slots[slot]? = some entry →
      found = candidates search entry.key ∧ found ≠ []) :
    Recorded search keys successes (desk.setCaller caller state) where
  callers_length := by simp [Desk.setCaller, recorded.callers_length]
  caller_key := by
    intro other slot found key there slotThere keyThere
    rcases (getElem?_set_iff ..).mp there with ⟨rfl, _, rfl⟩ | ⟨_, there⟩
    · exact recorded.caller_key other slot before key here (sameSlot slot slotThere) keyThere
    · exact recorded.caller_key other slot found key there slotThere keyThere
  asking_candidates := by
    intro other slot found entry there
    rcases (getElem?_set_iff ..).mp there with ⟨_, _, same⟩ | ⟨_, there⟩
    · exact asks slot found entry same.symm
    · exact recorded.asking_candidates other slot found entry there
  slot_justified := recorded.slot_justified
  done_justified := recorded.done_justified

theorem Recorded.finish (recorded : Recorded search keys successes desk) {caller place : Nat}
    {before : Caller α} {entry : Slot α} {outcome : Outcome α}
    (here : desk.callers[caller]? = some before) (slotHere : before.slot? = some place)
    (there : desk.slots[place]? = some entry)
    (justified : ∀ ranked, outcome = .ok ranked →
      Justified search (successes ++ more) entry.key ranked) :
    Recorded search keys (successes ++ more) (desk.finish caller place outcome) where
  callers_length := by simp [Desk.finish, recorded.callers_length]
  caller_key := by
    intro other slot state key found slotFound keyFound
    obtain ⟨known, atSlot⟩ : ∃ known, desk.slots[slot]? = some { key, outcome := known } := by
      rcases (getElem?_set_iff ..).mp found with ⟨rfl, _, rfl⟩ | ⟨_, found⟩
      · cases slotFound
        exact recorded.caller_key other place before key here slotHere keyFound
      · exact recorded.caller_key other slot state key found slotFound keyFound
    by_cases same : slot = place
    · exact ⟨some outcome, (finish_slot ..).mpr (.inl ⟨same, known, atSlot, rfl⟩)⟩
    · exact ⟨known, (finish_slot ..).mpr (.inr ⟨same, atSlot⟩)⟩
  asking_candidates := by
    intro other slot found known asking atSlot
    rcases (getElem?_set_iff ..).mp asking with ⟨_, _, same⟩ | ⟨_, asking⟩
    · cases same
    rcases (finish_slot ..).mp atSlot with ⟨_, settled, before, _⟩ | ⟨_, before⟩
    · have asked := recorded.asking_candidates other slot found _ asking before
      exact asked
    · exact recorded.asking_candidates other slot found known asking before
  slot_justified := by
    intro slot key ranked atSlot
    rcases (finish_slot ..).mp atSlot with ⟨rfl, _, before, same⟩ | ⟨_, before⟩
    · rw [there] at before
      cases before
      exact justified ranked (Option.some.inj same).symm
    · exact (recorded.slot_justified slot key ranked before).mono
  done_justified := fun key ranked kept => (recorded.done_justified key ranked kept).mono

theorem Recorded.closed (recorded : Recorded search keys successes desk) {key : Key}
    {outcome : Outcome α}
    (justified : ∀ ranked, outcome = .ok ranked → Justified search successes key ranked) :
    Recorded search keys successes (desk.closed key outcome) where
  callers_length := recorded.callers_length
  caller_key := recorded.caller_key
  asking_candidates := recorded.asking_candidates
  slot_justified := recorded.slot_justified
  done_justified := by
    intro other value kept
    cases outcome with
    | ok ranked =>
      rcases mem_keep kept with ⟨rfl, rfl⟩ | ⟨kept, _⟩
      · exact justified value rfl
      · exact recorded.done_justified other value kept
    | error _ => exact recorded.done_justified other value kept

theorem Recorded.mono (recorded : Recorded search keys successes desk) :
    Recorded search keys (successes ++ more) desk where
  callers_length := recorded.callers_length
  caller_key := recorded.caller_key
  asking_candidates := recorded.asking_candidates
  slot_justified := fun slot key ranked here => (recorded.slot_justified slot key ranked here).mono
  done_justified := fun key ranked kept => (recorded.done_justified key ranked kept).mono

theorem Recorded.join (recorded : Recorded search keys successes desk) {key : Key} {slot : Nat}
    {outcome : Option (Outcome α)} (here : desk.slots[slot]? = some { key, outcome }) :
    Recorded search (keys ++ [key]) successes (desk.join slot) := by
  obtain ⟨state, joins, same⟩ := join_cases desk slot
  rw [same]
  cases joins <;> refine recorded.addCaller ?_ (by simp) <;> rintro _ ⟨⟩ <;> exact ⟨outcome, here⟩

theorem Recorded.call (recorded : Recorded search keys successes desk) (coherent : desk.Coherent)
    (key : Key) : Recorded search (keys ++ [key]) successes (desk.call key) := by
  rcases call_cases desk key with
    ⟨ranked, hit, same⟩ | ⟨_, slot, pending, same⟩ | ⟨_, _, same⟩
  · rw [same]
    exact (recorded.hit (mem_of_lookup hit)).addCaller (by simp [Caller.slot?]) (by simp)
  · rw [same]
    obtain ⟨outcome, here⟩ := coherent.books.pending_slot key slot (mem_of_lookup pending)
    exact recorded.join here
  · rw [same]
    exact (recorded.openSlot coherent.seating key).join ((openSlot_slot ..).mpr (.inr ⟨rfl, rfl⟩))

theorem Recorded.start (recorded : Recorded search keys successes desk) (caller : Nat) :
    Recorded search keys successes (desk.start search caller) := by
  rcases start_cases search desk caller with
    same | ⟨slot, entry, here, there, ⟨none, same⟩ | ⟨some, same⟩⟩
  · rwa [same]
  · rw [same]
    have empty (ranked : Ranked α) (nothing : Except.ok [] = (Except.ok ranked : Outcome α)) :
        Justified search (successes ++ []) entry.key ranked := by
      cases nothing
      exact .inl ⟨candidates_eq_nil none, rfl⟩
    have finished := recorded.finish here rfl there empty
    rwa [List.append_nil] at finished
  · rw [same]
    refine recorded.setCaller here (fun _ => id) ?_
    rintro other found entry' ⟨⟩ there'
    rw [there] at there'
    cases there'
    exact ⟨rfl, some⟩

theorem success?_reply {caller slot : Nat} {found : Ranked α} {entry : Slot α} {ids : List String}
    (asking : desk.callers[caller]? = some (.asking slot found))
    (there : desk.slots[slot]? = some entry) :
    desk.success? (.reply caller (.ok ids)) =
      some { request := requestOf entry.key found, ids } := by
  simp [success?, asking, there]

theorem Recorded.reply (recorded : Recorded search keys successes desk) (caller : Nat)
    (answer : Except Failure (List String)) :
    Recorded search keys (successes ++ (desk.success? (.reply caller answer)).toList)
      (desk.reply caller answer) := by
  rcases reply_cases desk caller answer with ⟨same, _⟩ | ⟨slot, found, entry, asking, there, same⟩
  · rw [same]
    exact recorded.mono
  · rw [same]
    refine recorded.finish asking rfl there ?_
    intro ranked answered
    obtain ⟨rfl, some⟩ := recorded.asking_candidates caller slot found entry asking there
    cases answer with
    | error _ => cases answered
    | ok ids =>
      cases answered
      rw [success?_reply asking there, candidates_eq_search some]
      exact .inr ⟨ids, List.mem_append_right _ (List.mem_singleton.mpr rfl), rfl⟩

theorem Recorded.settle (recorded : Recorded search keys successes desk)
    (coherent : desk.Coherent) (caller : Nat) :
    Recorded search keys successes (desk.settle caller) := by
  rcases settle_cases desk caller with same | ⟨slot, outcome, ready, same⟩
  · rwa [same]
  · rw [same]
    obtain ⟨settled, state, here, _⟩ := coherent.ready ready
    rw [← close_callers desk slot outcome] at here
    have closed : Recorded search keys successes (desk.close slot outcome) := by
      rcases close_cases desk slot outcome with ⟨same, _⟩ | ⟨entry, there, _, same⟩
      · rwa [same]
      · rw [same]
        refine recorded.closed ?_
        rintro ranked rfl
        obtain ⟨key, there'⟩ := outcomeAt_eq_some.mp settled
        rw [there] at there'
        cases there'
        exact recorded.slot_justified slot key ranked there
    exact closed.setCaller here (by simp [Caller.slot?]) (by simp)

theorem Recorded.drop (recorded : Recorded search keys successes desk) (caller : Nat) :
    Recorded search keys successes (desk.drop caller) := by
  rcases drop_cases desk caller with
    same | ⟨slot, here, same⟩ | ⟨slot, state, here, _, same⟩
  · rwa [same]
  · rw [same]
    exact recorded.setCaller here (by simp [Caller.slot?]) (by simp)
  · rw [same]
    have dropped : Recorded search keys successes (desk.setCaller caller .dropped) :=
      recorded.setCaller here (by simp [Caller.slot?]) (by simp)
    rcases handOver_cases (desk.setCaller caller .dropped) slot with
      ⟨same, _⟩ | ⟨next, waits, same⟩
    · rwa [same]
    · rw [same]
      exact dropped.setCaller waits (fun _ => id) (by simp)

theorem Recorded.step (recorded : Recorded search keys successes desk) (coherent : desk.Coherent)
    (event : Event) :
    Recorded search (keys ++ event.key?.toList) (successes ++ (desk.success? event).toList)
      (desk.step search event) := by
  cases event with
  | call key => simpa [success?, Event.key?, Desk.step] using recorded.call coherent key
  | start caller => simpa [success?, Event.key?, Desk.step] using recorded.start caller
  | reply caller answer => simpa [Event.key?, Desk.step] using recorded.reply caller answer
  | settle caller => simpa [success?, Event.key?, Desk.step] using recorded.settle coherent caller
  | drop caller => simpa [success?, Event.key?, Desk.step] using recorded.drop caller

theorem keysOf_cons (event : Event) (events : List Event) :
    keysOf (event :: events) = event.key?.toList ++ keysOf events := by
  cases here : event.key? <;> simp [keysOf, here]

theorem run_append (search : String → Nat → Ranked α) (desk : Desk α) (events later : List Event) :
    desk.run search (events ++ later) = (desk.run search events).run search later := by
  simp [Desk.run]

theorem keysOf_append (events later : List Event) :
    keysOf (events ++ later) = keysOf events ++ keysOf later :=
  List.filterMap_append

theorem Recorded.run (recorded : Recorded search keys successes desk) (coherent : desk.Coherent)
    (events : List Event) :
    Recorded search (keys ++ keysOf events) (successes ++ desk.successes search events)
      (desk.run search events) := by
  induction events generalizing desk keys successes with
  | nil => simpa [keysOf, Desk.successes, Desk.run] using recorded
  | cons event events ih =>
    have rest := ih (recorded.step coherent event) (coherent.step search event)
    rwa [List.append_assoc, List.append_assoc, ← keysOf_cons] at rest

end Desk

end SymbolSearch.Ranking
