import Mathlib.Data.List.Dedup
import SymbolSearch.Proofs.Ranking.Steps

set_option autoImplicit false

namespace SymbolSearch.Ranking

variable {α : Type}

-- The keys that were used last, each once, the last one first.
def recentKeys (count : Nat) (used : List Key) : List Key :=
  used.dedup.reverse.take count

theorem dedup_concat (used : List Key) (key : Key) :
    (used ++ [key]).dedup = used.dedup.filter (· ≠ key) ++ [key] := by
  induction used with
  | nil => simp
  | cons first used ih =>
    by_cases again : first ∈ used
    · rw [List.cons_append, List.dedup_cons_of_mem (by simp [again]), ih,
        List.dedup_cons_of_mem again]
    · by_cases same : first = key
      · subst same
        rw [List.cons_append, List.dedup_cons_of_mem (by simp), ih,
          List.dedup_cons_of_notMem again]
        simp
      · rw [List.cons_append, List.dedup_cons_of_notMem (by simp [again, same]), ih,
          List.dedup_cons_of_notMem again]
        simp [same]

theorem take_filter_ne {keys : List Key} (distinct : keys.Nodup) (key : Key) (count : Nat) :
    (keys.filter (· ≠ key)).take count =
      ((keys.take (count + 1)).filter (· ≠ key)).take count := by
  induction keys generalizing count with
  | nil => simp
  | cons first keys ih =>
    obtain ⟨absent, distinct⟩ := List.nodup_cons.mp distinct
    by_cases same : first = key
    · subst same
      have others {some : List Key} (part : some ⊆ keys) : some.filter (· ≠ first) = some := by
        apply List.filter_eq_self.mpr
        intro other member
        simpa using ne_of_mem_of_not_mem (part member) absent
      simp only [List.take_succ_cons, ne_eq, not_true_eq_false, decide_false, Bool.false_eq_true,
        not_false_eq_true, List.filter_cons_of_neg]
      rw [others (List.Subset.refl keys), others (List.take_subset count keys), List.take_take,
        Nat.min_self]
    · cases count with
      | zero => simp
      | succ count => simpa [same] using ih distinct count

theorem recentKeys_concat (count : Nat) (used : List Key) (key : Key) :
    recentKeys count (used ++ [key]) =
      (key :: (recentKeys count used).filter (· ≠ key)).take count := by
  cases count with
  | zero => simp [recentKeys]
  | succ count =>
    simp only [recentKeys, dedup_concat, List.reverse_append, List.reverse_singleton,
      List.singleton_append, List.take_succ_cons, ← List.filter_reverse]
    rw [take_filter_ne (List.nodup_reverse.mpr used.nodup_dedup)]

theorem recentKeys_again {count : Nat} {used : List Key} {key : Key}
    (recent : key ∈ recentKeys count used) :
    recentKeys count (used ++ [key]) = key :: (recentKeys count used).filter (· ≠ key) := by
  rw [recentKeys_concat]
  apply List.take_of_length_le
  have fewer : ((recentKeys count used).filter (· ≠ key)).length < (recentKeys count used).length :=
    List.length_filter_lt_length_iff_exists.mpr ⟨key, recent, by simp⟩
  have bounded : (recentKeys count used).length ≤ count := List.length_take_le ..
  rw [List.length_cons]
  omega

-- The reply is the one that the request would get, should the call make one.
structure Inquiry where
  key : Key
  answer : Request → Except Failure (List String)

def Inquiry.fetched (search : String → Nat → Ranked α) (inquiry : Inquiry) : Outcome α :=
  match Desk.candidates search inquiry.key with
  | [] => .ok []
  | found =>
    (inquiry.answer (Desk.requestOf inquiry.key found)).map fun ids =>
      select found ids inquiry.key.limit

def Caller.hasRanking : Caller α → Bool
  | .returned (.ok _) => true
  | _ => false

namespace Desk

variable {search : String → Nat → Ranked α} {desk : Desk α} {capacity : Nat}

theorem ask_kept {key : Key} {ranked : Ranked α} (kept : desk.done.lookup key = some ranked)
    (answer : Request → Except Failure (List String)) :
    desk.ask search key answer = desk.call key := by
  have returned :
      (desk.call key).callers[desk.callers.length]? = some (.returned (.ok ranked)) := by
    simp [call, kept, addCaller]
  simp [ask, run, step, Desk.start, reply, settle, ready?, returned]

structure Idle (desk : Desk α) : Prop where
  pending : desk.pending = []
  returned : ∀ caller ∈ desk.callers, ∃ outcome, caller = .returned outcome

theorem Idle.not_held (idle : desk.Idle) (slot : Nat) : desk.isHeld slot = false := by
  apply List.any_eq_false.mpr
  intro caller member
  obtain ⟨outcome, rfl⟩ := idle.returned caller member
  simp [Caller.holds]

-- Behind a call for a key that is not kept, when its request is over.
def withAnswer (desk : Desk α) (key : Key) (outcome : Outcome α) : Desk α :=
  { desk with
    pending := [(key, desk.slots.length)]
    slots := desk.slots ++ [{ key, outcome := some outcome }]
    callers := desk.callers ++ [.answered desk.slots.length outcome] }

theorem Idle.call_missing (idle : desk.Idle) {key : Key} (missing : desk.done.lookup key = none) :
    desk.call key = (desk.openSlot key).addCaller (.chosen desk.slots.length) := by
  have free : (desk.openSlot key).isHeld desk.slots.length = false := idle.not_held _
  have unsettled : (desk.openSlot key).outcomeAt desk.slots.length = none := by
    simp [outcomeAt, openSlot]
  simp [call, missing, idle.pending, join, unsettled, free]

theorem Idle.answered (idle : desk.Idle) {inquiry : Inquiry}
    (missing : desk.done.lookup inquiry.key = none) :
    desk.run search
        [.call inquiry.key, .start desk.callers.length, .reply desk.callers.length
          (inquiry.answer (requestOf inquiry.key (candidates search inquiry.key)))] =
      desk.withAnswer inquiry.key (inquiry.fetched search) := by
  have called := idle.call_missing missing
  simp only [run, List.foldl_cons, List.foldl_nil, step, called]
  cases found : candidates search inquiry.key with
  | nil =>
    simp [Desk.start, reply, finish, addCaller, openSlot, idle.pending, found, withAnswer,
      Inquiry.fetched, List.modify_eq_set_getElem?]
  | cons first others =>
    simp [Desk.start, reply, finish, setCaller, addCaller, openSlot, idle.pending, found,
      withAnswer, Inquiry.fetched, List.modify_eq_set_getElem?]

theorem Idle.ask_missing (idle : desk.Idle) {inquiry : Inquiry}
    (missing : desk.done.lookup inquiry.key = none) :
    let outcome := inquiry.fetched search
    desk.ask search inquiry.key inquiry.answer =
      { desk with
        done := (desk.closed inquiry.key outcome).done
        slots := desk.slots ++ [{ key := inquiry.key, outcome := some outcome }]
        callers := desk.callers ++ [.returned (share outcome)] } := by
  intro outcome
  -- The last of the four steps settles the outcome that the first three lead to.
  have asked : desk.ask search inquiry.key inquiry.answer =
      (desk.withAnswer inquiry.key outcome).settle desk.callers.length := by
    rw [← idle.answered missing]
    rfl
  clear_value outcome
  have ready : (desk.withAnswer inquiry.key outcome).ready? desk.callers.length =
      some (desk.slots.length, outcome) := by
    simp [ready?, withAnswer]
  have closes : (desk.withAnswer inquiry.key outcome).close desk.slots.length outcome =
      (desk.withAnswer inquiry.key outcome).closed inquiry.key outcome := by
    cases outcome <;> simp [close, closed, withAnswer]
  rw [asked, settle, ready]
  simp only [closes]
  cases outcome <;> simp [closed, withAnswer, setCaller, forget, idle.pending, keep]

-- Given the keys of all calls, those of the calls that were answered with a ranking.
def rankedKeys (desk : Desk α) (keys : List Key) : List Key :=
  ((keys.zip desk.callers).filter fun call => call.2.hasRanking).map Prod.fst

theorem rankedKeys_concat {after : Desk α} {keys : List Key} {caller : Caller α}
    (callers : after.callers = desk.callers ++ [caller])
    (length : keys.length = desk.callers.length) (key : Key) :
    after.rankedKeys (keys ++ [key]) =
      desk.rankedKeys keys ++ if caller.hasRanking then [key] else [] := by
  rw [rankedKeys, callers, List.zip_append length, List.filter_append, List.map_append, rankedKeys]
  cases ranking : caller.hasRanking <;> simp [ranking]

def serve (search : String → Nat → Ranked α) (capacity : Nat) (inquiries : List Inquiry) : Desk α :=
  inquiries.foldl (fun desk inquiry => desk.ask search inquiry.key inquiry.answer)
    (empty (some capacity))

structure Served (capacity : Nat) (keys : List Key) (desk : Desk α) : Prop where
  idle : desk.Idle
  capacity_eq : desk.capacity = some capacity
  callers_length : desk.callers.length = keys.length
  done_keys : desk.done.map Prod.fst = recentKeys capacity (desk.rankedKeys keys)

theorem map_forget (key : Key) (entries : List (Key × Ranked α)) :
    (forget key entries).map Prod.fst = (entries.map Prod.fst).filter (· ≠ key) := by
  rw [List.filter_map]
  rfl

theorem lookup_isSome (entries : List (Key × Ranked α)) (key : Key) :
    (∃ ranked, entries.lookup key = some ranked) ↔ key ∈ entries.map Prod.fst := by
  rw [← Option.ne_none_iff_exists', Ne, lookup_eq_none]
  simp

theorem Served.ask {keys : List Key} (served : desk.Served capacity keys) (inquiry : Inquiry) :
    (desk.ask search inquiry.key inquiry.answer).Served capacity (keys ++ [inquiry.key]) := by
  obtain ⟨idle, bounded, length, done⟩ := served
  -- A hit and a ranking that arrives both put the key in front; a failure leaves all as it was.
  cases found : desk.done.lookup inquiry.key with
  | some ranked =>
    have recent : inquiry.key ∈ recentKeys capacity (desk.rankedKeys keys) := by
      rw [← done]
      exact (lookup_isSome _ _).mp ⟨ranked, found⟩
    rw [ask_kept found]
    have callers : (desk.call inquiry.key).callers =
        desk.callers ++ [.returned (.ok ranked)] := by
      simp [call, found, addCaller]
    constructor
    · exact ⟨by simp [call, found, addCaller, idle.pending], by
        rw [callers]
        simpa [or_imp, forall_and] using idle.returned⟩
    · simp [call, found, addCaller, bounded]
    · simp [callers, length]
    · rw [rankedKeys_concat callers length.symm]
      simp only [Caller.hasRanking, if_true, recentKeys_again recent, ← done, ← map_forget]
      simp [call, found, addCaller]
  | none =>
    rw [idle.ask_missing found]
    generalize inquiry.fetched search = outcome
    refine ⟨⟨idle.pending, ?_⟩, bounded, by simp [length], ?_⟩
    · simpa [or_imp, forall_and] using idle.returned
    · rw [rankedKeys_concat rfl length.symm]
      cases outcome with
      | error failure => simpa [share, Caller.hasRanking, closed] using done
      | ok ranked =>
        simp only [share, Caller.hasRanking, if_true, recentKeys_concat, ← done, ← map_forget]
        simp [closed, keep, bounded, List.map_take]

theorem Served.serve (search : String → Nat → Ranked α) (capacity : Nat)
    (inquiries : List Inquiry) :
    (Desk.serve search capacity inquiries).Served capacity (inquiries.map (·.key)) := by
  have served {desk : Desk α} {keys : List Key} (before : desk.Served capacity keys) :
      (inquiries.foldl (fun desk inquiry => desk.ask search inquiry.key inquiry.answer)
        desk).Served capacity (keys ++ inquiries.map (·.key)) := by
    induction inquiries generalizing desk keys with
    | nil => simpa using before
    | cons inquiry inquiries ih => simpa using ih (before.ask inquiry)
  have start : (empty (some capacity) : Desk α).Served capacity [] :=
    ⟨⟨rfl, by simp [empty]⟩, rfl, rfl, by simp [empty, rankedKeys, recentKeys]⟩
  exact served start

/-- Calls that come one after the other all return, and the next one is answered at once, without
a request, exactly if its key is among those of the last `capacity` different keys that were
answered with a ranking. Otherwise its request is made. A failure leaves what is kept as it was. -/
theorem kept_iff_recent (search : String → Nat → Ranked α) (capacity : Nat)
    (inquiries : List Inquiry) (next : Inquiry) :
    let desk := serve search capacity inquiries
    let recent := recentKeys capacity (desk.rankedKeys (inquiries.map (·.key)))
    let after := desk.ask search next.key next.answer
    (∀ caller < inquiries.length, ∃ outcome, desk.outcomeOf caller = some outcome) ∧
    ((∃ ranked, (desk.call next.key).outcomeOf inquiries.length = some (.ok ranked)) ↔
      next.key ∈ recent) ∧
    (next.key ∈ recent → after = desk.call next.key ∧ after.slots = desk.slots) ∧
    (next.key ∉ recent →
      after.slots = desk.slots ++ [{ key := next.key, outcome := some (next.fetched search) }] ∧
      (∀ ranked, next.fetched search = .ok ranked →
        after.outcomeOf inquiries.length = some (.ok ranked)) ∧
      (∀ failure, next.fetched search = .error failure →
        after.outcomeOf inquiries.length = some (.error (.shared failure)))) ∧
    (∀ failure, after.outcomeOf inquiries.length = some (.error failure) →
      after.done = desk.done) := by
  intro desk recent after
  obtain ⟨idle, _, length, done⟩ : desk.Served capacity (inquiries.map (·.key)) :=
    .serve search capacity inquiries
  rw [List.length_map] at length
  have isKept : (∃ ranked, desk.done.lookup next.key = some ranked) ↔ next.key ∈ recent := by
    rw [lookup_isSome, done]
  have returned : ∀ caller < inquiries.length, ∃ outcome, desk.outcomeOf caller = some outcome := by
    intro caller inside
    rw [← length] at inside
    obtain ⟨outcome, returned⟩ := idle.returned _ (List.getElem_mem inside)
    exact ⟨outcome, by simp [outcomeOf, List.getElem?_eq_getElem inside, returned]⟩
  refine ⟨returned, ?_⟩
  cases found : desk.done.lookup next.key with
  | some ranked =>
    have recently : next.key ∈ recent := isKept.mp ⟨ranked, found⟩
    have hit : (desk.call next.key).outcomeOf inquiries.length = some (.ok ranked) := by
      simp [call, found, addCaller, outcomeOf, ← length]
    have asked : after = desk.call next.key := ask_kept found next.answer
    refine ⟨by simp [hit, recently], ?_, fun missed => absurd recently missed, ?_⟩
    · intro _
      exact ⟨asked, by simp [asked, call, found, addCaller]⟩
    · intro failure failed
      rw [asked, hit] at failed
      cases failed
  | none =>
    have missed : next.key ∉ recent := by simp [← isKept, found]
    have waits : (desk.call next.key).outcomeOf inquiries.length = none := by
      simp [idle.call_missing found, addCaller, openSlot, outcomeOf, ← length]
    have asked : after = _ := idle.ask_missing found
    have answered : after.outcomeOf inquiries.length = some (share (next.fetched search)) := by
      simp [asked, outcomeOf, ← length]
    refine ⟨by simp [waits, missed], fun recently => absurd recently missed, ?_, ?_⟩
    · intro _
      refine ⟨by simp [asked], fun ranked fetched => ?_, fun failure fetched => ?_⟩
      · rw [answered, fetched, share]
      · rw [answered, fetched, share]
    · intro failure failed
      rw [answered] at failed
      rw [asked]
      cases outcome : next.fetched search with
      | error _ => rfl
      | ok ranked =>
        rw [outcome] at failed
        cases failed

end Desk

end SymbolSearch.Ranking
