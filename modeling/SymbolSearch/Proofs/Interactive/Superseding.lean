import SymbolSearch.Proofs.Interactive.FinderSteps

set_option autoImplicit false

namespace SymbolSearch.Session

variable {ρ : Type}

inductive Call (ρ : Type) where
  | handle (event : Event) (now : Nat)
  | poll (now : Nat)
  | complete (seq : Nat) (results : List ρ)

inductive Entry where
  | asked (action : Action)
  | offered (seq : Nat) (taken : Bool)

namespace Entry

def supersedes : Entry → Bool
  | asked (.dispatch _) => true
  | asked .cleared => true
  | _ => false

def issued? : Entry → Option Nat
  | asked (.dispatch ticket) => some ticket.seq
  | _ => none

def offered? : Entry → Option Nat
  | offered seq _ => some seq
  | _ => none

def taken? : Entry → Option Nat
  | offered seq true => some seq
  | _ => none

theorem issued?_eq_some {entry : Entry} {seq : Nat} :
    entry.issued? = some seq ↔ ∃ ticket, entry = asked (.dispatch ticket) ∧ ticket.seq = seq := by
  rcases entry with (_ | ticket | _ | _) | _ <;> simp [issued?]

theorem taken?_eq_some {entry : Entry} {seq : Nat} :
    entry.taken? = some seq ↔ entry = offered seq true := by
  rcases entry with _ | ⟨seq, _ | _⟩ <;> simp [taken?]

end Entry

def answer (session : Session ρ) : Call ρ → Entry × Session ρ
  | .handle event now => (session.handle event now).map .asked id
  | .poll now => (session.poll now).map .asked id
  | .complete seq results => (session.complete seq results).map (.offered seq) id

def run (session : Session ρ) (calls : List (Call ρ)) : Session ρ :=
  calls.foldl (fun session call => (session.answer call).2) session

def log (session : Session ρ) : List (Call ρ) → List Entry
  | [] => []
  | call :: calls => (session.answer call).1 :: (session.answer call).2.log calls

-- A search was issued under this number, and superseded later.
def Superseded (log : List Entry) (seq : Nat) : Prop :=
  ∃ before ticket after, log = before ++ .asked (.dispatch ticket) :: after ∧ ticket.seq = seq ∧
    ∃ entry ∈ after, entry.supersedes = true

-- The calls that are left when ends of superseded searches are left out, any of them.
inductive Leaves (start : Session ρ) : List (Call ρ) → List (Call ρ) → Prop where
  | nil : Leaves start [] []
  | keep {calls kept : List (Call ρ)} (call : Call ρ) (leaves : Leaves start calls kept) :
      Leaves start (calls ++ [call]) (kept ++ [call])
  | leaveOut {calls kept : List (Call ρ)} {seq : Nat} (results : List ρ)
      (superseded : Superseded (start.log calls) seq) (leaves : Leaves start calls kept) :
      Leaves start (calls ++ [.complete seq results]) kept

theorem edit_seq (session : Session ρ) (input : String) (now : Nat) :
    (session.edit input now).seq = session.seq := by
  unfold edit
  split <;> rfl

theorem dispatch_numbers (session : Session ρ) (query : String) :
    (session.dispatch query).2.seq = session.seq + 1 ∧
      (Entry.asked (session.dispatch query).1).supersedes = true ∧
      ∀ ticket, (session.dispatch query).1 = .dispatch ticket → ticket.seq = session.seq + 1 := by
  cases blank : isBlank query with
  | true => simp [dispatch_blank session blank, Entry.supersedes]
  | false =>
    rw [dispatch_query session blank]
    refine ⟨rfl, rfl, ?_⟩
    rintro _ ⟨⟩
    rfl

theorem answer_numbers (session : Session ρ) (call : Call ρ) :
    (session.answer call).2.seq =
        session.seq + (if (session.answer call).1.supersedes then 1 else 0) ∧
      ∀ ticket, (session.answer call).1 = .asked (.dispatch ticket) →
        ticket.seq = session.seq + 1 := by
  cases call with
  | handle event now =>
    cases event with
    | insert char =>
      simp only [answer, handle]
      split <;> simp [Entry.supersedes, edit_seq]
    | deleteBack => simp [answer, handle, Entry.supersedes, edit_seq]
    | toggleMode =>
      obtain ⟨number, supersedes, ticket⟩ := dispatch_numbers
        { session with mode := session.mode.toggled, debouncer := .idle } session.input
      simpa [answer, handle, Debouncer.cancel, number, supersedes] using ticket
    | cancel => simp [answer, handle, Entry.supersedes]
  | poll now =>
    rcases session.poll_cases now with same | ⟨value, due, _, same⟩
    · simp [answer, same, Entry.supersedes]
    · obtain ⟨number, supersedes, ticket⟩ :=
        dispatch_numbers { session with debouncer := .idle } value
      simpa [answer, same, number, supersedes] using ticket
  | complete seq results =>
    simp only [answer, complete]
    split <;> simp [Entry.supersedes]

theorem answer_seq_le (session : Session ρ) (call : Call ρ) :
    session.seq ≤ (session.answer call).2.seq := by
  rw [(session.answer_numbers call).1]
  exact Nat.le_add_right _ _

theorem complete_rejected (session : Session ρ) {seq : Nat} (results : List ρ)
    (late : seq ≠ session.seq) : session.complete seq results = (false, session) :=
  if_neg late

theorem complete_taken (session : Session ρ) (seq : Nat) (results : List ρ) :
    (session.complete seq results).1 = true ↔ seq = session.seq := by
  unfold complete
  split <;> simp_all

theorem run_concat (session : Session ρ) (calls : List (Call ρ)) (call : Call ρ) :
    session.run (calls ++ [call]) = ((session.run calls).answer call).2 := by
  simp [run]

theorem run_seq (session : Session ρ) (calls : List (Call ρ)) :
    (session.run calls).seq = session.seq + (session.log calls).countP Entry.supersedes := by
  induction calls generalizing session with
  | nil => rfl
  | cons call calls ih =>
    have first := (session.answer_numbers call).1
    have rest := ih (session.answer call).2
    rw [log, List.countP_cons, run, List.foldl_cons]
    rw [run] at rest
    omega

theorem ticket_seq {session : Session ρ} {calls : List (Call ρ)} {before after : List Entry}
    {ticket : Ticket} (split : session.log calls = before ++ .asked (.dispatch ticket) :: after) :
    ticket.seq = session.seq + before.countP Entry.supersedes + 1 := by
  -- Each entry in front of the ticket is a call, and the rest of the log starts behind that call.
  induction before generalizing session calls with
  | nil =>
    cases calls with
    | nil => cases split
    | cons call calls =>
      obtain ⟨here, _⟩ := List.cons.inj split
      exact (session.answer_numbers call).2 ticket here
  | cons entry before ih =>
    cases calls with
    | nil => cases split
    | cons call calls =>
      obtain ⟨here, rest⟩ := List.cons.inj split
      have first := (session.answer_numbers call).1
      have later := ih rest
      rw [List.countP_cons, ← here]
      omega

theorem mem_issued {log : List Entry} {seq : Nat} :
    seq ∈ log.filterMap Entry.issued? ↔
      ∃ before ticket after, log = before ++ .asked (.dispatch ticket) :: after ∧
        ticket.seq = seq := by
  rw [List.mem_filterMap]
  constructor
  · rintro ⟨entry, member, issued⟩
    obtain ⟨ticket, rfl, same⟩ := Entry.issued?_eq_some.mp issued
    obtain ⟨before, after, split⟩ := List.append_of_mem member
    exact ⟨before, ticket, after, split, same⟩
  · rintro ⟨before, ticket, after, rfl, same⟩
    exact ⟨_, by simp, Entry.issued?_eq_some.mpr ⟨ticket, rfl, same⟩⟩

theorem superseded_iff (session : Session ρ) (calls : List (Call ρ)) (seq : Nat) :
    Superseded (session.log calls) seq ↔
      seq ∈ (session.log calls).filterMap Entry.issued? ∧ seq ≠ (session.run calls).seq := by
  have behind {before after : List Entry} {ticket : Ticket}
      (split : session.log calls = before ++ .asked (.dispatch ticket) :: after) :
      ticket.seq ≠ (session.run calls).seq ↔ ∃ entry ∈ after, entry.supersedes = true := by
    -- The last number counts what came behind the ticket as well, its own only what came before.
    have number := ticket_seq split
    have last := session.run_seq calls
    rw [split, List.countP_append, List.countP_cons_of_pos rfl] at last
    rw [← List.countP_pos_iff]
    omega
  rw [mem_issued]
  constructor
  · rintro ⟨before, ticket, after, split, rfl, later⟩
    exact ⟨⟨before, ticket, after, split, rfl⟩, (behind split).mpr later⟩
  · rintro ⟨⟨before, ticket, after, split, rfl⟩, notLast⟩
    exact ⟨before, ticket, after, split, rfl, (behind split).mp notLast⟩

theorem noted_ordered (note : Entry → Option Nat) (order : Nat → Nat → Prop)
    (lower : ∀ first second third, first ≤ second → order second third → order first third)
    (last : ∀ (session : Session ρ) call seq, note (session.answer call).1 = some seq →
      order session.seq seq ∧ seq = (session.answer call).2.seq)
    (session : Session ρ) (calls : List (Call ρ)) :
    ((session.log calls).filterMap note).Pairwise order ∧
      ∀ seq ∈ (session.log calls).filterMap note, order session.seq seq := by
  induction calls generalizing session with
  | nil => simp [log]
  | cons call calls ih =>
    obtain ⟨ordered, later⟩ := ih (session.answer call).2
    have below := session.answer_seq_le call
    rw [log, List.filterMap_cons]
    split
    next => exact ⟨ordered, fun seq member => lower _ _ _ below (later seq member)⟩
    next seq noted =>
      obtain ⟨here, rfl⟩ := last session call seq noted
      refine ⟨List.pairwise_cons.mpr ⟨later, ordered⟩, ?_⟩
      intro other member
      rcases List.mem_cons.mp member with rfl | member
      · exact here
      · exact lower _ _ _ below (later other member)

theorem issued_increasing (session : Session ρ) (calls : List (Call ρ)) :
    ((session.log calls).filterMap Entry.issued?).Pairwise (· < ·) := by
  refine (noted_ordered Entry.issued? (· < ·) (fun _ _ _ => Nat.lt_of_le_of_lt) ?_ session calls).1
  intro session call seq issued
  obtain ⟨ticket, asked, rfl⟩ := Entry.issued?_eq_some.mp issued
  obtain ⟨number, here⟩ := session.answer_numbers call
  rw [number, asked, here ticket asked]
  exact ⟨Nat.lt_succ_self _, rfl⟩

theorem taken_sublist (log : List Entry) :
    (log.filterMap Entry.taken?).Sublist (log.filterMap Entry.offered?) := by
  induction log with
  | nil => exact .slnil
  | cons entry log ih =>
    rcases entry with _ | ⟨seq, _ | _⟩
    · exact ih
    · exact .cons seq ih
    · exact .cons_cons seq ih

theorem taken_increasing (session : Session ρ) (calls : List (Call ρ))
    (once : ((session.log calls).filterMap Entry.offered?).Nodup) :
    ((session.log calls).filterMap Entry.taken?).Pairwise (· < ·) := by
  have ordered : ((session.log calls).filterMap Entry.taken?).Pairwise (· ≤ ·) := by
    refine (noted_ordered Entry.taken? (· ≤ ·) (fun _ _ _ => Nat.le_trans) ?_ session calls).1
    intro session call seq taken
    cases call with
    | handle => cases taken
    | poll => cases taken
    | complete number results =>
      have same := Entry.taken?_eq_some.mp taken
      simp only [answer, Prod.map_fst, Prod.map_snd, id, Entry.offered.injEq] at same ⊢
      obtain ⟨rfl, accepted⟩ := same
      rw [complete_taken] at accepted
      simp [complete, accepted]
  have distinct := once.sublist (taken_sublist (session.log calls))
  exact (ordered.and distinct).imp fun both => Nat.lt_of_le_of_ne both.1 both.2

theorem Leaves.run_eq {start : Session ρ} {calls kept : List (Call ρ)}
    (leaves : start.Leaves calls kept) : start.run calls = start.run kept := by
  induction leaves with
  | nil => rfl
  | keep call _ ih => rw [run_concat, run_concat, ih]
  | @leaveOut calls kept seq results superseded _ ih =>
    have late := ((superseded_iff start calls seq).mp superseded).2
    rw [run_concat, answer, complete_rejected _ results late, ← ih]
    rfl

/-- Searches are numbered in their order. The results of one are taken when no other search and no
blank input came after it. Otherwise they change nothing: wherever they come, and if they do not
come at all, the session ends up the same. -/
theorem superseded_never_shown (settings : SessionSettings) (calls : List (Call ρ)) :
    let opened : Session ρ := start settings
    let session := opened.run calls
    ((opened.log calls).filterMap Entry.issued?).Pairwise (· < ·) ∧
    (∀ seq ∈ (opened.log calls).filterMap Entry.issued?, ∀ results,
      ((session.complete seq results).1 = true ↔ ¬ Superseded (opened.log calls) seq)) ∧
    (((opened.log calls).filterMap Entry.offered?).Nodup →
      ((opened.log calls).filterMap Entry.taken?).Pairwise (· < ·)) ∧
    (∀ seq results, (session.complete seq results).1 = false →
      (session.complete seq results).2 = session) ∧
    ∀ others kept, opened.Leaves calls kept → opened.Leaves others kept →
      session = opened.run others := by
  intro opened session
  refine ⟨opened.issued_increasing calls, ?_, opened.taken_increasing calls, ?_, ?_⟩
  · intro seq issued results
    rw [complete_taken, superseded_iff]
    simp only [issued, true_and, ne_eq, Decidable.not_not, session]
  · intro seq results rejected
    have late : ¬ seq = session.seq := by
      rw [← complete_taken session seq results, rejected]
      decide
    rw [complete_rejected session results late]
  · intro others kept leaves otherLeaves
    exact leaves.run_eq.trans otherLeaves.run_eq.symm

def twoSearches : List (Call Nat) :=
  [.handle (.insert 'a') 0, .poll 500, .handle (.insert 'b') 600, .poll 1100]

theorem superseded_never_shown_either_order :
    let opened : Session Nat := start .default
    let late := twoSearches ++ [.complete 2 [7]] ++ [.complete 1 [8]]
    let early := twoSearches ++ [.complete 1 [8]] ++ [.complete 2 [7]]
    ((opened.log late).filterMap Entry.offered?).Nodup ∧
      ((opened.log late).filterMap Entry.taken?).Pairwise (· < ·) ∧
      opened.run late = opened.run early ∧ (opened.run early).results = [7] := by
  intro opened late early
  have begun : opened.Leaves twoSearches twoSearches :=
    (((Leaves.nil.keep (.handle (.insert 'a') 0)).keep (.poll 500)).keep
      (.handle (.insert 'b') 600)).keep (.poll 1100)
  have stale : Superseded (opened.log twoSearches) 1 := (superseded_iff _ _ 1).mpr (by decide)
  have staleLater : Superseded (opened.log (twoSearches ++ [.complete 2 [7]])) 1 :=
    (superseded_iff _ _ 1).mpr (by decide)
  have leaves : opened.Leaves late (twoSearches ++ [.complete 2 [7]]) :=
    (begun.keep _).leaveOut [8] staleLater
  have leavesEarly : opened.Leaves early (twoSearches ++ [.complete 2 [7]]) :=
    (begun.leaveOut [8] stale).keep _
  have once : ((opened.log late).filterMap Entry.offered?).Nodup := by decide
  obtain ⟨_, _, taken, _, same⟩ := superseded_never_shown .default late
  exact ⟨once, taken once, same early _ leaves leavesEarly, by decide⟩

end SymbolSearch.Session
