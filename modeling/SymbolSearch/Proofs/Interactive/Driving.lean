import SymbolSearch.Interactive.Background
import SymbolSearch.Proofs.Interactive.Quiescence

set_option autoImplicit false

namespace SymbolSearch

open Ranking

variable {α : Type}

namespace Finder

structure Continues (finder after : Finder α) : Prop where
  seq_le : finder.session.seq ≤ after.session.seq
  running : after.running = finder.running ∨
    ∃ ticket, after.running = finder.running ++ [ticket] ∧
      finder.session.seq < ticket.seq ∧ ticket.seq ≤ after.session.seq

theorem Continues.refl (finder : Finder α) : finder.Continues finder :=
  ⟨Nat.le_refl _, .inl rfl⟩

variable [Measure α]

theorem searchInput_continues (finder : Finder α) : finder.Continues finder.searchInput := by
  rcases searchInput_cases finder with ⟨_, _, same⟩ | ⟨_, _, _, same⟩ <;> rw [same]
  · exact ⟨Nat.le_succ _, .inr ⟨_, rfl, Nat.lt_succ_self _, Nat.le_refl _⟩⟩
  · exact ⟨Nat.le_succ _, .inl rfl⟩

theorem acceptAll_running (finder : Finder α) :
    finder.acceptAll.running = finder.running ∧
      finder.acceptAll.session.seq = finder.session.seq := by
  have taken (completions : List (Completion α)) (finder : Finder α) :
      (completions.foldl accept finder).running = finder.running ∧
        (completions.foldl accept finder).session.seq = finder.session.seq := by
    induction completions generalizing finder with
    | nil => exact ⟨rfl, rfl⟩
    | cons completion rest ih =>
      obtain ⟨running, seq⟩ := ih (finder.accept completion)
      rcases accept_cases finder completion with ⟨_, same⟩ | ⟨_, _, _, same⟩ <;>
        rw [same] at running seq <;> rw [List.foldl_cons, same] <;> exact ⟨running, seq⟩
  exact taken finder.completions { finder with completions := [] }

theorem Continues.acceptAll {finder after : Finder α} (continues : finder.Continues after) :
    finder.Continues after.acceptAll := by
  obtain ⟨running, seq⟩ := acceptAll_running after
  constructor
  · rw [seq]
    exact continues.seq_le
  · rw [running, seq]
    exact continues.running

theorem handle_continues (finder : Finder α) (event : Session.Event) (now : Nat) :
    finder.Continues (finder.handle event now).2 := by
  rcases handle_cases finder event now with same | ⟨_, same⟩ | same <;> rw [same]
  · exact .refl finder
  · exact ⟨Nat.le_refl _, .inl rfl⟩
  · have searched := searchInput_continues
      { finder with
        session :=
          { finder.session with mode := finder.session.mode.toggled, debouncer := .idle } }
    exact ⟨searched.seq_le, searched.running⟩

theorem tick_continues (finder : Finder α) (now : Nat)
    (waits : ∀ value due, finder.session.debouncer.pending = some (value, due) →
      value = finder.session.input) : finder.Continues (finder.tick now) := by
  rcases tick_cases finder now waits with same | same <;> rw [same]
  · exact (Continues.refl finder).acceptAll
  · have searched := (searchInput_continues
      { finder with session := { finder.session with debouncer := .idle } }).acceptAll
    exact ⟨searched.seq_le, searched.running⟩

end Finder

namespace Front

structure Drives (front : Front α) (desk : Desk α) (tasks : List (Ticket × Nat)) : Prop where
  sameDesk : front.desk = desk
  called : ∀ task ∈ tasks, ∃ call ∈ front.calls, call.ticket = task.1 ∧ call.caller = task.2
  isRunning : ∀ task ∈ tasks, task.1 ∈ front.finder.running
  entered : ∀ call ∈ front.calls, call.ticket ∈ front.finder.running →
    call.ticket ∈ tasks.map Prod.fst
  tasks_once : (tasks.map Prod.fst).Nodup
  running_once : front.finder.running.Nodup
  running_numbered : ∀ ticket ∈ front.finder.running, ticket.seq ≤ front.finder.session.seq
  calls_numbered : ∀ call ∈ front.calls, call.ticket.seq ≤ front.finder.session.seq

variable {front : Front α} {desk : Desk α} {tasks : List (Ticket × Nat)}

theorem Drives.start (workspace : Workspace α) (settings : Settings) (desk : Desk α) :
    (Front.start workspace settings desk).Drives desk [] := by
  constructor <;> simp [Front.start, Finder.start]

theorem Drives.withFinder (drives : front.Drives desk tasks) {finder : Finder α}
    (continues : front.finder.Continues finder) : { front with finder }.Drives desk tasks := by
  obtain ⟨seq_le, running⟩ := continues
  have calls_numbered (call : Call) (member : call ∈ front.calls) :
      call.ticket.seq ≤ finder.session.seq :=
    Nat.le_trans (drives.calls_numbered call member) seq_le
  rcases running with same | ⟨ticket, same, later, last⟩
  · refine ⟨drives.sameDesk, drives.called, ?_, ?_, drives.tasks_once, ?_, ?_, calls_numbered⟩ <;>
      simp only [same]
    · exact drives.isRunning
    · exact drives.entered
    · exact drives.running_once
    · exact fun other member => Nat.le_trans (drives.running_numbered other member) seq_le
  · -- Numbers only grow, so nobody has called for the new search yet.
    have fresh {other : Ticket} (old : other.seq ≤ front.finder.session.seq) : other ≠ ticket := by
      rintro rfl
      omega
    refine ⟨drives.sameDesk, drives.called, ?_, ?_, drives.tasks_once, ?_, ?_, calls_numbered⟩ <;>
      simp only [same, List.mem_append, List.mem_singleton]
    · exact fun task member => .inl (drives.isRunning task member)
    · rintro call member (running | new)
      · exact drives.entered call member running
      · exact absurd new (fresh (drives.calls_numbered call member))
    · rw [List.nodup_append]
      refine ⟨drives.running_once, by simp, ?_⟩
      intro other running new isNew
      rw [List.mem_singleton.mp isNew]
      exact fresh (drives.running_numbered other running)
    · rintro other (running | rfl)
      · exact Nat.le_trans (drives.running_numbered other running) seq_le
      · exact last

theorem Drives.atDesk [Measure α] (drives : front.Drives desk tasks) (event : Desk.Event) :
    (front.step (.desk event)).Drives
      (desk.step front.finder.workspace.index.search event) tasks where
  sameDesk := by
    simp only [Front.step, drives.sameDesk]
  called := drives.called
  isRunning := drives.isRunning
  entered := drives.entered
  tasks_once := drives.tasks_once
  running_once := drives.running_once
  running_numbered := drives.running_numbered
  calls_numbered := drives.calls_numbered

theorem Drives.enter (drives : front.Drives desk tasks) {ticket : Ticket}
    (running : ticket ∈ front.finder.running) (fresh : ticket ∉ tasks.map Prod.fst) :
    (front.enter ticket).finder = front.finder ∧
      (front.enter ticket).Drives
        (desk.call { query := ticket.query, limit := front.finder.maxResults })
        (tasks ++ [(ticket, desk.callers.length)]) := by
  have new : ∀ call ∈ front.calls, call.ticket ≠ ticket := by
    rintro call member rfl
    exact fresh (drives.entered call member running)
  have same : front.enter ticket =
      { front with
        desk := front.desk.call { query := ticket.query, limit := front.finder.maxResults }
        calls := front.calls ++
          [{ ticket, key := { query := ticket.query, limit := front.finder.maxResults },
             caller := front.desk.callers.length }] } := if_pos ⟨running, new⟩
  rw [same]
  refine ⟨rfl, ?_, ?_, ?_, ?_, ?_, drives.running_once, drives.running_numbered, ?_⟩
  · rw [drives.sameDesk]
  · simp only [List.mem_append, List.mem_singleton]
    rintro task (before | rfl)
    · obtain ⟨call, member, here⟩ := drives.called task before
      exact ⟨call, .inl member, here⟩
    · exact ⟨_, .inr rfl, rfl, by rw [drives.sameDesk]⟩
  · simp only [List.mem_append, List.mem_singleton]
    rintro task (before | rfl)
    · exact drives.isRunning task before
    · exact running
  · simp only [List.mem_append, List.mem_singleton, List.map_append, List.map_cons, List.map_nil]
    rintro call (before | rfl) isRunning
    · exact .inl (drives.entered call before isRunning)
    · exact .inr rfl
  · rw [List.map_append, List.nodup_append]
    refine ⟨drives.tasks_once, by simp, ?_⟩
    rintro other old new isNew rfl
    rw [List.mem_singleton.mp isNew] at old
    exact fresh old
  · simp only [List.mem_append, List.mem_singleton]
    rintro call (before | rfl)
    · exact drives.calls_numbered call before
    · exact drives.running_numbered ticket running

theorem run_append [Measure α] (front : Front α) (events later : List Event) :
    front.run (events ++ later) = (front.run events).run later := by
  simp [run]

theorem Drives.finish (drives : front.Drives desk tasks) {before after : List (Ticket × Nat)}
    {task : Ticket × Nat} {outcome : Outcome α} (split : tasks = before ++ task :: after)
    (returned : desk.outcomeOf task.2 = some outcome) :
    ∃ call, (front.finish call).finder =
        front.finder.finish task.1 (outcome.mapError Failure.message) ∧
      (front.finish call).Drives desk (before ++ after) := by
  subst split
  have isTask : task ∈ before ++ task :: after := by simp
  have running := drives.isRunning task isTask
  -- No other task has this ticket, so the others still run when it has ended.
  have once : (task.1 :: (before ++ after).map Prod.fst).Nodup :=
    (List.perm_middle.map Prod.fst).nodup drives.tasks_once
  have others (other : Ticket × Nat) (member : other ∈ before ++ after) :
      other ∈ before ++ task :: after ∧ other.1 ≠ task.1 := by
    refine ⟨List.perm_middle.mem_iff.mpr (List.mem_cons_of_mem _ member), ?_⟩
    intro same
    exact (List.nodup_cons.mp once).1 (same ▸ List.mem_map_of_mem member)
  obtain ⟨call, isCall, ticket, caller⟩ := drives.called task isTask
  have same : front.finish call =
      { front with finder := front.finder.finish task.1 (outcome.mapError Failure.message) } := by
    simp only [Front.finish, drives.sameDesk, caller, returned, ticket, isCall, running, and_self,
      if_true]
  refine ⟨call, by rw [same], ?_⟩
  rw [same]
  refine ⟨drives.sameDesk, ?_, ?_, ?_, ?_, ?_, ?_, drives.calls_numbered⟩
  · exact fun other member => drives.called other (others other member).1
  · intro other member
    obtain ⟨old, different⟩ := others other member
    exact (List.mem_erase_of_ne different).mpr (drives.isRunning other old)
  · intro known isKnown isRunning
    obtain ⟨different, old⟩ := drives.running_once.mem_erase_iff.mp isRunning
    have listed := drives.entered known isKnown old
    simpa [different] using listed
  · exact (List.nodup_cons.mp once).2
  · exact drives.running_once.erase task.1
  · exact fun other member => drives.running_numbered other (List.mem_of_mem_erase member)

end Front

namespace Background

theorem serve_run (background : Background α) (search : String → Nat → Ranked α) (desk : Desk α)
    (caller : Nat) : ∃ events, background.serve desk caller = desk.run search events := by
  unfold serve
  split
  · split
    · exact ⟨[], rfl⟩
    · split
      · exact ⟨[], rfl⟩
      · exact ⟨[.reply caller _], rfl⟩
  · exact ⟨[], rfl⟩

variable [Measure α] {front : Front α} {background : Background α}

theorem desk_run {desk : Desk α} {tasks : List (Ticket × Nat)} (drives : front.Drives desk tasks)
    (events : List Desk.Event) :
    (front.run (events.map .desk)).finder = front.finder ∧
      (front.run (events.map .desk)).Drives
        (desk.run front.finder.workspace.index.search events) tasks := by
  induction events generalizing front desk with
  | nil => exact ⟨rfl, drives⟩
  | cons event events ih => exact ih (drives.atDesk event)

theorem advance_run {task : Ticket × Nat} {rest : List (Ticket × Nat)}
    (drives : front.Drives background.desk (background.tasks ++ task :: rest)) :
    ∃ events, (front.run events).finder = (advance (front.finder, background) task).1 ∧
      (front.run events).Drives (advance (front.finder, background) task).2.desk
        ((advance (front.finder, background) task).2.tasks ++ rest) := by
  obtain ⟨ticket, caller⟩ := task
  let search := front.finder.workspace.index.search
  obtain ⟨served, sameServed⟩ :=
    background.serve_run search (Desk.start search background.desk caller) caller
  let events : List Desk.Event := [.start caller] ++ served ++ [.settle caller]
  have sameDesk :
      (background.serve (Desk.start search background.desk caller) caller).settle caller =
        background.desk.run search events := by
    rw [sameServed]
    simp [events, Desk.run, Desk.step]
  obtain ⟨sameFinder, moved⟩ := desk_run drives events
  simp only [advance]
  rw [sameDesk]
  split
  next =>
    refine ⟨events.map .desk, sameFinder, ?_⟩
    simpa using moved
  next outcome returned =>
    obtain ⟨call, ended, finished⟩ := moved.finish rfl returned
    refine ⟨events.map .desk ++ [.finish call], ?_, ?_⟩
    · rw [Front.run_append]
      rw [← sameFinder]
      exact ended
    · rw [Front.run_append]
      exact finished

theorem enterAll_run (fresh : List Ticket) (drives : front.Drives background.desk background.tasks)
    (running : ∀ ticket ∈ fresh, ticket ∈ front.finder.running)
    (new : ∀ ticket ∈ fresh, ticket ∉ background.tasks.map Prod.fst) (once : fresh.Nodup) :
    ∃ events, (front.run events).finder = front.finder ∧
      (front.run events).Drives (fresh.foldl (enter front.finder.maxResults) background).desk
        (fresh.foldl (enter front.finder.maxResults) background).tasks := by
  induction fresh generalizing front background with
  | nil => exact ⟨[], rfl, drives⟩
  | cons ticket fresh ih =>
    obtain ⟨absent, once⟩ := List.nodup_cons.mp once
    obtain ⟨sameFinder, entered⟩ :=
      drives.enter (running ticket List.mem_cons_self) (new ticket List.mem_cons_self)
    have later (other : Ticket) (member : other ∈ fresh) :
        other ∉ (background.enter front.finder.maxResults ticket).tasks.map Prod.fst := by
      have different : other ≠ ticket := by
        rintro rfl
        exact absent member
      have old := new other (List.mem_cons_of_mem _ member)
      simpa [enter, different] using old
    obtain ⟨events, rest, restDrives⟩ := ih entered
      (fun other member => sameFinder ▸ running other (List.mem_cons_of_mem _ member)) later once
    rw [sameFinder] at rest restDrives
    exact ⟨.enter ticket :: events, rest, restDrives⟩

theorem advanceAll_run (rest : List (Ticket × Nat))
    (drives : front.Drives background.desk (background.tasks ++ rest)) :
    ∃ events, (front.run events).finder = (rest.foldl advance (front.finder, background)).1 ∧
      (front.run events).Drives (rest.foldl advance (front.finder, background)).2.desk
        (rest.foldl advance (front.finder, background)).2.tasks := by
  induction rest generalizing front background with
  | nil => exact ⟨[], rfl, by rwa [List.append_nil] at drives⟩
  | cons task rest ih =>
    obtain ⟨first, sameFinder, advanced⟩ := advance_run drives
    obtain ⟨events, last, lastDrives⟩ := ih advanced
    rw [sameFinder] at last lastDrives
    refine ⟨first ++ events, ?_, ?_⟩
    · rw [Front.run_append]
      exact last
    · rw [Front.run_append]
      exact lastDrives

theorem drive_run (drives : front.Drives background.desk background.tasks) :
    ∃ events, (front.run events).finder = (drive front.finder background).1 ∧
      (front.run events).Drives (drive front.finder background).2.desk
        (drive front.finder background).2.tasks := by
  let known := background.tasks.map Prod.fst
  let fresh := front.finder.running.filter fun ticket => !known.contains ticket
  let entered := fresh.foldl (enter front.finder.maxResults) background
  have new (ticket : Ticket) (member : ticket ∈ fresh) :
      ticket ∈ front.finder.running ∧ ticket ∉ background.tasks.map Prod.fst := by
    simpa [fresh, known] using member
  obtain ⟨first, sameFinder, enteredDrives⟩ := enterAll_run fresh drives
    (fun ticket member => (new ticket member).1) (fun ticket member => (new ticket member).2)
    (drives.running_once.filter _)
  have cleared : (front.run first).Drives { entered with tasks := [] }.desk
      ({ entered with tasks := [] }.tasks ++ entered.tasks) := enteredDrives
  obtain ⟨events, last, lastDrives⟩ := advanceAll_run entered.tasks cleared
  rw [sameFinder] at last lastDrives
  refine ⟨first ++ events, ?_, ?_⟩
  · rw [Front.run_append]
    exact last
  · rw [Front.run_append]
    exact lastDrives

inductive Move where
  | handle (event : Session.Event) (now : Nat)
  | tick (now : Nat)
  | drive
  | release (query : String)

def move (state : Finder α × Background α) : Move → Finder α × Background α
  | .handle event now => ((state.1.handle event now).2, state.2)
  | .tick now => (state.1.tick now, state.2)
  | .drive => drive state.1 state.2
  | .release query => (state.1, state.2.release query)

theorem move_run {scope : Workspace α × Nat} (tracks : front.Tracks scope)
    (drives : front.Drives background.desk background.tasks) (next : Move) :
    ∃ events, (front.run events).finder = (move (front.finder, background) next).1 ∧
      (front.run events).Drives (move (front.finder, background) next).2.desk
        (move (front.finder, background) next).2.tasks := by
  cases next with
  | handle event now =>
    exact ⟨[.handle event now], rfl, drives.withFinder (Finder.handle_continues _ event now)⟩
  | tick now =>
    exact ⟨[.tick now], rfl,
      drives.withFinder (Finder.tick_continues _ now tracks.finder.waits)⟩
  | drive => exact drive_run drives
  | release query => exact ⟨[], rfl, drives⟩

theorem moves_run (workspace : Workspace α) (settings : Settings) (capacity : Option Nat)
    (scriptOf : String → Script) (held : List String) (moves : List Move) :
    ∃ events,
      let front := (Front.start workspace settings (.empty capacity)).run events
      let reached := moves.foldl move
        (Finder.start workspace settings, Background.start capacity scriptOf held)
      front.finder = reached.1 ∧ front.desk = reached.2.desk := by
  have reached (moves : List Move) {front : Front α} {background : Background α}
      (tracks : front.Tracks (workspace, settings.session.maxResults))
      (drives : front.Drives background.desk background.tasks) :
      ∃ events, (front.run events).finder = (moves.foldl move (front.finder, background)).1 ∧
        (front.run events).desk = (moves.foldl move (front.finder, background)).2.desk := by
    induction moves generalizing front background with
    | nil => exact ⟨[], rfl, drives.sameDesk⟩
    | cons next moves ih =>
      obtain ⟨first, sameFinder, moved⟩ := move_run tracks drives next
      obtain ⟨events, last⟩ := ih (tracks.run first) moved
      rw [sameFinder, ← Front.run_append] at last
      exact ⟨first ++ events, last⟩
  exact reached moves (.start workspace settings _) (.start workspace settings _)

end Background

end SymbolSearch
