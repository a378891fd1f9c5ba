import Mathlib.Data.List.Basic
import Mathlib.Data.List.Induction
import SymbolSearch.Proofs.Interactive.Superseding

set_option autoImplicit false

namespace SymbolSearch.Session

variable {ρ : Type}

structure Moment (ρ : Type) where
  session : Session ρ
  call : Call ρ

namespace Moment

def after (moment : Moment ρ) : Session ρ :=
  (moment.session.answer moment.call).2

def edits (moment : Moment ρ) : Bool :=
  decide (moment.after.input ≠ moment.session.input)

def searches (moment : Moment ρ) : Bool :=
  (moment.session.answer moment.call).1.supersedes

-- Edits from before this call are not searched for any more: the mode changes, or a poll searches.
def settles (moment : Moment ρ) : Bool :=
  match moment.call with
  | .handle .toggleMode _ => true
  | .poll _ => moment.searches
  | _ => false

theorem edits_eq_false {moment : Moment ρ} :
    moment.edits = false ↔ moment.after.input = moment.session.input := by
  simp [edits]

def IsEdit (moment : Moment ρ) (time : Nat) : Prop :=
  moment.edits = true ∧ ∃ event, moment.call = .handle event time

end Moment

def history (session : Session ρ) : List (Call ρ) → List (Moment ρ)
  | [] => []
  | call :: calls => ⟨session, call⟩ :: (session.answer call).2.history calls

-- The last edit, if neither a change of mode nor a search of a poll came after it.
def LatestEdit (history : List (Moment ρ)) (edit : Moment ρ) (time : Nat) : Prop :=
  ∃ before after, history = before ++ edit :: after ∧ edit.IsEdit time ∧
    ∀ moment ∈ after, moment.edits = false ∧ moment.settles = false

theorem LatestEdit.edits {history : List (Moment ρ)} {edit : Moment ρ} {time : Nat}
    (latest : LatestEdit history edit time) : edit.edits = true := by
  obtain ⟨_, _, _, isEdit, _⟩ := latest
  exact isEdit.1

def searchAction (session : Session ρ) (mode : Mode) : Action :=
  if session.input.toList.all Text.isBlank then .cleared
  else .dispatch { seq := session.seq + 1, query := session.input, mode }

inductive Turn (moment : Moment ρ) : Prop where
  | edit {event : Event} {now : Nat} (call : moment.call = .handle event now)
      (edits : moment.edits = true) (settles : moment.settles = false)
      (after : moment.after.debouncer =
        .schedule moment.after.input moment.after.delay now)
  | settle (edits : moment.edits = false) (settles : moment.settles = true)
      (after : moment.after.debouncer = .idle)
  | rest (edits : moment.edits = false) (settles : moment.settles = false)
      (input : moment.after.input = moment.session.input)
      (delay : moment.after.delay = moment.session.delay)
      (after : moment.after.debouncer = moment.session.debouncer)

theorem dispatch_frame (session : Session ρ) (query : String) :
    (session.dispatch query).2.input = session.input ∧
      (session.dispatch query).2.mode = session.mode ∧
      (session.dispatch query).2.debouncer = session.debouncer := by
  cases blank : isBlank query with
  | true => simp [dispatch_blank session blank]
  | false => simp [dispatch_query session blank]

theorem dispatch_settings (session : Session ρ) (query : String) :
    (session.dispatch query).2.settings = session.settings := by
  cases blank : isBlank query with
  | true => rw [dispatch_blank session blank]
  | false => rw [dispatch_query session blank]

theorem Turn.of_same {moment : Moment ρ} (settles : moment.settles = false)
    (same : moment.after = moment.session) : Turn moment :=
  .rest (Moment.edits_eq_false.mpr (by rw [same])) settles (by rw [same]) (by rw [same])
    (by rw [same])

theorem Turn.of_edit {moment : Moment ρ} {event : Event} {now : Nat} {input : String}
    (call : moment.call = .handle event now) (settles : moment.settles = false)
    (edited : moment.after = moment.session.edit input now) : Turn moment := by
  by_cases same : input = moment.session.input
  · exact .of_same settles (by rw [edited, Session.edit, if_pos same])
  · rw [Session.edit, if_neg same] at edited
    refine .edit call ?_ settles (by rw [edited]; rfl)
    simpa [Moment.edits, edited] using same

theorem turn (session : Session ρ) (call : Call ρ) : Turn ⟨session, call⟩ := by
  cases call with
  | handle event now =>
    cases event with
    | insert char =>
      by_cases control : Text.isControl char = true
      · exact .of_same rfl (by simp [Moment.after, answer, handle, control])
      · exact .of_edit rfl rfl (by simp [Moment.after, answer, handle, control]; rfl)
    | deleteBack => exact .of_edit rfl rfl rfl
    | toggleMode =>
      obtain ⟨input, _, debouncer⟩ := dispatch_frame
        { session with mode := session.mode.toggled, debouncer := .idle } session.input
      exact .settle (Moment.edits_eq_false.mpr input) rfl debouncer
    | cancel => exact .of_same rfl rfl
  | poll now =>
    rcases session.poll_cases now with same | ⟨value, due, _, same⟩
    · exact .of_same (by simp [Moment.settles, Moment.searches, answer, same, Entry.supersedes])
        (by simp [Moment.after, answer, same])
    · obtain ⟨input, _, debouncer⟩ := dispatch_frame { session with debouncer := .idle } value
      have searches := (dispatch_numbers { session with debouncer := .idle } value).2.1
      refine .settle (Moment.edits_eq_false.mpr ?_) ?_ ?_
      · simpa [Moment.after, answer, same] using input
      · simpa [Moment.settles, Moment.searches, answer, same] using searches
      · simpa [Moment.after, answer, same] using debouncer
  | complete seq results =>
    by_cases last : seq = session.seq
    · have taken : Moment.after ⟨session, .complete seq results⟩ =
          { session with results, loading := false } := by
        simp [Moment.after, answer, complete, last]
      exact .rest (Moment.edits_eq_false.mpr (by rw [taken])) rfl (by rw [taken])
        (by rw [taken]; rfl) (by rw [taken])
    · exact .of_same rfl (by simp [Moment.after, answer, complete_rejected _ _ last])

theorem history_append (session : Session ρ) (calls later : List (Call ρ)) :
    session.history (calls ++ later) =
      session.history calls ++ (session.run calls).history later := by
  induction calls generalizing session with
  | nil => rfl
  | cons first calls ih => exact congrArg (List.cons _) (ih _)

theorem history_concat (session : Session ρ) (calls : List (Call ρ)) (call : Call ρ) :
    session.history (calls ++ [call]) = session.history calls ++ [⟨session.run calls, call⟩] :=
  session.history_append calls [call]

theorem latestEdit_concat {history : List (Moment ρ)} {moment edit : Moment ρ} {time : Nat} :
    LatestEdit (history ++ [moment]) edit time ↔
      (moment = edit ∧ edit.IsEdit time) ∨
      (moment.edits = false ∧ moment.settles = false ∧ LatestEdit history edit time) := by
  constructor
  · rintro ⟨before, after, split, isEdit, quiet⟩
    rcases List.eq_nil_or_concat' after with rfl | ⟨after, last, rfl⟩
    · obtain ⟨_, rfl⟩ := List.append_inj' split rfl |>.imp_right List.singleton_inj.mp
      exact .inl ⟨rfl, isEdit⟩
    · rw [← List.cons_append, ← List.append_assoc] at split
      obtain ⟨rfl, rfl⟩ := List.append_inj' split rfl |>.imp_right List.singleton_inj.mp
      obtain ⟨edits, settles⟩ := quiet moment (by simp)
      exact .inr ⟨edits, settles, before, after, rfl, isEdit, fun other member =>
        quiet other (List.mem_append_left _ member)⟩
  · rintro (⟨rfl, isEdit⟩ | ⟨edits, settles, before, after, rfl, isEdit, quiet⟩)
    · exact ⟨history, [], rfl, isEdit, by simp⟩
    · refine ⟨before, after ++ [moment], by simp, isEdit, ?_⟩
      intro other member
      rcases List.mem_append.mp member with member | member
      · exact quiet other member
      · rw [List.mem_singleton.mp member]
        exact ⟨edits, settles⟩

section Latest

variable {history : List (Moment ρ)} {moment edit : Moment ρ} {now time : Nat}

theorem latestEdit_edit (isEdit : moment.IsEdit now) :
    LatestEdit (history ++ [moment]) edit time ↔ edit = moment ∧ time = now := by
  obtain ⟨edits, event, call⟩ := isEdit
  rw [latestEdit_concat]
  constructor
  · rintro (⟨rfl, _, _, sameCall⟩ | ⟨noEdit, _⟩)
    · rw [call] at sameCall
      cases sameCall
      exact ⟨rfl, rfl⟩
    · rw [edits] at noEdit
      cases noEdit
  · rintro ⟨rfl, rfl⟩
    exact .inl ⟨rfl, edits, event, call⟩

theorem latestEdit_other (edits : moment.edits = false) :
    LatestEdit (history ++ [moment]) edit time ↔
      moment.settles = false ∧ LatestEdit history edit time := by
  rw [latestEdit_concat]
  constructor
  · rintro (⟨rfl, isEdit, _⟩ | ⟨_, latest⟩)
    · rw [edits] at isEdit
      cases isEdit
    · exact latest
  · exact fun latest => .inr ⟨edits, latest⟩

end Latest

structure Awaits (history : List (Moment ρ)) (session : Session ρ) : Prop where
  pending : ∀ value due, session.debouncer.pending = some (value, due) ↔
    value = session.input ∧
      ∃ edit time, LatestEdit history edit time ∧ due = time + session.delay
  input : ∀ edit time, LatestEdit history edit time → edit.after.input = session.input

theorem Awaits.start (settings : SessionSettings) :
    Awaits [] (Session.start settings : Session ρ) := by
  have none (edit : Moment ρ) (time : Nat) : ¬ LatestEdit [] edit time := by
    rintro ⟨before, after, split, _⟩
    simp at split
  constructor
  · simp [Session.start, Debouncer.idle, none]
  · intro edit time latest
    exact absurd latest (none edit time)

theorem Awaits.turn {history : List (Moment ρ)} {moment : Moment ρ}
    (awaits : Awaits history moment.session) : Awaits (history ++ [moment]) moment.after := by
  cases Session.turn moment.session moment.call with
  | @edit event now call edits settles after =>
    have isEdit : moment.IsEdit now := ⟨edits, event, call⟩
    constructor
    · intro value due
      simp only [after, Debouncer.schedule, latestEdit_edit isEdit]
      constructor
      · rintro ⟨⟩
        exact ⟨rfl, moment, now, ⟨rfl, rfl⟩, rfl⟩
      · rintro ⟨rfl, _, _, ⟨rfl, rfl⟩, rfl⟩
        rfl
    · intro edit time latest
      rw [((latestEdit_edit isEdit).mp latest).1]
  | settle edits settles after =>
    have none (edit : Moment ρ) (time : Nat) : ¬ LatestEdit (history ++ [moment]) edit time := by
      rw [latestEdit_other edits, settles]
      rintro ⟨⟨⟩, _⟩
    constructor
    · simp [after, Debouncer.idle, none]
    · intro edit time latest
      exact absurd latest (none edit time)
  | rest edits settles input delay after =>
    have same (edit : Moment ρ) (time : Nat) :
        LatestEdit (history ++ [moment]) edit time ↔ LatestEdit history edit time := by
      rw [latestEdit_other edits, and_iff_right settles]
    constructor
    · simp only [after, input, delay, same]
      exact awaits.pending
    · simp only [input, same]
      exact awaits.input

theorem Awaits.run (settings : SessionSettings) (calls : List (Call ρ)) :
    let opened : Session ρ := Session.start settings
    Awaits (opened.history calls) (opened.run calls) := by
  intro opened
  -- A history grows at its end, and the edit that counts is found from there.
  induction calls using List.reverseRecOn with
  | nil => exact .start settings
  | append_singleton calls call ih =>
    rw [history_concat, run_concat]
    exact ih.turn

theorem answer_settings (session : Session ρ) (call : Call ρ) :
    (session.answer call).2.settings = session.settings := by
  cases call with
  | handle event now =>
    cases event with
    | insert char =>
      simp only [answer, handle, edit]
      split <;> [rfl; (split <;> rfl)]
    | deleteBack =>
      simp only [answer, handle, edit]
      split <;> rfl
    | toggleMode => exact dispatch_settings _ _
    | cancel => rfl
  | poll now =>
    rcases session.poll_cases now with same | ⟨value, due, _, same⟩
    · simp [answer, same]
    · simpa [answer, same] using dispatch_settings { session with debouncer := .idle } value
  | complete seq results =>
    simp only [answer, complete]
    split <;> rfl

theorem run_settings (session : Session ρ) (calls : List (Call ρ)) :
    (session.run calls).settings = session.settings := by
  induction calls generalizing session with
  | nil => rfl
  | cons call calls ih => exact (ih _).trans (session.answer_settings call)

theorem run_delay (settings : SessionSettings) (calls : List (Call ρ)) :
    let session : Session ρ := (start settings).run calls
    session.delay = if session.mode = .ai then settings.aiDelay else settings.normalDelay := by
  intro session
  have same : session.settings = settings := run_settings _ calls
  rw [delay, same]
  cases session.mode <;> rfl

theorem dispatch_input (session : Session ρ) (mode : Mode) :
    ({ session with mode, debouncer := .idle }.dispatch session.input).1 =
      session.searchAction mode := by
  cases blank : isBlank session.input with
  | true =>
    have cleared : session.searchAction mode = .cleared := if_pos blank
    rw [dispatch_blank _ blank, cleared]
  | false =>
    have issued : session.searchAction mode =
        .dispatch { seq := session.seq + 1, query := session.input, mode } :=
      if_neg (ne_true_of_eq_false blank)
    rw [dispatch_query _ blank, issued]

theorem poll_waiting {session : Session ρ} {value : String} {due : Nat}
    (waiting : session.debouncer.pending = some (value, due)) (now : Nat) :
    session.poll now =
      if due ≤ now then { session with debouncer := .idle }.dispatch value
      else (.idle, session) := by
  by_cases isDue : due ≤ now <;>
    simp [poll, Debouncer.fire, Debouncer.isReady, Debouncer.cancel, waiting, isDue]

theorem poll_nothing {session : Session ρ} (none : session.debouncer.pending = none) (now : Nat) :
    session.poll now = (.idle, session) := by
  simp [poll, Debouncer.fire, Debouncer.isReady, none]

theorem Awaits.poll {history : List (Moment ρ)} {session : Session ρ}
    (awaits : Awaits history session) (now : Nat) :
    (Moment.searches ⟨session, .poll now⟩ = true ↔
      ∃ edit time, LatestEdit history edit time ∧ time + session.delay ≤ now) ∧
    (Moment.searches ⟨session, .poll now⟩ = true →
      session.poll now = { session with debouncer := .idle }.dispatch session.input) := by
  rcases waiting : session.debouncer.pending with _ | ⟨value, due⟩
  · have idle : Moment.searches ⟨session, .poll now⟩ = false := by
      simp [Moment.searches, answer, poll_nothing waiting, Entry.supersedes]
    simp only [idle, Bool.false_eq_true, false_iff, false_imp_iff, and_true]
    rintro ⟨edit, time, latest, _⟩
    have pending := (awaits.pending _ _).mpr ⟨rfl, edit, time, latest, rfl⟩
    rw [waiting] at pending
    cases pending
  · obtain ⟨rfl, edit, time, latest, rfl⟩ := (awaits.pending _ _).mp waiting
    have searches : Moment.searches ⟨session, .poll now⟩ = true ↔ time + session.delay ≤ now := by
      have dispatched := (dispatch_numbers { session with debouncer := .idle } session.input).2.1
      by_cases isDue : time + session.delay ≤ now
      · simpa [Moment.searches, answer, poll_waiting waiting, isDue] using dispatched
      · simp [Moment.searches, answer, poll_waiting waiting, isDue, Entry.supersedes]
    constructor
    · rw [searches]
      constructor
      · exact fun isDue => ⟨edit, time, latest, isDue⟩
      · rintro ⟨other, otherTime, otherLatest, isDue⟩
        -- Both are the time that waits.
        have pending := (awaits.pending _ _).mpr ⟨rfl, other, otherTime, otherLatest, rfl⟩
        rw [waiting] at pending
        have same := (Prod.mk.inj (Option.some.inj pending)).2
        omega
    · intro isSearch
      rw [poll_waiting waiting, if_pos (searches.mp isSearch)]

theorem LatestEdit.behind {before between : List (Moment ρ)} {polled edit : Moment ρ} {time : Nat}
    (edits : polled.edits = false) (settles : polled.settles = true)
    (latest : LatestEdit (before ++ polled :: between) edit time) : edit ∈ between := by
  induction between using List.reverseRecOn with
  | nil =>
    have unsettled := ((latestEdit_other edits).mp latest).1
    rw [settles] at unsettled
    cases unsettled
  | append_singleton between last ih =>
    rw [← List.cons_append, ← List.append_assoc] at latest
    rcases latestEdit_concat.mp latest with ⟨rfl, _⟩ | ⟨_, _, latest⟩
    · simp
    · exact List.mem_append_left _ (ih latest)

theorem poll_edits (session : Session ρ) (now : Nat) :
    Moment.edits ⟨session, .poll now⟩ = false := by
  cases session.turn (.poll now) with
  | edit call => cases call
  | settle edits => exact edits
  | rest edits => exact edits

theorem toggled_eq (mode : Mode) : mode.toggled = if mode = .ai then .normal else .ai := by
  cases mode <;> rfl

theorem toggle_searches (session : Session ρ) (now : Nat) :
    let (action, toggled) := session.handle .toggleMode now
    let other := if session.mode = .ai then .normal else .ai
    action = session.searchAction other ∧ toggled.mode = other ∧ toggled.input = session.input ∧
      toggled.seq = session.seq + 1 ∧ toggled.debouncer.pending = none ∧
      toggled.hasPending = false := by
  let changed := { session with mode := session.mode.toggled, debouncer := .idle }
  obtain ⟨input, mode, debouncer⟩ := changed.dispatch_frame session.input
  have number := (changed.dispatch_numbers session.input).1
  simp only [← toggled_eq]
  exact ⟨session.dispatch_input session.mode.toggled, mode, input, number,
    congrArg Debouncer.pending debouncer, congrArg Debouncer.hasPending debouncer⟩

/-- A poll searches exactly if an edit has come after the last change of mode and the last poll that
searched, and the delay has passed since the latest one; it then searches for the input as that edit
left it, in the mode of the session. Between two polls that search there is an edit. A change of
mode searches for the input at once, and leaves nothing to wait for. -/
theorem edits_searched_after_delay (settings : SessionSettings) (calls : List (Call ρ)) :
    let opened : Session ρ := start settings
    let session := opened.run calls
    let delay := if session.mode = .ai then settings.aiDelay else settings.normalDelay
    (∀ now,
      (Moment.searches ⟨session, .poll now⟩ = true ↔
        ∃ edit time, LatestEdit (opened.history calls) edit time ∧ time + delay ≤ now) ∧
      (Moment.searches ⟨session, .poll now⟩ = true →
        (session.poll now).1 = session.searchAction session.mode)) ∧
    (∀ edit time, LatestEdit (opened.history calls) edit time →
      edit.after.input = session.input) ∧
    (∀ before first between, calls = before ++ .poll first :: between →
      Moment.searches ⟨opened.run before, .poll first⟩ = true →
      ∀ second, Moment.searches ⟨session, .poll second⟩ = true →
        ∃ edit ∈ ((opened.run before).poll first).2.history between, edit.edits = true) ∧
    ∀ now,
      let (action, toggled) := session.handle .toggleMode now
      let other := if session.mode = .ai then .normal else .ai
      action = session.searchAction other ∧ toggled.mode = other ∧ toggled.input = session.input ∧
        toggled.seq = session.seq + 1 ∧ toggled.debouncer.pending = none ∧
        toggled.hasPending = false := by
  intro opened session delay
  have awaits : Awaits (opened.history calls) session := .run settings calls
  have sameDelay : session.delay = delay := run_delay settings calls
  refine ⟨fun now => ?_, awaits.input, ?_, session.toggle_searches⟩
  · obtain ⟨searches, searched⟩ := awaits.poll now
    rw [sameDelay] at searches
    refine ⟨searches, fun isSearch => ?_⟩
    rw [searched isSearch]
    exact session.dispatch_input session.mode
  · intro before first between split isFirst second isSecond
    obtain ⟨edit, time, latest, _⟩ := (awaits.poll second).1.mp isSecond
    rw [split, history_append] at latest
    exact ⟨edit, latest.behind (poll_edits _ _) isFirst, latest.edits⟩

def pausedTyping : List (Call Nat) :=
  [.handle (.insert 'a') 0, .poll 499, .poll 500, .handle (.insert 'b') 600]

def pausedTypingAi : List (Call Nat) :=
  [.handle .toggleMode 0, .handle (.insert 'a') 100]

theorem edits_searched_after_delay_pause :
    let opened : Session Nat := start .default
    let typed := opened.run [.handle (.insert 'a') 0]
    let paused := opened.run [.handle (.insert 'a') 0, .poll 499]
    let session := opened.run pausedTyping
    let ai := opened.run pausedTypingAi
    Moment.searches ⟨typed, .poll 499⟩ = false ∧
      Moment.searches ⟨paused, .poll 500⟩ = true ∧
      Moment.searches ⟨session, .poll 1099⟩ = false ∧
      Moment.searches ⟨session, .poll 1100⟩ = true ∧
      (session.poll 1100).1 = .dispatch { seq := 2, query := "ab", mode := .normal } ∧
      (∃ edit ∈ (paused.poll 500).2.history [.handle (.insert 'b') 600], edit.edits = true) ∧
      Moment.searches ⟨ai, .poll 1099⟩ = false ∧
      (ai.poll 1100).1 = .dispatch { seq := 2, query := "a", mode := .ai } := by
  intro opened typed paused session ai
  obtain ⟨polls, _, between, _⟩ := edits_searched_after_delay .default pausedTyping
  obtain ⟨aiPolls, _⟩ := edits_searched_after_delay .default pausedTypingAi
  have first : Moment.searches ⟨paused, .poll 500⟩ = true := by decide
  have second : Moment.searches ⟨session, .poll 1100⟩ = true := by decide
  have third : Moment.searches ⟨ai, .poll 1100⟩ = true := by decide
  exact ⟨by decide, first, by decide, second, ((polls 1100).2 second).trans (by decide),
    between _ 500 _ rfl first 1100 second, by decide, ((aiPolls 1100).2 third).trans (by decide)⟩

end SymbolSearch.Session
