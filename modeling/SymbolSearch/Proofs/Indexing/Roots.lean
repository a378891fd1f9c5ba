import SymbolSearch.Indexing

set_option autoImplicit false

namespace SymbolSearch

def SourceOutcome.declares : SourceOutcome → Bool
  | .unreadable => false
  | .unparsable => false
  | .parsed file => !file.declared.isEmpty

theorem SourceOutcome.usable?_of_not_declares {outcome : SourceOutcome}
    (idle : outcome.declares = false) : outcome.usable? = none := by
  cases outcome with
  | unreadable => rfl
  | unparsable => rfl
  | parsed file => simpa [declares, usable?] using idle

namespace Indexing

variable (load : ProjectLoader)

def canLoad (root : Path) : Bool :=
  (load root).isOk

theorem canLoad_eq_true {root : Path} :
    canLoad load root = true ↔ ∃ outcomes, load root = .ok outcomes := by
  unfold canLoad
  cases load root <;> simp [Except.isOk, Except.toBool]

theorem canLoad_eq_false {root : Path} :
    canLoad load root = false ↔ ∃ cause, load root = .error cause := by
  unfold canLoad
  cases load root <;> simp [Except.isOk, Except.toBool]

-- The loader, but without the files that declare nothing or could not be read or parsed.
def declaringOnly : ProjectLoader := fun root =>
  (load root).map (List.filter SourceOutcome.declares)

def usableFiles (root : Path) : List SourceFile :=
  match load root with
  | .error _ => []
  | .ok outcomes => outcomes.filterMap SourceOutcome.usable?

theorem canLoad_declaringOnly : canLoad (declaringOnly load) = canLoad load := by
  funext root
  unfold canLoad declaringOnly
  cases load root <;> rfl

theorem usableFiles_declaringOnly : usableFiles (declaringOnly load) = usableFiles load := by
  funext root
  unfold usableFiles declaringOnly
  cases load root with
  | error failure => rfl
  | ok outcomes =>
    change (outcomes.filter SourceOutcome.declares).filterMap SourceOutcome.usable? = _
    rw [List.filterMap_filter]
    congr 1
    funext outcome
    by_cases declares : outcome.declares
    · rw [if_pos declares]
    · rw [if_neg declares, SourceOutcome.usable?_of_not_declares (by simpa using declares)]

theorem usableFiles_unloadable {root : Path} (fails : canLoad load root = false) :
    usableFiles load root = [] := by
  obtain ⟨cause, failed⟩ := (canLoad_eq_false load).mp fails
  simp [usableFiles, failed]

theorem flatMap_usableFiles (roots : List Path) :
    (roots.filter (canLoad load)).flatMap (usableFiles load) =
      roots.flatMap (usableFiles load) := by
  induction roots with
  | nil => rfl
  | cons root roots ih =>
    cases loads : canLoad load root with
    | false => simp [loads, ih, usableFiles_unloadable load loads]
    | true => simp [loads, ih]

variable {load} {root : Path} {roots : List Path} {state : State} {policy : RootFailure}

theorem indexRoot_loaded (loads : canLoad load root = true) :
    indexRoot load root state =
      (.ok (Emission.emitEach Emission.emitFile (usableFiles load root) state.next).1.length,
        state.add (usableFiles load root)) := by
  obtain ⟨outcomes, found⟩ := (canLoad_eq_true load).mp loads
  simp [indexRoot, usableFiles, found, State.add]

theorem indexRoot_failed {cause : ProjectFailure} (failed : load root = .error cause) :
    indexRoot load root state = (.error (.project root cause), state) := by
  simp only [indexRoot, failed]

theorem indexRoot_frame {failure : IndexFailure}
    (failed : (indexRoot load root state).1 = .error failure) :
    (indexRoot load root state).2 = state := by
  cases loads : canLoad load root with
  | false =>
    obtain ⟨cause, failed⟩ := (canLoad_eq_false load).mp loads
    rw [indexRoot_failed failed]
  | true => simp [indexRoot_loaded loads] at failed

theorem indexEach_skip (loaded : Nat) :
    indexEach load .skip loaded roots state =
      (.ok (loaded + roots.countP (canLoad load)),
        state.add (roots.flatMap (usableFiles load))) := by
  induction roots generalizing loaded state with
  | nil => simp [indexEach]
  | cons root roots ih =>
    cases loads : canLoad load root with
    | false =>
      obtain ⟨cause, failed⟩ := (canLoad_eq_false load).mp loads
      simp [indexEach, indexRoot_failed failed, ih, loads, usableFiles_unloadable load loads]
    | true =>
      simp [indexEach, indexRoot_loaded loads, ih, loads, State.add_append, Nat.add_assoc,
        Nat.add_comm 1]

theorem indexEach_policy (allLoad : ∀ root ∈ roots, canLoad load root = true) (loaded : Nat) :
    indexEach load policy loaded roots state = indexEach load .skip loaded roots state := by
  induction roots generalizing loaded state with
  | nil => rfl
  | cons root roots ih =>
    obtain ⟨loads, restLoad⟩ := List.forall_mem_cons.mp allLoad
    simp only [indexEach, indexRoot_loaded loads]
    exact ih restLoad _

theorem indexEach_abort (first : roots.find? (fun root => !canLoad load root) = some root)
    (loaded : Nat) (state : State) :
    ∃ cause, load root = .error cause ∧
      (indexEach load .abort loaded roots state).1 = .error (.project root cause) := by
  induction roots generalizing loaded state with
  | nil => simp at first
  | cons earlier roots ih =>
    cases loads : canLoad load earlier with
    | false =>
      obtain rfl : earlier = root := by simpa [loads] using first
      obtain ⟨cause, failed⟩ := (canLoad_eq_false load).mp loads
      exact ⟨cause, failed, by simp [indexEach, indexRoot_failed failed]⟩
    | true =>
      simp only [indexEach, indexRoot_loaded loads]
      exact ih (by simpa [loads] using first) _ _

theorem indexRoots_skip :
    indexRoots load .skip roots state =
      (if roots ≠ [] ∧ ∀ root ∈ roots, canLoad load root = false then .error .noProjects
        else .ok (),
        state.add (roots.flatMap (usableFiles load))) := by
  simp [indexRoots, indexEach_skip, List.countP_eq_zero, and_comm]

theorem indexRoots_skip_error {failure : IndexFailure} :
    (indexRoots load .skip roots state).1 = .error failure ↔
      failure = .noProjects ∧ roots ≠ [] ∧ ∀ root ∈ roots, canLoad load root = false := by
  rw [indexRoots_skip]
  split
  next unloadable =>
    constructor
    · intro answer
      exact ⟨(Except.error.inj answer).symm, unloadable⟩
    · rintro ⟨rfl, _⟩
      rfl
  next loadable => simpa using fun _ => not_and.mp loadable

theorem indexRoots_skip_loadable (loadable : ∃ root ∈ roots, canLoad load root = true) :
    indexRoots load .skip roots state =
      (.ok (), state.add (roots.flatMap (usableFiles load))) := by
  obtain ⟨root, member, loads⟩ := loadable
  rw [indexRoots_skip, if_neg]
  rintro ⟨_, unloadable⟩
  simp [unloadable root member] at loads

theorem indexRoots_policy (allLoad : ∀ root ∈ roots, canLoad load root = true) :
    indexRoots load policy roots state = indexRoots load .skip roots state := by
  simp only [indexRoots, indexEach_policy allLoad]

theorem indexRoots_abort_error {failure : IndexFailure} :
    (indexRoots load .abort roots state).1 = .error failure ↔
      ∃ root cause, roots.find? (fun root => !canLoad load root) = some root ∧
        load root = .error cause ∧ failure = .project root cause := by
  cases first : roots.find? (fun root => !canLoad load root) with
  | none =>
    have allLoad : ∀ root ∈ roots, canLoad load root = true := by simpa using first
    rw [indexRoots_policy allLoad, indexRoots_skip_error]
    -- A list of which all and none can be loaded is empty.
    simp only [reduceCtorEq, false_and, exists_false, iff_false]
    rintro ⟨_, nonempty, unloadable⟩
    obtain ⟨root, member⟩ := List.exists_mem_of_ne_nil roots nonempty
    exact absurd (allLoad root member) (by simp [unloadable root member])
  | some root =>
    obtain ⟨cause, failed, aborted⟩ := indexEach_abort first 0 state
    have answer : (indexRoots load .abort roots state).1 = .error (.project root cause) := by
      unfold indexRoots
      split
      next reported _ same => simpa [same] using aborted
      next same => simp [same] at aborted
    simp [answer, failed, eq_comm]

/-- Where projects are skipped and one can be loaded, the outcome is the one of the projects that
can be loaded, under either policy, and of their files that declare something. Skipping fails where
there are projects and none can be loaded; aborting fails with the first that cannot be, and is no
different from skipping where all can. A project that fails leaves the elements and the first free
number as they were. -/
theorem failures_leave_no_trace (load : ProjectLoader) (roots : List Path) (state : State) :
    ((∃ root ∈ roots, canLoad load root = true) →
      indexRoots load .skip roots state =
          (.ok (), state.add (roots.flatMap (usableFiles load))) ∧
        ∀ policy, indexRoots load .skip roots state =
          indexRoots (declaringOnly load) policy (roots.filter (canLoad load)) state) ∧
    (∀ failure, (indexRoots load .skip roots state).1 = .error failure ↔
      failure = .noProjects ∧ roots ≠ [] ∧ ∀ root ∈ roots, canLoad load root = false) ∧
    (∀ failure, (indexRoots load .abort roots state).1 = .error failure ↔
      ∃ root cause, roots.find? (fun root => !canLoad load root) = some root ∧
        load root = .error cause ∧ failure = .project root cause) ∧
    ((∀ root ∈ roots, canLoad load root = true) →
      indexRoots load .abort roots state = indexRoots load .skip roots state) ∧
    ∀ root failure, (indexRoot load root state).1 = .error failure →
      (indexRoot load root state).2 = state := by
  refine ⟨fun loadable => ⟨indexRoots_skip_loadable loadable, fun policy => ?_⟩,
    fun _ => indexRoots_skip_error, fun _ => indexRoots_abort_error, indexRoots_policy,
    fun _ _ => indexRoot_frame⟩
  have allLoad :
      ∀ root ∈ roots.filter (canLoad load), canLoad (declaringOnly load) root = true := by
    simp [canLoad_declaringOnly]
  have remains :
      ∃ root ∈ roots.filter (canLoad load), canLoad (declaringOnly load) root = true := by
    simpa [canLoad_declaringOnly] using loadable
  rw [indexRoots_skip_loadable loadable, indexRoots_policy allLoad,
    indexRoots_skip_loadable remains, usableFiles_declaringOnly, flatMap_usableFiles]

def twoProjects : ProjectLoader := fun root =>
  if root.text = "empty" then .error (.missing ⟨"empty"⟩)
  else .ok [.unreadable,
    .parsed { path := ⟨"none.ts"⟩, content := "", declared := .empty },
    .parsed
      { path := ⟨"one.ts"⟩
        content := "function one() {}"
        declared := { Declarations.empty with functions := [{ name := some "one", line := 1 }] } },
    .unparsable]

theorem failures_leave_no_trace_mixed :
    (∃ root ∈ [⟨"empty"⟩, ⟨"full"⟩], canLoad twoProjects root = true) ∧
      (indexRoots twoProjects .skip [⟨"empty"⟩, ⟨"full"⟩] .start).2.elements.map (·.id) =
        ["file-0", "function-1"] ∧
      indexRoots twoProjects .skip [⟨"empty"⟩, ⟨"full"⟩] .start =
        indexRoots (declaringOnly twoProjects) .abort [⟨"full"⟩] .start ∧
      (indexRoots twoProjects .skip [⟨"empty"⟩] .start).1 = .error .noProjects ∧
      (indexRoots twoProjects .abort [⟨"full"⟩, ⟨"empty"⟩] .start).1 =
        .error (.project ⟨"empty"⟩ (.missing ⟨"empty"⟩)) ∧
      indexRoots twoProjects .abort [⟨"full"⟩, ⟨"full"⟩] .start =
        indexRoots twoProjects .skip [⟨"full"⟩, ⟨"full"⟩] .start ∧
      (indexRoot twoProjects ⟨"empty"⟩ { elements := [], next := 5 }).2 =
        { elements := [], next := 5 } := by
  have loadable : ∃ root ∈ [⟨"empty"⟩, ⟨"full"⟩], canLoad twoProjects root = true :=
    ⟨⟨"full"⟩, by simp, by decide⟩
  refine ⟨loadable, by decide +kernel, ?_, ?_, ?_, ?_, ?_⟩
  · have same := ((failures_leave_no_trace twoProjects [⟨"empty"⟩, ⟨"full"⟩] .start).1 loadable).2
    exact same .abort
  · have fails := (failures_leave_no_trace twoProjects [⟨"empty"⟩] .start).2.1 .noProjects
    exact fails.mpr ⟨rfl, by simp, by decide⟩
  · have fails := (failures_leave_no_trace twoProjects [⟨"full"⟩, ⟨"empty"⟩] .start).2.2.1
    exact (fails _).mpr ⟨⟨"empty"⟩, _, rfl, rfl, rfl⟩
  · have agree := (failures_leave_no_trace twoProjects [⟨"full"⟩, ⟨"full"⟩] .start).2.2.2.1
    exact agree (by decide)
  · have frame := (failures_leave_no_trace twoProjects [] { elements := [], next := 5 }).2.2.2.2
    exact frame ⟨"empty"⟩ _ rfl

end Indexing

end SymbolSearch
