import SymbolSearch.Emission
import SymbolSearch.Project
import SymbolSearch.Query.SearchIndex
import SymbolSearch.Ranking.Exchange
import SymbolSearch.Settings

set_option autoImplicit false

namespace SymbolSearch

inductive IndexFailure where
  | project (root : Path) (failure : ProjectFailure)
  | noProjects

namespace IndexFailure

def message : IndexFailure → String
  | project root _ => "failed to load project " ++ root.text
  | noProjects => "no project could be indexed"

def reasons : IndexFailure → List String
  | project _ failure => failure.message :: failure.reason?.toList
  | noProjects => []

end IndexFailure

inductive SourceOutcome where
  | unreadable
  | unparsable
  | parsed (file : SourceFile)

def SourceOutcome.usable? : SourceOutcome → Option SourceFile
  | parsed file => if file.declared.isEmpty then none else some file
  | _ => none

abbrev ProjectLoader : Type :=
  Path → Except ProjectFailure (List SourceOutcome)

namespace Indexing

structure State where
  elements : List Element
  next : Nat

def State.start : State :=
  { elements := [], next := 0 }

def State.add (state : State) (files : List SourceFile) : State :=
  let (elements, next) := Emission.emitEach Emission.emitFile files state.next
  { elements := state.elements ++ elements, next }

@[simp] theorem State.add_nil (state : State) : state.add [] = state := by
  simp [add, Emission.emitEach]

theorem State.add_append (state : State) (front rest : List SourceFile) :
    state.add (front ++ rest) = (state.add front).add rest := by
  simp [add, Emission.emitEach_append]

abbrev Step (α : Type) : Type :=
  State → Except IndexFailure α × State

def indexRoot (load : ProjectLoader) (root : Path) : Step Nat := fun state =>
  match load root with
  | .error failure => (.error (.project root failure), state)
  | .ok outcomes =>
    let added := state.add (outcomes.filterMap SourceOutcome.usable?)
    (.ok (added.elements.length - state.elements.length), added)

def indexEach (load : ProjectLoader) (policy : RootFailure) (loaded : Nat) : List Path → Step Nat
  | [], state => (.ok loaded, state)
  | root :: roots, state =>
    match indexRoot load root state, policy with
    | (.ok _, state), _ => indexEach load policy (loaded + 1) roots state
    | (.error _, state), .skip => indexEach load policy loaded roots state
    | (.error failure, state), .abort => (.error failure, state)

def indexRoots (load : ProjectLoader) (policy : RootFailure) (roots : List Path) : Step Unit :=
  fun state =>
    match indexEach load policy 0 roots state with
    | (.error failure, state) => (.error failure, state)
    | (.ok loaded, state) =>
      -- No roots are no failure; under abort the first failing root has been reported.
      (if loaded = 0 && !roots.isEmpty then .error .noProjects else .ok (), state)

def loaderOf (tree : FileTree) : ProjectLoader := fun root => do
  let project ← Project.load tree root
  let files ← project.sourceFilesIn tree
  pure (files.map fun path =>
    match tree.readText path with
    | .ok content => .parsed (.ofSource path content)
    | .error _ => .unreadable)

def elementsIn (tree : FileTree) (policy : RootFailure) (roots : List Path) :
    Except IndexFailure (List Element) :=
  let (answer, done) := indexRoots (loaderOf tree) policy roots .start
  answer.map fun _ => done.elements

end Indexing

structure Workspace (α : Type) where
  index : SearchIndex α
  rankingOff : Option String

namespace Workspace

variable {α : Type}

def withoutRanking (index : SearchIndex α) : Workspace α :=
  { index, rankingOff := some "no ranking service configured" }

def withRanking (index : SearchIndex α) : Workspace α :=
  { index, rankingOff := none }

def ofEnvironment (index : SearchIndex α) (settings : RankingSettings)
    (lookup : String → Option String) : Workspace α × Option Ranking.Service :=
  match Ranking.Service.ofEnvironment settings lookup with
  | .ok service => (withRanking index, some service)
  | .error failure => ({ index, rankingOff := some failure.message }, none)

end Workspace

end SymbolSearch
