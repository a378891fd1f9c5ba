import SymbolSearch.Interactive.Finder
import SymbolSearch.Ranking.Rehearsal

set_option autoImplicit false

namespace SymbolSearch

open Ranking

structure Background (α : Type) where
  desk : Desk α
  scriptOf : String → Script
  held : List String
  tasks : List (Ticket × Nat)

namespace Background

variable {α : Type}

def start (capacity : Option Nat) (scriptOf : String → Script) (held : List String) :
    Background α :=
  { desk := .empty capacity, scriptOf, held, tasks := [] }

def release (background : Background α) (query : String) : Background α :=
  { background with held := background.held.filter (· ≠ query) }

def enter (limit : Nat) (background : Background α) (ticket : Ticket) : Background α :=
  { background with
    desk := background.desk.call { query := ticket.query, limit }
    tasks := background.tasks ++ [(ticket, background.desk.callers.length)] }

def serve (background : Background α) (desk : Desk α) (caller : Nat) : Desk α :=
  match desk.callers[caller]? with
  | some (.asking slot found) =>
    match desk.slots[slot]? with
    | none => desk
    | some entry =>
      if background.held.contains entry.key.query then desk
      else
        desk.reply caller
          ((background.scriptOf entry.key.query).answer (Desk.requestOf entry.key found))
  | _ => desk

variable [Measure α]

def advance (state : Finder α × Background α) (task : Ticket × Nat) :
    Finder α × Background α :=
  let (finder, background) := state
  let (ticket, caller) := task
  let started := Desk.start finder.workspace.index.search background.desk caller
  let desk := (background.serve started caller).settle caller
  match desk.outcomeOf caller with
  | none => (finder, { background with desk, tasks := background.tasks ++ [task] })
  | some outcome =>
    (finder.finish ticket (outcome.mapError Failure.message), { background with desk })

-- In the order of their start, until only held ones are left.
def drive (finder : Finder α) (background : Background α) : Finder α × Background α :=
  let known := background.tasks.map (·.1)
  let fresh := finder.running.filter fun ticket => !known.contains ticket
  let entered := fresh.foldl (enter finder.maxResults) background
  entered.tasks.foldl advance (finder, { entered with tasks := [] })

end Background

end SymbolSearch
