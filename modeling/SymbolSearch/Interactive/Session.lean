import SymbolSearch.Settings
import SymbolSearch.Text.Basic

set_option autoImplicit false

namespace SymbolSearch

structure Debouncer (α : Type) where
  pending : Option (α × Nat)
deriving DecidableEq, Repr

namespace Debouncer

variable {α : Type}

def idle : Debouncer α :=
  { pending := none }

def schedule (value : α) (delay now : Nat) : Debouncer α :=
  { pending := some (value, now + delay) }

def hasPending (debouncer : Debouncer α) : Bool :=
  debouncer.pending.isSome

def isReady (debouncer : Debouncer α) (now : Nat) : Bool :=
  debouncer.pending.any fun pending => pending.2 ≤ now

def timeUntilReady (debouncer : Debouncer α) (now : Nat) : Option Nat :=
  debouncer.pending.map fun pending => pending.2 - now

def cancel (debouncer : Debouncer α) : Option α × Debouncer α :=
  (debouncer.pending.map (·.1), idle)

def fire (debouncer : Debouncer α) (now : Nat) : Option α × Debouncer α :=
  if debouncer.isReady now then debouncer.cancel else (none, debouncer)

end Debouncer

inductive Mode where
  | normal
  | ai
deriving DecidableEq, Repr

namespace Mode

def toggled : Mode → Mode
  | normal => ai
  | ai => normal

def label : Mode → String
  | normal => "Normal"
  | ai => "AI"

end Mode

structure Ticket where
  seq : Nat
  query : String
  mode : Mode
deriving DecidableEq, Repr

structure Session (ρ : Type) where
  settings : SessionSettings
  input : String
  mode : Mode
  results : List ρ
  loading : Bool
  seq : Nat
  debouncer : Debouncer String
deriving Repr

namespace Session

inductive Event where
  | insert (char : Char)
  | deleteBack
  | toggleMode
  | cancel
deriving DecidableEq, Repr

inductive Action where
  | idle
  | dispatch (ticket : Ticket)
  | cleared
  | exit
deriving DecidableEq, Repr

variable {ρ : Type}

def start (settings : SessionSettings) : Session ρ :=
  { settings
    input := ""
    mode := .normal
    results := []
    loading := false
    seq := 0
    debouncer := .idle }

def delay (session : Session ρ) : Nat :=
  match session.mode with
  | .normal => session.settings.normalDelay
  | .ai => session.settings.aiDelay

def isBlank (query : String) : Bool :=
  query.toList.all Text.isBlank

def dispatch (session : Session ρ) (query : String) : Action × Session ρ :=
  -- A blank query takes a number as well: it makes running searches stale.
  let session := { session with seq := session.seq + 1 }
  if isBlank query then (.cleared, { session with results := [], loading := false })
  else
    (.dispatch { seq := session.seq, query, mode := session.mode }, { session with loading := true })

def edit (session : Session ρ) (input : String) (now : Nat) : Session ρ :=
  if input = session.input then session
  else
    { session with
      input
      debouncer := Debouncer.schedule input session.delay now }

def deleteLast (input : String) : String :=
  String.ofList input.toList.dropLast

def handle (session : Session ρ) (event : Event) (now : Nat) : Action × Session ρ :=
  match event with
  | .insert char =>
    -- A pasted newline or tab is not typed.
    if Text.isControl char then (.idle, session)
    else (.idle, session.edit (session.input.push char) now)
  | .deleteBack => (.idle, session.edit (deleteLast session.input) now)
  | .toggleMode =>
    { session with mode := session.mode.toggled, debouncer := session.debouncer.cancel.2 }.dispatch
      session.input
  | .cancel => (.exit, session)

def poll (session : Session ρ) (now : Nat) : Action × Session ρ :=
  match session.debouncer.fire now with
  | (some query, debouncer) => { session with debouncer }.dispatch query
  | (none, _) => (.idle, session)

def complete (session : Session ρ) (seq : Nat) (results : List ρ) : Bool × Session ρ :=
  if seq = session.seq then (true, { session with results, loading := false })
  else (false, session)

def hasPending (session : Session ρ) : Bool :=
  session.debouncer.hasPending

def timeUntilDue (session : Session ρ) (now : Nat) : Option Nat :=
  session.debouncer.timeUntilReady now

end Session

end SymbolSearch
