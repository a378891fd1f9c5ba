import SymbolSearch.Ranking.Exchange

set_option autoImplicit false

/-!
The desk where rankings are asked for. A ranking is kept under its query and limit; callers that ask
for one that is not kept wait at one slot for one request, and the outcome of the request is the
outcome of all of them. Nothing is kept of a request that fails.

A desk changes in steps of its callers: one calls, starts a request that it has been chosen for,
takes the reply, settles the outcome, or is dropped. A step that is not possible changes nothing.
-/

namespace SymbolSearch.Ranking

structure Key where
  query : String
  limit : Nat
deriving DecidableEq, Repr

abbrev Ranked (α : Type) : Type :=
  List (SearchResult α)

abbrev Outcome (α : Type) : Type :=
  Except Failure (Ranked α)

structure Slot (α : Type) where
  key : Key
  outcome : Option (Outcome α)

inductive Caller (α : Type) where
  | waiting (slot : Nat)
  -- It has the right to make the request of the slot.
  | chosen (slot : Nat)
  | asking (slot : Nat) (candidates : Ranked α)
  | answered (slot : Nat) (outcome : Outcome α)
  | returned (outcome : Outcome α)
  | dropped

namespace Caller

variable {α : Type}

def holds (slot : Nat) : Caller α → Bool
  | chosen other => other == slot
  | asking other _ => other == slot
  | _ => false

def waitsAt (slot : Nat) : Caller α → Bool
  | waiting other => other == slot
  | _ => false

end Caller

structure Desk (α : Type) where
  capacity : Option Nat
  -- The one used last comes first.
  done : List (Key × Ranked α)
  pending : List (Key × Nat)
  slots : List (Slot α)
  callers : List (Caller α)

namespace Desk

variable {α : Type}

def empty (capacity : Option Nat) : Desk α :=
  { capacity, done := [], pending := [], slots := [], callers := [] }

def isHeld (desk : Desk α) (slot : Nat) : Bool :=
  desk.callers.any (Caller.holds slot)

def outcomeAt (desk : Desk α) (slot : Nat) : Option (Outcome α) :=
  desk.slots[slot]?.bind (·.outcome)

def setCaller (desk : Desk α) (caller : Nat) (state : Caller α) : Desk α :=
  { desk with callers := desk.callers.set caller state }

def addCaller (desk : Desk α) (state : Caller α) : Desk α :=
  { desk with callers := desk.callers ++ [state] }

def forget {β : Type} (key : Key) (entries : List (Key × β)) : List (Key × β) :=
  entries.filter fun entry => entry.1 ≠ key

def join (desk : Desk α) (slot : Nat) : Desk α :=
  desk.addCaller
    (match desk.outcomeAt slot with
      | some outcome => .answered slot outcome
      -- Nobody holds a slot that its last caller was dropped from.
      | none => if desk.isHeld slot then .waiting slot else .chosen slot)

def openSlot (desk : Desk α) (key : Key) : Desk α :=
  { desk with
    pending := (key, desk.slots.length) :: desk.pending
    slots := desk.slots ++ [{ key, outcome := none }] }

def call (desk : Desk α) (key : Key) : Desk α :=
  match desk.done.lookup key with
  -- A hit counts as a use.
  | some ranked =>
    { desk with done := (key, ranked) :: forget key desk.done }.addCaller (.returned (.ok ranked))
  | none =>
    match desk.pending.lookup key with
    | some slot => desk.join slot
    | none => (desk.openSlot key).join desk.slots.length

def oversampling : Nat := 3

def candidateLimit (limit : Nat) : Nat :=
  min (oversampling * limit) (Json.wordLimit - 1)

def candidates (search : String → Nat → Ranked α) (key : Key) : Ranked α :=
  if key.limit = 0 then [] else search key.query (candidateLimit key.limit)

def requestOf (key : Key) (candidates : Ranked α) : Request :=
  { query := key.query
    limit := key.limit
    candidates := candidates.map fun candidate => .ofElement candidate.element }

def finish (desk : Desk α) (caller slot : Nat) (outcome : Outcome α) : Desk α :=
  { desk with
    slots := desk.slots.modify slot fun entry => { entry with outcome := some outcome }
    callers := desk.callers.set caller (.answered slot outcome) }

def start (search : String → Nat → Ranked α) (desk : Desk α) (caller : Nat) : Desk α :=
  match desk.callers[caller]? with
  | some (.chosen slot) =>
    match desk.slots[slot]? with
    | none => desk
    | some entry =>
      match candidates search entry.key with
      | [] => desk.finish caller slot (.ok [])
      | found => desk.setCaller caller (.asking slot found)
  | _ => desk

def reply (desk : Desk α) (caller : Nat) (answer : Except Failure (List String)) : Desk α :=
  match desk.callers[caller]? with
  | some (.asking slot found) =>
    match desk.slots[slot]? with
    | none => desk
    | some entry =>
      desk.finish caller slot (answer.map fun ids => select found ids entry.key.limit)
  | _ => desk

def keep (desk : Desk α) (key : Key) (ranked : Ranked α) : List (Key × Ranked α) :=
  let entries := (key, ranked) :: forget key desk.done
  match desk.capacity with
  | none => entries
  | some capacity => entries.take capacity

def close (desk : Desk α) (slot : Nat) (outcome : Outcome α) : Desk α :=
  match desk.slots[slot]? with
  | none => desk
  | some entry =>
    -- Another caller may have closed it, and a new slot of the key may be open.
    if desk.pending.lookup entry.key = some slot then
      { desk with
        pending := forget entry.key desk.pending
        done :=
          match outcome with
          | .ok ranked => desk.keep entry.key ranked
          | .error _ => desk.done }
    else desk

def share : Outcome α → Outcome α
  | .ok ranked => .ok ranked
  | .error failure => .error (.shared failure)

def ready? (desk : Desk α) (caller : Nat) : Option (Nat × Outcome α) :=
  match desk.callers[caller]? with
  | some (.answered slot outcome) => some (slot, outcome)
  | some (.waiting slot) => (desk.outcomeAt slot).map fun outcome => (slot, outcome)
  | _ => none

def settle (desk : Desk α) (caller : Nat) : Desk α :=
  match desk.ready? caller with
  | some (slot, outcome) => (desk.close slot outcome).setCaller caller (.returned (share outcome))
  | none => desk

def handOver (desk : Desk α) (slot : Nat) : Desk α :=
  match desk.callers.findIdx? (Caller.waitsAt slot) with
  | some caller => desk.setCaller caller (.chosen slot)
  | none => desk

def drop (desk : Desk α) (caller : Nat) : Desk α :=
  match desk.callers[caller]? with
  | some (.waiting _) => desk.setCaller caller .dropped
  | some (.chosen slot) => (desk.setCaller caller .dropped).handOver slot
  | some (.asking slot _) => (desk.setCaller caller .dropped).handOver slot
  | _ => desk

inductive Event where
  | call (key : Key)
  | start (caller : Nat)
  | reply (caller : Nat) (answer : Except Failure (List String))
  | settle (caller : Nat)
  | drop (caller : Nat)

def step (search : String → Nat → Ranked α) (desk : Desk α) : Event → Desk α
  | .call key => desk.call key
  | .start caller => Desk.start search desk caller
  | .reply caller answer => desk.reply caller answer
  | .settle caller => desk.settle caller
  | .drop caller => desk.drop caller

def run (search : String → Nat → Ranked α) (desk : Desk α) (events : List Event) : Desk α :=
  events.foldl (step search) desk

def ask (search : String → Nat → Ranked α) (desk : Desk α) (key : Key)
    (answer : Request → Except Failure (List String)) : Desk α :=
  let caller := desk.callers.length
  let request := requestOf key (candidates search key)
  desk.run search [.call key, .start caller, .reply caller (answer request), .settle caller]

def outcomeOf (desk : Desk α) (caller : Nat) : Option (Outcome α) :=
  match desk.callers[caller]? with
  | some (.returned outcome) => some outcome
  | _ => none

end Desk

end SymbolSearch.Ranking
