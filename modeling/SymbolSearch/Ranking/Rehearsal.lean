import SymbolSearch.Ranking.Desk

set_option autoImplicit false

namespace SymbolSearch.Ranking

inductive Script where
  | failing (failure : Failure)
  | ids (ids : List String)
  | backward (others : List String)
  | forward (others : List String)

def Script.answer (script : Script) (request : Request) : Except Failure (List String) :=
  let ids := request.candidates.map (·.id)
  match script with
  | failing failure => .error failure
  | .ids ids => .ok ids
  | backward others => .ok (others ++ ids.reverse)
  | forward others => .ok (others ++ ids)

structure ScriptedReply where
  delay : Nat
  script : Script

def ScriptedReply.plain : ScriptedReply :=
  { delay := 0, script := .backward [] }

structure Delivery where
  caller : Nat
  due : Nat
  answer : Except Failure (List String)

structure Rehearsal (α : Type) where
  search : String → Nat → Ranked α
  desk : Desk α
  replies : List ScriptedReply
  deliveries : List Delivery
  requests : List Request

namespace Rehearsal

variable {α : Type}

def start (search : String → Nat → Ranked α) (capacity : Option Nat)
    (replies : List ScriptedReply) : Rehearsal α :=
  { search, desk := .empty capacity, replies, deliveries := [], requests := [] }

def does (rehearsal : Rehearsal α) (event : Desk.Event) : Rehearsal α :=
  { rehearsal with desk := rehearsal.desk.step rehearsal.search event }

def send (rehearsal : Rehearsal α) (now caller : Nat) (request : Request) : Rehearsal α :=
  let reply := rehearsal.replies.headD .plain
  let answer := reply.script.answer request
  let sent :=
    { rehearsal with
      replies := rehearsal.replies.tail
      requests := request :: rehearsal.requests }
  if reply.delay = 0 then sent.does (.reply caller answer)
  else { sent with deliveries := sent.deliveries ++ [{ caller, due := now + reply.delay, answer }] }

def begin (rehearsal : Rehearsal α) (now caller : Nat) : Rehearsal α :=
  match rehearsal.desk.callers[caller]? with
  | some (.chosen slot) =>
    let started := rehearsal.does (.start caller)
    match started.desk.callers[caller]?, started.desk.slots[slot]? with
    | some (.asking _ found), some entry => started.send now caller (Desk.requestOf entry.key found)
    | _, _ => started
  | _ => rehearsal

def advance (now : Nat) (rehearsal : Rehearsal α) (caller : Nat) : Rehearsal α :=
  (rehearsal.begin now caller).does (.settle caller)

def advanceAll (rehearsal : Rehearsal α) (now : Nat) : Rehearsal α :=
  (List.range rehearsal.desk.callers.length).foldl (advance now) rehearsal

def hasEnded (rehearsal : Rehearsal α) (caller : Nat) : Bool :=
  match rehearsal.desk.callers[caller]? with
  | some (.returned _) => true
  | some .dropped => true
  | _ => false

def cancel (rehearsal : Rehearsal α) (now caller : Nat) : Rehearsal α :=
  let dropped := rehearsal.does (.drop caller)
  { dropped with
    deliveries := dropped.deliveries.filter fun delivery => delivery.caller ≠ caller }.advanceAll now

structure Call where
  key : Key
  patience : Option Nat

def enter (rehearsal : Rehearsal α) (call : Call) : Rehearsal α :=
  let caller := rehearsal.desk.callers.length
  let entered := advance 0 (rehearsal.does (.call call.key)) caller
  -- Without patience a caller still gets what is there at once.
  if call.patience = some 0 && !entered.hasEnded caller then entered.cancel 0 caller else entered

inductive Happening where
  | delivered (delivery : Delivery)
  | outOfPatience (caller due : Nat)

namespace Happening

def due : Happening → Nat
  | delivered delivery => delivery.due
  | outOfPatience _ due => due

def caller : Happening → Nat
  | delivered delivery => delivery.caller
  | outOfPatience caller _ => caller

-- What happens first; at one time, what happens to the earlier caller.
def isBefore (left right : Happening) : Bool :=
  left.due < right.due || (left.due = right.due && left.caller < right.caller)

def first : List Happening → Option Happening
  | [] => none
  | happening :: rest =>
    match first rest with
    | some other => if other.isBefore happening then some other else some happening
    | none => some happening

end Happening

def happenings (rehearsal : Rehearsal α) (deadlines : List (Nat × Nat)) : List Happening :=
  rehearsal.deliveries.map .delivered ++
    (deadlines.filter fun deadline => !rehearsal.hasEnded deadline.1).map fun deadline =>
      .outOfPatience deadline.1 deadline.2

def happen (rehearsal : Rehearsal α) : Happening → Rehearsal α
  | .delivered delivery =>
    let delivered := rehearsal.does (.reply delivery.caller delivery.answer)
    { delivered with
      deliveries := delivered.deliveries.filter fun other =>
        other.caller ≠ delivery.caller }.advanceAll delivery.due
  | .outOfPatience caller due => rehearsal.cancel due caller

def finish (fuel : Nat) (deadlines : List (Nat × Nat)) (rehearsal : Rehearsal α) : Rehearsal α :=
  match fuel, Happening.first (rehearsal.happenings deadlines) with
  | fuel + 1, some happening => finish fuel deadlines (rehearsal.happen happening)
  | _, _ => rehearsal

-- Every caller has one reply and one deadline at most.
def round (rehearsal : Rehearsal α) (calls : List Call) : Rehearsal α :=
  let first := rehearsal.desk.callers.length
  let deadlines := calls.zipIdx.filterMap fun (call, place) =>
    call.patience.map fun patience => (first + place, patience)
  (calls.foldl enter { rehearsal with requests := [] }).finish (2 * calls.length) deadlines

def outcomes (rehearsal : Rehearsal α) (count : Nat) : List (Option (Outcome α)) :=
  (List.range count).map fun place =>
    rehearsal.desk.outcomeOf (rehearsal.desk.callers.length - count + place)

end Rehearsal

end SymbolSearch.Ranking
