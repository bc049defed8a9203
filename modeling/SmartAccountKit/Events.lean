import SmartAccountKit.Lib.LiveSet
import Mathlib.Data.Nat.Count
import Mathlib.Logic.Function.Basic

/-!
# Events

The emitter of kit events. `emit` calls the listeners of an event while it goes
through their set, which the listeners may change, and calls the error handler
when one of them throws.
-/

namespace SmartAccountKit
open Lib

/-- The events of the kit. -/
inductive SmartAccountEvent where
  | walletConnected
  | walletDisconnected
  | credentialCreated
  | credentialDeleted
  | sessionExpired
  | transactionSigned
  | transactionSubmitted
deriving DecidableEq

/-- A function in a set of listeners: one that a caller registers, or the closure that `once` makes
around it, which knows the set it stands in. -/
inductive Listener where
  | plain (function : ℕ)
  | onceWrapper (closure set function : ℕ)
deriving DecidableEq

/-- An emitter with the sets that it has made. An unsubscribe function keeps its set, also when the
event has got another one since. -/
structure SmartAccountEventEmitter where
  sets : List (LiveSet Listener)
  listeners : SmartAccountEvent → Option ℕ
  closures : ℕ
  errorHandler : Bool

namespace SmartAccountEventEmitter

variable (e : SmartAccountEventEmitter)

/-- The set that a reference stands for. -/
def set (ref : ℕ) : LiveSet Listener := e.sets[ref]?.getD LiveSet.empty

def updateSet (ref : ℕ) (f : LiveSet Listener → LiveSet Listener) : SmartAccountEventEmitter :=
  { e with sets := e.sets.modify ref f }

/-! ## Registration -/

/-- The emitter with a set for an event, and the reference to it. -/
def ensureSet (event : SmartAccountEvent) : SmartAccountEventEmitter × ℕ :=
  match e.listeners event with
  | some ref => (e, ref)
  | none =>
    ({ e with
        sets := e.sets ++ [LiveSet.empty]
        listeners := Function.update e.listeners event (some e.sets.length) }, e.sets.length)

def on (event : SmartAccountEvent) (listener : ℕ) : SmartAccountEventEmitter :=
  let (e, ref) := e.ensureSet event
  e.updateSet ref (·.add (.plain listener))

def once (event : SmartAccountEvent) (listener : ℕ) : SmartAccountEventEmitter :=
  let (e, ref) := e.ensureSet event
  { e with closures := e.closures + 1 }.updateSet ref
    (·.add (.onceWrapper e.closures ref listener))

def off (event : SmartAccountEvent) (listener : ℕ) : SmartAccountEventEmitter :=
  match e.listeners event with
  | some ref => e.updateSet ref (·.delete (.plain listener))
  | none => e

/-- What the unsubscribe function of a listener in a set does. -/
def unsubscribe (ref : ℕ) (listener : Listener) : SmartAccountEventEmitter :=
  e.updateSet ref (·.delete listener)

end SmartAccountEventEmitter

/-- What a function that is called during an emit does to the emitter. -/
inductive ListenerAction where
  | on (event : SmartAccountEvent) (listener : ℕ)
  | once (event : SmartAccountEvent) (listener : ℕ)
  | off (event : SmartAccountEvent) (listener : ℕ)
  | unsubscribe (ref : ℕ) (listener : Listener)

def ListenerAction.perform (e : SmartAccountEventEmitter) :
    ListenerAction → SmartAccountEventEmitter
  | on event listener => e.on event listener
  | once event listener => e.once event listener
  | off event listener => e.off event listener
  | unsubscribe ref listener => e.unsubscribe ref listener

def SmartAccountEventEmitter.performAll (e : SmartAccountEventEmitter)
    (actions : List ListenerAction) : SmartAccountEventEmitter :=
  actions.foldl ListenerAction.perform e

/-! ## Emitting -/

/-- How one call of a listener goes: what it does before it returns or throws, and the same for the
error handler, if that is called then. -/
structure ListenerTurn where
  actions : List ListenerAction
  throws : Bool
  handlerActions : List ListenerAction
  handlerThrows : Bool

inductive EmitStatus where
  | running
  | returned
  | threw
deriving DecidableEq

/-- An emit that is under way. -/
structure EmitState where
  emitter : SmartAccountEventEmitter
  index : ℕ
  calls : List Listener
  status : EmitStatus

/-- Call a listener. The closure of `once` unsubscribes itself first. -/
def SmartAccountEventEmitter.callListener (e : SmartAccountEventEmitter) (listener : Listener)
    (turn : ListenerTurn) : SmartAccountEventEmitter :=
  match listener with
  | .plain _ => e.performAll turn.actions
  | .onceWrapper _ ref _ => (e.unsubscribe ref listener).performAll turn.actions

/-- One turn of the loop over a set: the next listener is called, or there is none. -/
def emitStep (ref : ℕ) (turn : ListenerTurn) (s : EmitState) : EmitState :=
  match s.status with
  | .running =>
    match (s.emitter.set ref).next s.index with
    | none => { s with status := .returned }
    | some (listener, i) =>
      let emitter := s.emitter.callListener listener turn
      let calls := s.calls ++ [listener]
      if turn.throws && emitter.errorHandler then
        { emitter := emitter.performAll turn.handlerActions, index := i + 1, calls,
          status := if turn.handlerThrows then .threw else .running }
      else { emitter, index := i + 1, calls, status := .running }
  | _ => s

/-- The state of an emit after a number of turns. -/
def emit (e : SmartAccountEventEmitter) (event : SmartAccountEvent) (turns : ℕ → ListenerTurn) :
    ℕ → EmitState
  | 0 =>
    { emitter := e, index := 0, calls := [],
      status := if (e.listeners event).isSome then .running else .returned }
  | k + 1 => emitStep ((e.listeners event).getD 0) (turns k) (emit e event turns k)

section emit

variable (e : SmartAccountEventEmitter) (event : SmartAccountEvent) (turns : ℕ → ListenerTurn)

/-- The entries of the set that an emit goes through, after a number of turns. -/
def emitEntries (k : ℕ) : List (Option Listener) :=
  ((emit e event turns k).emitter.set ((e.listeners event).getD 0)).entries

/-- The listener that a turn calls, with its position. -/
def emitTurn (k : ℕ) : Option (Listener × ℕ) :=
  if (emit e event turns k).status = .running then
    ((emit e event turns k).emitter.set ((e.listeners event).getD 0)).next
      (emit e event turns k).index
  else none

/-- The listener that was registered at a position is removed before the emit comes to it. -/
def RemovedBeforeTurn (i : ℕ) : Prop :=
  ∃ k, (emit e event turns k).index ≤ i ∧ (emitEntries e event turns k)[i]? = some none

/-- The entry of the event's set at a position holds a listener when the emit starts. -/
def RegisteredAt (i : ℕ) (listener : Listener) : Prop :=
  (e.listeners event).isSome = true ∧
    (e.set ((e.listeners event).getD 0)).entries[i]? = some (some listener)

/-- An emit returns without throwing, after calling exactly once each listener that was registered
at its start and not removed before its turn. -/
def EmitIsolates : Prop :=
  ∃ k, (emit e event turns k).status = .returned ∧
    ∀ i listener, RegisteredAt e event i listener → ¬RemovedBeforeTurn e event turns i →
      (emit e event turns k).calls.count listener = 1

/-- No turn of an emit ends with the error handler throwing. -/
def HandlerNeverThrows : Prop :=
  ∀ k, (emitTurn e event turns k).isSome = true → (turns k).throws = true →
    e.errorHandler = true → (turns k).handlerThrows = false

/-- From some turn on no turn of an emit adds a listener to the set. -/
def AdditionsEnd : Prop :=
  ∃ n, ∀ k ≥ n, (emitTurn e event turns k).isSome = true →
    (emitEntries e event turns (k + 1)).length = (emitEntries e event turns k).length

/-- A listener that was registered at the start, and that the emit comes to at an entry made later,
had been removed before its turn. -/
def NoneComesAgain : Prop :=
  ∀ k listener i p, emitTurn e event turns k = some (listener, i) →
    RegisteredAt e event p listener → p ≠ i → RemovedBeforeTurn e event turns p

end emit

end SmartAccountKit
