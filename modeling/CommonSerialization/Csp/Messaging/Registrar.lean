import CommonSerialization.Common.Status
import CommonSerialization.Library.Transitions
import Mathlib.Algebra.GroupWithZero.Nat

namespace CommonSerialization.Csp.Messaging.Registrar

/-! `GenericServerDataHandlerRegistrar` and the threads that use it.  What a
thread does under the mutex is one step; the waits for a latch divide the calls
that unregister, and what `releaseHandler` does after it has given up the mutex
are steps of their own. -/

inductive HandleState
  | active
  | handlerRemove
  | serviceRemove
  deriving DecidableEq, Repr

/-- The address of a handle is a number that no other handle ever gets. -/
structure SdhHandle where
  address : Nat
  id : Nat
  pService : Nat
  handler : Nat
  inUseCounter : Nat
  state : HandleState
  deriving DecidableEq, Repr

/-- The entry of a waiting `unregisterHandler`, with the arguments of the call
and how often its latch was counted down. -/
structure ToUnregisterHandler where
  call : Nat
  id : Nat
  handler : Nat
  handle : Nat
  countedDown : Nat
  deriving DecidableEq, Repr

/-- The entry of a waiting `unregisterService`; `marked` are the addresses of
the handles whose state the call has set. -/
structure ToUnregisterService where
  call : Nat
  pService : Nat
  inUseCounter : Nat
  countedDown : Nat
  marked : List Nat
  deriving DecidableEq, Repr

/-- What a thread in `releaseHandler` still has to do without the mutex. -/
inductive Releasing
  | countDownHandler (call : Nat)
  | countDownService (call handle prevUseCount : Nat)
  | findHandler (handle : Nat)
  deriving DecidableEq, Repr

/-- The members of the registrar, the threads that release a handle, and the
handles that were acquired and not released yet. -/
structure State where
  handlerMap : List SdhHandle
  unregisterServiceList : List ToUnregisterService
  unregisterHandlerList : List ToUnregisterHandler
  releasing : List Releasing
  acquired : List Nat
  nextAddress : Nat
  deriving DecidableEq, Repr

def State.empty : State := ⟨[], [], [], [], [], 0⟩

def fetchAdd (counter : Nat) : Nat := (counter + 1) % 2 ^ 32

def fetchSub (counter : Nat) : Nat := (counter + (2 ^ 32 - 1)) % 2 ^ 32

namespace State

variable (s : State)

def equalRange (id : Nat) : List SdhHandle :=
  s.handlerMap.filter fun handle => handle.id = id

def activeRange (id : Nat) : List SdhHandle :=
  (s.equalRange id).filter fun handle => handle.state = .active

def handleAt (address : Nat) : Option SdhHandle :=
  s.handlerMap.find? fun handle => handle.address = address

/-- The first entry of the range that keeps the handler. -/
def findHandle (id handler : Nat) : Option SdhHandle :=
  s.handlerMap.find? fun handle => handle.id = id ∧ handle.handler = handler

def changeHandles (selected : SdhHandle → Bool)
    (change : SdhHandle → SdhHandle) : State :=
  { s with
    handlerMap := s.handlerMap.map fun handle =>
      if selected handle then change handle else handle }

def eraseHandles (selected : SdhHandle → Bool) : State :=
  { s with handlerMap := s.handlerMap.filter fun handle => !selected handle }

def eraseHandle (address : Nat) : State :=
  s.eraseHandles fun handle => handle.address = address

end State

/-- A new element goes to a place of the map's own choice. -/
def registerHandler (id : Nat) (kMulticast : Bool) (pService handler : Nat)
    (position : Nat) (s : State) : Status × State :=
  if !kMulticast && !(s.equalRange id).isEmpty then
    (.errorInvalidArgument, s)
  else
    let handle : SdhHandle :=
      { address := s.nextAddress, id := id, pService := pService
        handler := handler, inUseCounter := 0, state := .active }
    (.noError,
      { s with
        handlerMap :=
          s.handlerMap.take position ++ handle :: s.handlerMap.drop position
        nextAddress := s.nextAddress + 1 })

/-- `unregisterHandler` up to its wait, or to its end when nobody uses the
handler. -/
def unregisterHandler (id handler : Nat) (s : State) : State :=
  match s.findHandle id handler with
  | none => s
  | some handle =>
      if handle.inUseCounter ≠ 0 then
        let marked := s.changeHandles
          (fun other => other.address = handle.address)
          fun other => { other with state := .handlerRemove }
        { marked with
          unregisterHandlerList :=
            { call := s.nextAddress, id := id, handler := handler
              handle := handle.address, countedDown := 0 } ::
                s.unregisterHandlerList
          nextAddress := s.nextAddress + 1 }
      else
        s.eraseHandle handle.address

def finishUnregisterHandler (entry : ToUnregisterHandler) (s : State) : State :=
  let woken : State :=
    { s with
      unregisterHandlerList :=
        s.unregisterHandlerList.filter fun other => other.call ≠ entry.call }
  match woken.findHandle entry.id entry.handler with
  | none => woken
  | some handle => woken.eraseHandle handle.address

def ofService (pService : Nat) (handle : SdhHandle) : Bool :=
  handle.pService = pService

/-- `unregisterService` up to its wait, or to its end when nobody uses the
service. -/
def unregisterService (pService : Nat) (s : State) : State :=
  let selected := s.handlerMap.filter (ofService pService)
  let marked := s.changeHandles (ofService pService)
    fun handle => { handle with state := .serviceRemove }
  let totalInUseCounter := (selected.map (·.inUseCounter)).sum % 2 ^ 32
  if totalInUseCounter ≠ 0 then
    { marked with
      unregisterServiceList :=
        { call := s.nextAddress, pService := pService
          inUseCounter := totalInUseCounter, countedDown := 0
          marked := selected.map (·.address) } :: s.unregisterServiceList
      nextAddress := s.nextAddress + 1 }
  else
    marked.eraseHandles (ofService pService)

def finishUnregisterService (entry : ToUnregisterService) (s : State) : State :=
  let woken : State :=
    { s with
      unregisterServiceList :=
        s.unregisterServiceList.filter fun other => other.call ≠ entry.call }
  woken.eraseHandles (ofService entry.pService)

def State.acquire (s : State) (addresses : List Nat) : State :=
  let used := s.changeHandles (fun handle => addresses.contains handle.address)
    fun handle => { handle with inUseCounter := fetchAdd handle.inUseCounter }
  { used with acquired := s.acquired ++ addresses }

/-- `handles` has room for a number of pointers.  When one does not fit, the
counters that went up go down again under the same lock. -/
def aquireHandlers (id room : Nat) (s : State) : Status × State :=
  if room < (s.activeRange id).length then
    (.errorNoMemory, s)
  else if !(s.activeRange id).isEmpty then
    (.noError, s.acquire ((s.activeRange id).map (·.address)))
  else if !(s.equalRange id).isEmpty then
    (.errorNotAvailible, s)
  else
    (.errorNoSuchHandler, s)

def aquireHandler (id : Nat) (s : State) : Status × State :=
  match s.equalRange id with
  | [] => (.errorNoSuchHandler, s)
  | [handle] =>
      if handle.state ≠ .active then (.errorNotAvailible, s)
      else (.noError, s.acquire [handle.address])
  | _ => (.errorMoreEntires, s)

/-- The outcome of the loop over `m_unregisterHandlerList`, which reads the
handle of every entry on its way. -/
inductive Search
  | absent
  | found (call : Nat)
  | undefinedBehaviour
  deriving DecidableEq, Repr

def State.searchHandler (s : State) (handler : Nat) :
    List ToUnregisterHandler → Search
  | [] => .absent
  | entry :: rest =>
      match s.handleAt entry.handle with
      | none => .undefinedBehaviour
      | some handle =>
          if handle.handler = handler then .found entry.call
          else s.searchHandler handler rest

/-- The loop in the `HandlerRemove` case; nothing comes of it when it reads a
handle that is gone. -/
def wakeHandler (handler : Nat) (s : State) : Option State :=
  match s.searchHandler handler s.unregisterHandlerList with
  | .absent => some s
  | .found call => some { s with releasing := .countDownHandler call :: s.releasing }
  | .undefinedBehaviour => none

def State.firstOfService (s : State) (pService : Nat) :
    Option ToUnregisterService :=
  s.unregisterServiceList.find? fun entry => entry.pService = pService

def State.changeService (s : State) (call : Nat)
    (change : ToUnregisterService → ToUnregisterService) : State :=
  { s with
    unregisterServiceList := s.unregisterServiceList.map fun entry =>
      if entry.call = call then change entry else entry }

def State.changeHandler (s : State) (call : Nat)
    (change : ToUnregisterHandler → ToUnregisterHandler) : State :=
  { s with
    unregisterHandlerList := s.unregisterHandlerList.map fun entry =>
      if entry.call = call then change entry else entry }

def State.release (s : State) (address : Nat) : State :=
  let used := s.changeHandles (fun handle => handle.address = address)
    fun handle => { handle with inUseCounter := fetchSub handle.inUseCounter }
  { used with acquired := s.acquired.erase address }

def releaseOfHandler (handle : SdhHandle) (s : State) : Option State :=
  if handle.inUseCounter = 1 then wakeHandler handle.handler s else some s

/-- `releaseHandler` up to the first `unlock`; `none` is a use of a handle that
is gone.  The `ServiceRemove` case goes on into the other one. -/
def releaseHandler (address : Nat) (s : State) : Option State :=
  match s.handleAt address with
  | none => none
  | some handle =>
      let released := s.release address
      match handle.state with
      | .active => some released
      | .handlerRemove => releaseOfHandler handle released
      | .serviceRemove =>
          match s.firstOfService handle.pService with
          | none => releaseOfHandler handle released
          | some entry =>
              let counted := released.changeService entry.call fun other =>
                { other with inUseCounter := fetchSub other.inUseCounter }
              if entry.inUseCounter = 1 then
                some { counted with
                  releasing :=
                    .countDownService entry.call address handle.inUseCounter ::
                      s.releasing }
              else
                releaseOfHandler handle counted

def continueRelease (thread : Releasing) (s : State) : Option State :=
  let rest : State := { s with releasing := s.releasing.erase thread }
  match thread with
  | .countDownHandler call =>
      if s.unregisterHandlerList.any (·.call = call) then
        some (rest.changeHandler call fun entry =>
          { entry with countedDown := entry.countedDown + 1 })
      else none
  | .countDownService call handle prevUseCount =>
      if s.unregisterServiceList.any (·.call = call) then
        let counted := rest.changeService call fun entry =>
          { entry with countedDown := entry.countedDown + 1 }
        if prevUseCount = 1 then
          some { counted with
            releasing := .findHandler handle :: counted.releasing }
        else some counted
      else none
  | .findHandler address =>
      match s.unregisterHandlerList with
      | [] => some rest
      | _ :: _ =>
          -- only the body of the loop reads the handle
          match s.handleAt address with
          | none => none
          | some handle => wakeHandler handle.handler rest

theorem continueRelease_nobody {s : State} {address : Nat}
    (nobody : s.unregisterHandlerList = []) :
    continueRelease (.findHandler address) s =
      some { s with releasing := s.releasing.erase (.findHandler address) } := by
  simp only [continueRelease]
  split
  · rfl
  · rename_i waiting
    rw [nobody] at waiting
    cases waiting

theorem continueRelease_somebody {s : State} {address : Nat} {handle : SdhHandle}
    (somebody : s.unregisterHandlerList ≠ [])
    (found : s.handleAt address = some handle) :
    continueRelease (.findHandler address) s =
      wakeHandler handle.handler
        { s with releasing := s.releasing.erase (.findHandler address) } := by
  simp only [continueRelease, found]
  split
  · rename_i nobody
    exact absurd nobody somebody
  · rfl

inductive Action
  | registerHandler (id : Nat) (kMulticast : Bool) (pService handler : Nat)
      (position : Nat)
  | unregisterHandler (id handler : Nat)
  | finishUnregisterHandler (entry : ToUnregisterHandler)
  | unregisterService (pService : Nat)
  | finishUnregisterService (entry : ToUnregisterService)
  | aquireHandlers (id room : Nat)
  | aquireHandler (id : Nat)
  | releaseHandler (address : Nat)
  | continueRelease (thread : Releasing)
  deriving DecidableEq, Repr

def Enabled (s : State) : Action → Prop
  | .finishUnregisterHandler entry =>
      entry ∈ s.unregisterHandlerList ∧ entry.countedDown ≠ 0
  | .finishUnregisterService entry =>
      entry ∈ s.unregisterServiceList ∧ entry.countedDown ≠ 0
  | .releaseHandler address => address ∈ s.acquired
  | .continueRelease thread => thread ∈ s.releasing
  | _ => True

instance (s : State) (action : Action) : Decidable (Enabled s action) := by
  cases action <;> unfold Enabled <;> infer_instance

def perform (s : State) : Action → Option State
  | .registerHandler id kMulticast pService handler position =>
      some (registerHandler id kMulticast pService handler position s).2
  | .unregisterHandler id handler => some (unregisterHandler id handler s)
  | .finishUnregisterHandler entry => some (finishUnregisterHandler entry s)
  | .unregisterService pService => some (unregisterService pService s)
  | .finishUnregisterService entry => some (finishUnregisterService entry s)
  | .aquireHandlers id room => some (aquireHandlers id room s).2
  | .aquireHandler id => some (aquireHandler id s).2
  | .releaseHandler address => releaseHandler address s
  | .continueRelease thread => continueRelease thread s

/-- A step without a defined outcome may lead anywhere. -/
def Step (s : State) (action : Action) (next : State) : Prop :=
  Enabled s action ∧ ∀ outcome, perform s action = some outcome → next = outcome

open Transitions

def run (meets : State → Action → Prop)
    [∀ s action, Decidable (meets s action)] :
    List Action → State → Option State
  | [], s => some s
  | action :: rest, s =>
      if Enabled s action ∧ meets s action then
        (perform s action).bind (run meets rest)
      else none

theorem reaches_of_run {meets : State → Action → Prop}
    [∀ s action, Decidable (meets s action)] {start s final : State}
    (reached : Reaches Step meets start s) {actions : List Action}
    (ran : run meets actions s = some final) :
    Reaches Step meets start final := by
  induction actions generalizing s with
  | nil =>
      cases ran
      exact reached
  | cons action rest induction =>
      simp only [run] at ran
      split at ran
      · rename_i allowed
        obtain ⟨next, performed, ran⟩ := Option.bind_eq_some_iff.mp ran
        refine induction (.next reached allowed.2 ⟨allowed.1, ?_⟩) ran
        intro outcome same
        rw [performed] at same
        exact Option.some.inj same
      · cases ran

end CommonSerialization.Csp.Messaging.Registrar
