import TypeDBDriver.Lib.Transition
import TypeDBDriver.Transaction.Message

/-!
# A transaction as a transition system

One transaction: the callers of its API, the readers of its promises and streams, the dispatch
loop, the listener, the callback handler, the messages in flight, and the runtime that the listener
runs on. Calls and `on_close` registrations are numbered. What a mutex or a lock makes atomic is one
step, and so is the handling of one server message, since only the listener takes callbacks out of
the map.

* `ResponseCollector`: what the dispatch loop and the listener share; `collectRes`,
  `collectResPart`.
* `State`, and the steps of each party: `call`, `submit`, `read`, `dispatchLoop`, `listenLoop`,
  `runCallback`, `registerOnClose`, `resolveOnClose`, `closeLoop`, `drop`.
* `transaction`: the transition system.
-/

namespace TypeDBDriver.Transaction

variable {ρ π α : Type}

/-! ## The request buffer -/

structure TransactionRequestBuffer (ρ : Type) where
  reqs : List (Req ρ)
  len : ℕ

namespace TransactionRequestBuffer

def empty : TransactionRequestBuffer ρ := ⟨[], 0⟩

def push (encodedLen : Req ρ → ℕ) (b : TransactionRequestBuffer ρ) (request : Req ρ) :
    TransactionRequestBuffer ρ :=
  ⟨b.reqs ++ [request], b.len + encodedLen request⟩

/-- The messages handed to gRPC when a buffer is taken unless it is empty. -/
def flush (b : TransactionRequestBuffer ρ) : List (List (Req ρ)) :=
  if b.reqs.isEmpty then [] else [b.reqs]

end TransactionRequestBuffer

def maxGrpcMessageLen : ℕ := 1000000

/-! ## The response collector -/

/-- The channel of a call and its reader. -/
structure Channel (α : Type) where
  /-- the sink that leads to it, once the request is sent -/
  sink : Option ResponseSink
  /-- what has been sent over the sink -/
  sent : List (StreamResponse α)
  /-- how many of these the reader has taken -/
  taken : ℕ
  /-- the results that the promise or the stream has yielded -/
  yielded : List (Result (TransactionResponse α))
  /-- the promise or the stream has nothing more to yield -/
  ended : Bool

def Channel.new : Channel α := ⟨none, [], 0, [], false⟩

/-- The channel after its end was read; a one-shot promise without a response fails. -/
def Channel.atEnd (channel : Channel α) : Channel α :=
  match channel.sink, channel.taken with
  | some (.oneShot _), 0 =>
    { channel with yielded := channel.yielded ++ [.error (.internal .recvError)], ended := true }
  | _, _ => { channel with ended := true }

abbrev Channels (α : Type) : Type := ℕ → Channel α

def Channels.send (channels : Channels α) (call : ℕ) (response : StreamResponse α) : Channels α :=
  Function.update channels call
    { channels call with sent := (channels call).sent ++ [response] }

namespace ResponseSink

def finish (sink : ResponseSink) (response : Result (TransactionResponse α))
    (channels : Channels α) : Channels α :=
  channels.send sink.call (.result response)

/-- `None` is the panic on a one-shot sink. -/
def sendResult (sink : ResponseSink) (response : Result (TransactionResponse α))
    (channels : Channels α) : Option (Channels α) :=
  match sink with
  | streamed call => some (channels.send call (.result response))
  | oneShot _ => none

/-- `None` is the panic on a one-shot sink. -/
def sendContinuable (sink : ResponseSink) (requestId : RequestID) (channels : Channels α) :
    Option (Channels α) :=
  match sink with
  | streamed call => some (channels.send call (.cont requestId))
  | oneShot _ => none

end ResponseSink

/-- What the dispatch loop and the listener share, with the channels that the sinks lead to. -/
structure ResponseCollector (α : Type) where
  callbacks : HashMap RequestID ResponseSink
  /-- a thread has panicked under the write lock of `callbacks` -/
  poisoned : Bool
  isOpen : Bool
  error : Option Error
  /-- the registrations whose callbacks are to run at the end -/
  onClose : List ℕ
  channels : Channels α

/-- How the handling of a message ends. -/
inductive Collected (α : Type)
  | handled (collector : ResponseCollector α)
  /-- the message was dropped for its request id -/
  | unknownRequestId
  /-- the listener panicked, in decoding the message or at a one-shot sink, with or without the
  write lock of `callbacks` -/
  | panicked (poisoned : Bool)
  /-- the listener waits for the write lock of `callbacks` while it holds the read lock -/
  | blocked

namespace ResponseCollector

def register (requestId : RequestID) (callback : ResponseSink) (c : ResponseCollector α) :
    ResponseCollector α :=
  { c with callbacks := c.callbacks.insert requestId callback }

/-- Take the callback of a request out of the map. -/
def remove (requestId : RequestID) (c : ResponseCollector α) : ResponseCollector α :=
  { c with callbacks := c.callbacks.erase requestId }

/-- The end of a step that sent over a sink, or panicked there. -/
def sentOr (poisoned : Bool) (c : ResponseCollector α) : Option (Channels α) → Collected α
  | some channels => .handled { c with channels }
  | none => .panicked poisoned

variable (decode : π → Decode Error α)

def collectRes (res : Res π) (c : ResponseCollector α) : Collected α :=
  match c.callbacks.lookup res.reqId with
  | none => .unknownRequestId
  | some sink =>
    match (TransactionResponse.tryFromRes decode res).run with
    | none => .panicked false
    | some (.error err) =>
      .handled { c.remove res.reqId with channels := sink.finish (.error err) c.channels }
    | some (.ok (.query response)) =>
      c.sentOr true (sink.sendResult (.ok (.query response)) c.channels)
    | some (.ok response) =>
      .handled { c.remove res.reqId with channels := sink.finish (.ok response) c.channels }

def collectResPart (part : ResPart π) (c : ResponseCollector α) : Collected α :=
  match part.resPart with
  | some (.queryRes queryRes) =>
    match c.callbacks.lookup part.reqId with
    | none => .unknownRequestId
    | some sink =>
      match (TransactionResponse.tryFromPart decode queryRes).run with
      | none => .panicked false
      -- the callback is removed while the guard of the lookup is held
      | some (.error _) => .blocked
      | some (.ok response) => c.sentOr false (sink.sendResult (.ok response) c.channels)
  | some (.streamRes none) => .handled (c.remove part.reqId)
  | some (.streamRes (some .cont)) =>
    match c.callbacks.lookup part.reqId with
    | none => .unknownRequestId
    | some sink => c.sentOr false (sink.sendContinuable part.reqId c.channels)
  | some (.streamRes (some .done)) => .handled (c.remove part.reqId)
  | some (.streamRes (some (.error error))) =>
    match c.callbacks.lookup part.reqId with
    | none => .unknownRequestId
    | some sink =>
      (c.remove part.reqId).sentOr false
        (sink.sendResult (.ok (.query (.error (ServerError.fromProto error)))) c.channels)
  | none => .handled (c.remove part.reqId)

def collect (message : Message π) (c : ResponseCollector α) : Collected α :=
  match message with
  | some (.res res) => c.collectRes decode res
  | some (.resPart part) => c.collectResPart decode part
  | none => .handled c

/-- What `close` and `close_with_error` send to every callback. -/
def closing : Option Error → Result (TransactionResponse α)
  | none => .ok .close
  | some error => .error error

/-- Take all callbacks and end each of them. -/
def drain (error : Option Error) (c : ResponseCollector α) : ResponseCollector α :=
  { c with
    callbacks := ∅
    channels := c.callbacks.entries.foldl (fun channels e => e.2.finish (closing error) channels)
      c.channels }

end ResponseCollector

/-! ## The state -/

/-- Where the dispatch loop stands. -/
inductive DispatchPhase (ρ : Type)
  /-- about to look for a shutdown signal -/
  | top
  /-- taking requests off the queue -/
  | draining
  /-- with a request whose callback is registered -/
  | holding (request : Req ρ)
  | exited

def DispatchPhase.isExited : DispatchPhase ρ → Bool
  | exited => true
  | _ => false

/-- Where the listener stands; `error` is what closes the transaction. -/
inductive ListenPhase
  | listening
  /-- `close` or `close_with_error` was called -/
  | closing (error : Option Error)
  /-- `is_open` is false -/
  | openCleared (error : Option Error)
  /-- the error is recorded -/
  | errorRecorded (error : Option Error)
  /-- the callbacks are taken and ended -/
  | callbacksDrained (error : Option Error)
  /-- the `on_close` callbacks are taken, those of `rest` are not handed over yet -/
  | invoking (error : Option Error) (rest : List ℕ)
  | finished
  /-- waiting for a lock forever -/
  | blocked
  | panicked
  /-- the runtime was shut down -/
  | dropped
  deriving DecidableEq

namespace ListenPhase

/-- The listener's task still exists. -/
def isAlive : ListenPhase → Bool
  | finished | panicked | dropped => false
  | _ => true

/-- The listener waits for something, so that the runtime may drop it. -/
def isWaiting : ListenPhase → Bool
  | listening | invoking _ _ => true
  | _ => false

end ListenPhase

/-- Where the one call of `close` that closes the transaction stands. -/
inductive ClosePhase
  | idle
  /-- `is_open` was swapped -/
  | swapped
  | registering (registration : ℕ)
  | registered (registration : ℕ)
  | errorRecorded (registration : ℕ)
  | signalled (registration : ℕ)
  | done

/-- What arrives from the server, a status as the error that it is turned into. -/
inductive ServerEvent (π : Type)
  | message (message : Message π)
  | status (error : Error)
  | ended

/-- The messages among some events. -/
def ServerEvent.message? : ServerEvent π → Option (Message π)
  | message m => some m
  | _ => none

structure State (ρ π α : Type) extends ResponseCollector α where
  dropped : Bool
  runtimeIsOpen : Bool
  nextCall : ℕ
  /-- calls that found the transaction open and have not sent their request yet -/
  admitted : List (ℕ × TransactionRequest ρ)
  /-- calls that failed without a request, with their errors -/
  refused : List (ℕ × Error)
  requestSource : List (TransactionRequest ρ × Option ResponseSink)
  shutdownSignals : ℕ
  dispatch : DispatchPhase ρ
  requestBuffer : TransactionRequestBuffer ρ
  /-- the `transaction::Client` messages handed to gRPC -/
  handed : List (List (Req ρ))
  inFlight : List (ServerEvent π)
  /-- how many events in flight have reached the driver -/
  arrived : ℕ
  /-- the server has ended its stream -/
  serverEnded : Bool
  listener : ListenPhase
  nextRegistration : ℕ
  /-- the `on_close` registrations that the listener has not received -/
  onCloseSource : List ℕ
  closer : ClosePhase
  /-- the callback handler thread is running -/
  handlerAlive : Bool
  /-- the callbacks handed over to the handler thread, with their arguments -/
  handlerQueue : List (ℕ × Option Error)
  /-- ghost: the requests registered so far, with their sinks -/
  registered : List (Req ρ × ResponseSink)
  /-- ghost: the messages that the server has sent -/
  sentByServer : List (Message π)
  /-- ghost: the messages that the listener has handled -/
  collected : List (Message π)
  /-- ghost: what the end of the server's stream brought -/
  closedWith : Option (Option Error)
  /-- ghost: the registrations that the listener has received -/
  recorded : List ℕ
  /-- ghost: the registrations whose promises have resolved -/
  resolved : List ℕ
  /-- ghost: the `on_close` callbacks that have run, with their arguments -/
  invoked : List (ℕ × Option Error)

def initial : State ρ π α where
  callbacks := ∅
  poisoned := false
  isOpen := true
  error := none
  onClose := []
  channels := fun _ => Channel.new
  dropped := false
  runtimeIsOpen := true
  nextCall := 0
  admitted := []
  refused := []
  requestSource := []
  shutdownSignals := 0
  dispatch := .top
  requestBuffer := .empty
  handed := []
  inFlight := []
  arrived := 0
  serverEnded := false
  listener := .listening
  nextRegistration := 0
  onCloseSource := []
  closer := .idle
  handlerAlive := true
  handlerQueue := []
  registered := []
  sentByServer := []
  collected := []
  closedWith := none
  recorded := []
  resolved := []
  invoked := []

namespace State

variable (s : State ρ π α)

/-- The requests handed to gRPC, in order. -/
def handedReqs : List (Req ρ) := s.handed.flatten

def requestIds : List RequestID := s.registered.map fun r => r.1.reqId

/-! ## Callers and readers -/

/-- `TransactionTransmitter::error` -/
def closedError : Error := s.error.getD (.connection .transactionIsClosed)

/-- A call looks whether the transaction is open. -/
def call (request : TransactionRequest ρ) : Option (State ρ π α) :=
  match request with
  | .stream _ => none
  | request =>
    if s.dropped then none
    else if s.isOpen then
      some { s with nextCall := s.nextCall + 1, admitted := s.admitted ++ [(s.nextCall, request)] }
    else
      some { s with
        nextCall := s.nextCall + 1, refused := s.refused ++ [(s.nextCall, s.closedError)] }

/-- An admitted call sends its request, which fails when the dispatch loop is gone. -/
def submit (index : ℕ) : Option (State ρ π α) :=
  match s.admitted[index]? with
  | none => none
  | some (call, request) =>
    let s := { s with admitted := s.admitted.eraseIdx index }
    if s.dispatch.isExited then
      some { s with refused := s.refused ++ [(call, .connection .transactionIsClosed)] }
    else
      let sink := request.sink call
      some { s with
        requestSource := s.requestSource ++ [(request, some sink)]
        channels := Function.update s.channels call { s.channels call with sink := some sink } }

/-- The dispatch loop or the listener still holds the collector. -/
def collectorExists : Bool := !s.dispatch.isExited || s.listener.isAlive

/-- Some sink may still send to a call: in the queue, or in the map as long as a party holds it. -/
def sinkExists (call : ℕ) : Bool :=
  s.requestSource.any (fun r => r.2.any fun sink => sink.call = call) ||
    s.collectorExists && s.callbacks.entries.any fun e => e.2.call = call

/-- The reader of a call takes what was sent, asks for more on `Continue`, or sees the end. -/
def read (call : ℕ) : Option (State ρ π α) :=
  let channel := s.channels call
  if channel.sink.isNone || channel.ended then none
  else
    match channel.sent[channel.taken]? with
    | some (.result response) =>
      some { s with channels := Function.update s.channels call { channel with
        taken := channel.taken + 1, yielded := channel.yielded ++ [response] } }
    | some (.cont requestId) =>
      if s.dispatch.isExited then
        some { s with channels := Function.update s.channels call { channel with
          taken := channel.taken + 1
          yielded := channel.yielded ++ [.error (.connection .transactionIsClosed)] } }
      else
        some { s with
          requestSource := s.requestSource ++ [(.stream requestId, none)]
          channels := Function.update s.channels call { channel with taken := channel.taken + 1 } }
    | none =>
      if s.sinkExists call then none
      else some { s with channels := Function.update s.channels call channel.atEnd }

/-! ## The dispatch loop -/

/-- The dispatch loop ends: its queue and its share of the callbacks are dropped. -/
def exitDispatch : State ρ π α := { s with dispatch := .exited, requestSource := [] }

/-- One step of `sync_dispatch_loop`; `generated` is the id that `into_proto` generates, new as
every UUID is. -/
def dispatchLoop (encodedLen : Req ρ → ℕ) (generated : RequestID) : Option (State ρ π α) :=
  match s.dispatch with
  | .top =>
    if s.shutdownSignals = 0 then some { s with dispatch := .draining }
    else
      some ({ s with
        shutdownSignals := s.shutdownSignals - 1
        handed := s.handed ++ s.requestBuffer.flush
        requestBuffer := .empty }).exitDispatch
  | .draining =>
    match s.requestSource with
    | [] =>
      some { s with
        handed := s.handed ++ s.requestBuffer.flush, requestBuffer := .empty, dispatch := .top }
    | (request, none) :: rest =>
      some { s with requestSource := rest, dispatch := .holding (request.intoProto generated) }
    | (request, some sink) :: rest =>
      let request := request.intoProto generated
      if request.reqId ∈ s.requestIds then none
      -- the write lock of the callbacks is poisoned, or never free
      else if s.poisoned then some s.exitDispatch
      else if s.listener = .blocked then none
      else
        some { s with
          toResponseCollector := s.register request.reqId sink
          requestSource := rest
          dispatch := .holding request
          registered := s.registered ++ [(request, sink)] }
  | .holding request =>
    if maxGrpcMessageLen < s.requestBuffer.len + encodedLen request then
      some { s with
        handed := s.handed ++ [s.requestBuffer.reqs]
        requestBuffer := TransactionRequestBuffer.empty.push encodedLen request
        dispatch := .draining }
    else
      some { s with
        requestBuffer := s.requestBuffer.push encodedLen request, dispatch := .draining }
  | .exited => none

/-! ## The server and the listener -/

/-- The server sends a message, or ends its stream for good. -/
def serverSend (event : ServerEvent π) : Option (State ρ π α) :=
  if s.serverEnded then none
  else
    some { s with
      inFlight := s.inFlight ++ [event]
      serverEnded := event.message?.isNone
      sentByServer := s.sentByServer ++ event.message?.toList }

/-- The next event in flight reaches the driver. -/
def arrive : Option (State ρ π α) :=
  if s.arrived < s.inFlight.length then some { s with arrived := s.arrived + 1 } else none

/-- The listener's task is gone: with it the queue of registrations, and the callbacks it holds. -/
def stopListener (phase : ListenPhase) : State ρ π α :=
  { s with listener := phase, onCloseSource := [] }

/-- The listener receives a message. -/
def listenMessage (decode : π → Decode Error α) (message : Message π) : State ρ π α :=
  match s.collect decode message with
  | .handled collector => { s with toResponseCollector := collector }
  | .unknownRequestId => s
  | .panicked poisoned => ({ s with poisoned }).stopListener .panicked
  | .blocked => { s with listener := .blocked }

/-- The listener receives an event. -/
def listenEvent (decode : π → Decode Error α) (s : State ρ π α) : ServerEvent π → State ρ π α
  | .message message =>
    { s with collected := s.collected ++ [message] }.listenMessage decode message
  | .status error => { s with listener := .closing (some error), closedWith := some (some error) }
  | .ended => { s with listener := .closing none, closedWith := some none }

/-- The listener receives a registration, which it can while no event has arrived. -/
def listenOnClose : Option (State ρ π α) :=
  match s.onCloseSource with
  | [] => none
  | registration :: rest =>
    some { s with
      onCloseSource := rest
      onClose := s.onClose ++ [registration]
      recorded := s.recorded ++ [registration] }

/-- One step of `async_listen_loop`, in `close` and `close_with_error` too. -/
def listenLoop (decode : π → Decode Error α) : Option (State ρ π α) :=
  match s.listener with
  | .listening =>
    match s.arrived, s.inFlight with
    | arrived + 1, event :: inFlight =>
      some ({ s with arrived, inFlight }.listenEvent decode event)
    | _, _ => s.listenOnClose
  | .closing error => some { s with isOpen := false, listener := .openCleared error }
  | .openCleared error =>
    some { s with error := error.or s.error, listener := .errorRecorded error }
  | .errorRecorded error =>
    some { s with toResponseCollector := s.drain error, listener := .callbacksDrained error }
  | .callbacksDrained error =>
    some { s with onClose := [], listener := .invoking error s.onClose }
  | .invoking error rest =>
    -- the listener waits until the handler has run a callback before it hands the next one over
    match s.handlerQueue, rest with
    | _ :: _, _ => none
    | [], registration :: rest =>
      if s.handlerAlive then
        some { s with
          handlerQueue := [(registration, error)], listener := .invoking error rest }
      else some (s.stopListener .panicked)
    | [], [] =>
      some ({ s with shutdownSignals := s.shutdownSignals + 1 }.stopListener .finished)
  | _ => none

/-! ## The callback handler -/

/-- The callback handler thread runs a callback. -/
def runCallback : Option (State ρ π α) :=
  match s.handlerQueue with
  | [] => none
  | callback :: rest => some { s with handlerQueue := rest, invoked := s.invoked ++ [callback] }

/-- A callback, of this transaction or another, panics on the handler thread, which ends with it. -/
def handlerDies : State ρ π α := { s with handlerAlive := false, handlerQueue := [] }

/-! ## Registrations, `close` and the end -/

/-- `on_close` sends a registration, which is lost when the listener is gone. -/
def registerOnClose : State ρ π α :=
  { s with
    nextRegistration := s.nextRegistration + 1
    onCloseSource := s.onCloseSource ++
      if s.listener.isAlive then [s.nextRegistration] else [] }

/-- The promise of `on_close` resolves: the signal came, or the registration was dropped. -/
def resolveOnClose (registration : ℕ) : Option (State ρ π α) :=
  if registration < s.nextRegistration ∧ registration ∉ s.onCloseSource ∧
      registration ∉ s.resolved then
    some { s with resolved := s.resolved ++ [registration] }
  else none

/-- A registration whose callback may still run. -/
def isPending (registration : ℕ) : Bool :=
  registration ∈ s.onCloseSource || registration ∈ s.onClose && s.collectorExists ||
    registration ∈ s.handlerQueue.map Prod.fst ||
    match s.listener with
    | .invoking _ rest => registration ∈ rest
    | _ => false

/-- One step of the call of `close` that swaps `is_open`; every other call returns at once. -/
def closeLoop : Option (State ρ π α) :=
  match s.closer with
  | .idle =>
    if !s.dropped && s.runtimeIsOpen && s.isOpen then
      some { s with isOpen := false, closer := .swapped }
    else none
  | .swapped =>
    some { s.registerOnClose with closer := .registering s.nextRegistration }
  | .registering registration =>
    (s.resolveOnClose registration).map fun s => { s with closer := .registered registration }
  | .registered registration =>
    some { s with
      error := some (.connection .transactionIsClosed), closer := .errorRecorded registration }
  | .errorRecorded registration =>
    some { s with
      shutdownSignals := s.shutdownSignals + 1, closer := .signalled registration }
  | .signalled registration =>
    if s.isPending registration then none else some { s with closer := .done }
  | .done => none

/-- The transmitter is dropped, when no call is using it; a call of `close` that is waiting is
cancelled. -/
def drop : Option (State ρ π α) :=
  if s.dropped || !s.admitted.isEmpty then none
  else
    let s := { s with dropped := true, closer := .done }
    some (if s.isOpen then { s with isOpen := false, shutdownSignals := s.shutdownSignals + 1 }
      else s)

/-- The runtime, which was told to shut down, drops the listener where it waits. -/
def shutDownRuntime : Option (State ρ π α) :=
  if !s.runtimeIsOpen && s.listener.isWaiting then some (s.stopListener .dropped) else none

end State

/-! ## The system -/

inductive Action (ρ π : Type)
  | call (request : TransactionRequest ρ)
  | submit (index : ℕ)
  | read (call : ℕ)
  | dispatch (generated : RequestID)
  | server (event : ServerEvent π)
  | arrive
  | listen
  | onClose
  | resolve (registration : ℕ)
  | close
  | drop
  /-- `ServerConnection::force_close` sends the shutdown signal -/
  | signalShutdown
  /-- `BackgroundRuntime::force_close`, or the last reference to the runtime is dropped -/
  | closeRuntime
  | shutDownRuntime
  | runCallback
  | handlerDies

def step (decode : π → Decode Error α) (encodedLen : Req ρ → ℕ) (s : State ρ π α) :
    Action ρ π → Option (State ρ π α)
  | .call request => s.call request
  | .submit index => s.submit index
  | .read call => s.read call
  | .dispatch generated => s.dispatchLoop encodedLen generated
  | .server event => s.serverSend event
  | .arrive => s.arrive
  | .listen => s.listenLoop decode
  | .onClose => if s.dropped then none else some s.registerOnClose
  | .resolve registration => s.resolveOnClose registration
  | .close => s.closeLoop
  | .drop => s.drop
  | .signalShutdown => some { s with shutdownSignals := s.shutdownSignals + 1 }
  | .closeRuntime => some { s with runtimeIsOpen := false }
  | .shutDownRuntime => s.shutDownRuntime
  | .runCallback => s.runCallback
  | .handlerDies => some s.handlerDies

/-- A transaction from its opening on. -/
def transaction (decode : π → Decode Error α) (encodedLen : Req ρ → ℕ) :
    Transition.System (State ρ π α) (Action ρ π) where
  Init s := s = initial
  step := step decode encodedLen

/-- A transaction whose payloads are numbers, to execute runs of it. -/
abbrev numbers : Transition.System (State ℕ ℕ ℕ) (Action ℕ ℕ) := transaction pure fun _ => 22

end TypeDBDriver.Transaction
