import TypeDBDriver.Transaction.Transmitter

/-!
# The multiplexer

What the requests of a transaction share, without the batching of requests and without the phases
in which a transaction closes.

* `Reply`: what a message means for the callback of the request that it answers.
* `Multiplexer`, `Effect`: the multiplexer and what a step can do to it.
* **`step_effect`**: every step of a transaction has one of these effects.
* `Multiplexer.Sound`: calls and request ids are told apart, and callbacks are those registered;
  **`Multiplexer.Sound.effect`**, `sound_of_reaches`.
-/

namespace TypeDBDriver.Transaction

open Transition (System)

variable {ρ π α : Type} {decode : π → Decode Error α} {encodedLen : Req ρ → ℕ}

/-! ## Replies -/

/-- What is done with the callback of the request that a message answers. -/
inductive Reply (α : Type)
  /-- `response` is sent, and the callback removed if it is the last one; a one-shot sink takes no
  response that is `streamed` -/
  | send (response : StreamResponse α) (streamed last : Bool)
  /-- the callback is removed -/
  | remove
  /-- the listener waits for itself -/
  | deadlock
  /-- the message is not decoded: the listener panics -/
  | panics

def ServerBody.reply (decode : π → Decode Error α) : ServerBody π → Reply α
  | res r =>
    match (TransactionResponse.tryFromRes decode r).run with
    | none => .panics
    | some (.error err) => .send (.result (.error err)) false true
    | some (.ok (.query response)) => .send (.result (.ok (.query response))) true false
    | some (.ok response) => .send (.result (.ok response)) false true
  | resPart p =>
    match p.resPart with
    | some (.queryRes queryRes) =>
      match (TransactionResponse.tryFromPart decode queryRes).run with
      | none => .panics
      | some (.error _) => .deadlock
      | some (.ok response) => .send (.result (.ok response)) true false
    | some (.streamRes none) => .remove
    | some (.streamRes (some .cont)) => .send (.cont p.reqId) true false
    | some (.streamRes (some .done)) => .remove
    | some (.streamRes (some (.error error))) =>
      .send (.result (.ok (.query (.error (ServerError.fromProto error))))) true true
    | none => .remove

/-! ## The multiplexer and its steps -/

/-- How far the listener is from the multiplexer's point of view. -/
inductive Stage
  | listening
  | closing (error : Option Error)
  /-- every callback of the time was ended -/
  | drained
  | blocked
  /-- the listener went without ending the callbacks, or after it did -/
  | gone
  deriving DecidableEq

def ListenPhase.stage : ListenPhase → Stage
  | listening => .listening
  | closing error | openCleared error | errorRecorded error => .closing error
  | callbacksDrained _ | invoking _ _ | finished => .drained
  | blocked => .blocked
  | panicked | dropped => .gone

structure Multiplexer (ρ π α : Type) where
  nextCall : ℕ
  admitted : List (ℕ × TransactionRequest ρ)
  requestSource : List (TransactionRequest ρ × Option ResponseSink)
  /-- the requests taken off the queue, handed to gRPC or about to be -/
  dispatched : List (Req ρ)
  callbacks : HashMap RequestID ResponseSink
  channels : Channels α
  stage : Stage
  inFlight : List (Message π)
  registered : List (Req ρ × ResponseSink)
  sentByServer : List (Message π)
  collected : List (Message π)
  closedWith : Option (Option Error)

/-- The request that the dispatch loop holds. -/
def DispatchPhase.held : DispatchPhase ρ → List (Req ρ)
  | holding request => [request]
  | _ => []

def State.multiplexer (s : State ρ π α) : Multiplexer ρ π α where
  nextCall := s.nextCall
  admitted := s.admitted
  requestSource := s.requestSource
  dispatched := s.handedReqs ++ s.requestBuffer.reqs ++ s.dispatch.held
  callbacks := s.callbacks
  channels := s.channels
  stage := s.listener.stage
  inFlight := s.inFlight.filterMap ServerEvent.message?
  registered := s.registered
  sentByServer := s.sentByServer
  collected := s.collected
  closedWith := s.closedWith

namespace Multiplexer

def requestIds (m : Multiplexer ρ π α) : List RequestID := m.registered.map fun r => r.1.reqId

/-- The callback of a request gets a reply. -/
def deliver (m : Multiplexer ρ π α) (requestId : RequestID) : Reply α → Multiplexer ρ π α
  | .remove => { m with callbacks := m.callbacks.erase requestId }
  | .deadlock =>
    match m.callbacks.lookup requestId with
    | none => m
    | some _ => { m with stage := .blocked }
  | .panics =>
    match m.callbacks.lookup requestId with
    | none => m
    | some _ => { m with stage := .gone }
  | .send response streamed last =>
    match m.callbacks.lookup requestId, streamed with
    | none, _ => m
    | some (.oneShot _), true => { m with stage := .gone }
    | some sink, _ =>
      { m with
        callbacks := if last then m.callbacks.erase requestId else m.callbacks
        channels := m.channels.send sink.call response }

def collect (decode : π → Decode Error α) (m : Multiplexer ρ π α) : Message π → Multiplexer ρ π α
  | none => m
  | some body => m.deliver body.reqId (body.reply decode)

/-- The ways in which a callback gets a reply. -/
inductive Delivery (m : Multiplexer ρ π α) (requestId : RequestID) :
    Reply α → Multiplexer ρ π α → Prop
  | removed : Delivery m requestId .remove { m with callbacks := m.callbacks.erase requestId }
  | unknown (reply : Reply α) (h : m.callbacks.lookup requestId = none) (hr : reply ≠ .remove) :
    Delivery m requestId reply m
  | blocked (sink : ResponseSink) (h : m.callbacks.lookup requestId = some sink) :
    Delivery m requestId .deadlock { m with stage := .blocked }
  | died (sink : ResponseSink) (h : m.callbacks.lookup requestId = some sink) :
    Delivery m requestId .panics { m with stage := .gone }
  | panicked (call : ℕ) (response : StreamResponse α) (last : Bool)
    (h : m.callbacks.lookup requestId = some (.oneShot call)) :
    Delivery m requestId (.send response true last) { m with stage := .gone }
  | sent (sink : ResponseSink) (response : StreamResponse α) (streamed last : Bool)
    (h : m.callbacks.lookup requestId = some sink)
    (hs : streamed = true → ∃ call, sink = .streamed call) :
    Delivery m requestId (.send response streamed last)
      { m with
        callbacks := if last then m.callbacks.erase requestId else m.callbacks
        channels := m.channels.send sink.call response }

theorem deliver_delivery (m : Multiplexer ρ π α) (requestId : RequestID) (reply : Reply α) :
    Delivery m requestId reply (m.deliver requestId reply) := by
  cases reply with
  | remove => exact .removed
  | deadlock =>
    cases hl : m.callbacks.lookup requestId with
    | none =>
      simp only [deliver, hl]
      exact .unknown _ hl nofun
    | some sink =>
      simp only [deliver, hl]
      exact .blocked sink hl
  | panics =>
    cases hl : m.callbacks.lookup requestId with
    | none =>
      simp only [deliver, hl]
      exact .unknown _ hl nofun
    | some sink =>
      simp only [deliver, hl]
      exact .died sink hl
  | send response streamed last =>
    rcases hl : m.callbacks.lookup requestId with _ | call | call
    · simp only [deliver, hl]
      exact .unknown _ hl nofun
    · cases streamed with
      | true =>
        simp only [deliver, hl]
        exact .panicked call response last hl
      | false =>
        simp only [deliver, hl]
        exact .sent _ response false last hl nofun
    · simp only [deliver, hl]
      exact .sent _ response streamed last hl fun _ => ⟨call, rfl⟩

theorem collect_delivery (decode : π → Decode Error α) (m : Multiplexer ρ π α)
    (body : ServerBody π) :
    Delivery m body.reqId (body.reply decode) (m.collect decode (some body)) :=
  m.deliver_delivery body.reqId (body.reply decode)

/-- Every callback is ended. -/
def drain (m : Multiplexer ρ π α) (error : Option Error) : Multiplexer ρ π α :=
  { m with
    callbacks := ∅
    channels := m.callbacks.entries.foldl
      (fun channels e => e.2.finish (ResponseCollector.closing error) channels) m.channels
    stage := .drained }

/-- A reader's step changes its channel only. -/
def setChannel (m : Multiplexer ρ π α) (call : ℕ) (channel : Channel α) : Multiplexer ρ π α :=
  { m with channels := Function.update m.channels call channel }

/-- No sink leads to a call: none in the queue, and none in a map that a party still holds. -/
def Unreachable (m : Multiplexer ρ π α) (call : ℕ) : Prop :=
  (∀ r ∈ m.requestSource, ∀ sink ∈ r.2, sink.call ≠ call) ∧
    (m.stage = .drained ∨ m.stage = .gone ∨
      ∀ requestId, ∀ sink ∈ m.callbacks.lookup requestId, sink.call ≠ call)

end Multiplexer

/-- What the conditions on runs look at in a step. -/
inductive Label (π : Type)
  | send (message : Message π)
  | handle (message : Message π)
  | stop
  | other

/-- What a step does to the multiplexer. -/
inductive Effect (decode : π → Decode Error α) :
    Label π → Multiplexer ρ π α → Multiplexer ρ π α → Prop
  | skip (m) : Effect decode .other m m
  | accept (m) (request : TransactionRequest ρ) (h : ∀ requestId, request ≠ .stream requestId) :
    Effect decode .other m { m with
      nextCall := m.nextCall + 1, admitted := m.admitted ++ [(m.nextCall, request)] }
  | refuse (m) : Effect decode .other m { m with nextCall := m.nextCall + 1 }
  | withdraw (m) (index : ℕ) :
    Effect decode .other m { m with admitted := m.admitted.eraseIdx index }
  | submit (m) (index call : ℕ) (request : TransactionRequest ρ)
    (h : m.admitted[index]? = some (call, request)) :
    Effect decode .other m { m with
      admitted := m.admitted.eraseIdx index
      requestSource := m.requestSource ++ [(request, some (request.sink call))]
      channels := Function.update m.channels call
        { m.channels call with sink := some (request.sink call) } }
  | take (m) (call : ℕ) (response : Result (TransactionResponse α))
    (hend : (m.channels call).ended = false)
    (h : (m.channels call).sent[(m.channels call).taken]? = some (.result response)) :
    Effect decode .other m (m.setChannel call { m.channels call with
      taken := (m.channels call).taken + 1
      yielded := (m.channels call).yielded ++ [response] })
  | askMore (m) (call : ℕ) (requestId : RequestID)
    (hend : (m.channels call).ended = false)
    (h : (m.channels call).sent[(m.channels call).taken]? = some (.cont requestId)) :
    Effect decode .other m { m with
      requestSource := m.requestSource ++ [(.stream requestId, none)]
      channels := Function.update m.channels call
        { m.channels call with taken := (m.channels call).taken + 1 } }
  | askMoreFailed (m) (call : ℕ) (requestId : RequestID)
    (hend : (m.channels call).ended = false)
    (h : (m.channels call).sent[(m.channels call).taken]? = some (.cont requestId)) :
    Effect decode .other m (m.setChannel call { m.channels call with
      taken := (m.channels call).taken + 1
      yielded := (m.channels call).yielded ++ [.error (.connection .transactionIsClosed)] })
  | atEnd (m) (call : ℕ) (hend : (m.channels call).ended = false)
    (h : (m.channels call).sent[(m.channels call).taken]? = none) (hu : m.Unreachable call) :
    Effect decode .other m (m.setChannel call (m.channels call).atEnd)
  | dequeue (m) (request : TransactionRequest ρ)
    (rest : List (TransactionRequest ρ × Option ResponseSink)) (generated : RequestID)
    (h : m.requestSource = (request, none) :: rest) :
    Effect decode .other m { m with
      requestSource := rest, dispatched := m.dispatched ++ [request.intoProto generated] }
  | register (m) (request : TransactionRequest ρ) (sink : ResponseSink)
    (rest : List (TransactionRequest ρ × Option ResponseSink)) (generated : RequestID)
    (h : m.requestSource = (request, some sink) :: rest)
    (hfresh : (request.intoProto generated).reqId ∉ m.requestIds) :
    Effect decode .other m { m with
      requestSource := rest
      dispatched := m.dispatched ++ [request.intoProto generated]
      callbacks := m.callbacks.insert (request.intoProto generated).reqId sink
      registered := m.registered ++ [(request.intoProto generated, sink)] }
  | exit (m) : Effect decode .other m { m with requestSource := [] }
  | send (m) (message : Message π) :
    Effect decode (.send message) m { m with
      inFlight := m.inFlight ++ [message], sentByServer := m.sentByServer ++ [message] }
  | handle (m) (message : Message π) (rest : List (Message π)) (h : m.inFlight = message :: rest)
    (hstage : m.stage = .listening) :
    Effect decode (.handle message) m
      ({ m with inFlight := rest, collected := m.collected ++ [message] }.collect decode message)
  | close (m) (error : Option Error) (hstage : m.stage = .listening) :
    Effect decode .other m { m with stage := .closing error, closedWith := some error }
  | drain (m) (error : Option Error) (hstage : m.stage = .closing error) :
    Effect decode .other m (m.drain error)
  | stop (m) (hstage : m.stage = .listening ∨ m.stage = .drained) :
    Effect decode .stop m { m with stage := .gone }
  | panic (m) (hstage : m.stage = .drained) : Effect decode .other m { m with stage := .gone }

theorem Effect.trans_eq {label : Label π} {m m' m'' : Multiplexer ρ π α}
    (h : Effect decode label m m') (he : m' = m'') : Effect decode label m m'' := he ▸ h

namespace State

/-- The event that the listener is about to receive. -/
def nextEvent (s : State ρ π α) : Option (ServerEvent π) :=
  if s.listener = .listening ∧ 0 < s.arrived then s.inFlight.head? else none

/-- The label of a step. -/
def label (s : State ρ π α) : Action ρ π → Label π
  | .server (.message message) => .send message
  | .listen =>
    match s.nextEvent with
    | some (.message message) => .handle message
    | _ => .other
  | .shutDownRuntime => .stop
  | _ => .other

/-! ## Every step has an effect -/

theorem listenMessage_res (s : State ρ π α) (r : Res π) :
    (s.listenMessage decode (some (.res r))).multiplexer =
      s.multiplexer.deliver r.reqId ((ServerBody.res r).reply decode) := by
  have hm : s.multiplexer.callbacks = s.callbacks := rfl
  unfold listenMessage ResponseCollector.collect ResponseCollector.collectRes ServerBody.reply
  dsimp only
  rcases hl : s.callbacks.lookup r.reqId with _ | _ | _
  case none =>
    rcases (TransactionResponse.tryFromRes decode r).run with
      _ | _ | _ | _ | _ | _ | _ | _ <;>
      simp only [Multiplexer.deliver, hm, hl]
  all_goals
    rcases (TransactionResponse.tryFromRes decode r).run with
      _ | _ | _ | _ | _ | _ | _ | _ <;>
      simp only [Multiplexer.deliver, hm, hl] <;> rfl

theorem listenMessage_resPart (s : State ρ π α) (p : ResPart π) :
    (s.listenMessage decode (some (.resPart p))).multiplexer =
      s.multiplexer.deliver p.reqId ((ServerBody.resPart p).reply decode) := by
  have hm : s.multiplexer.callbacks = s.callbacks := rfl
  obtain ⟨requestId, body⟩ := p
  rcases body with _ | queryRes | (_ | _ | _ | error)
  case none | some.streamRes.none | some.streamRes.some.done => rfl
  all_goals
    unfold listenMessage ResponseCollector.collect ResponseCollector.collectResPart ServerBody.reply
    dsimp only
    rcases hl : s.callbacks.lookup requestId with _ | _ | _
  case some.queryRes.none =>
    rcases (TransactionResponse.tryFromPart decode queryRes).run with _ | _ | _ <;>
      simp only [Multiplexer.deliver, hm, hl]
  case some.queryRes.some.oneShot | some.queryRes.some.streamed =>
    rcases (TransactionResponse.tryFromPart decode queryRes).run with _ | _ | _ <;>
      simp only [Multiplexer.deliver, hm, hl] <;> rfl
  all_goals simp only [Multiplexer.deliver, hm, hl]
  all_goals rfl

theorem listenMessage_multiplexer (s : State ρ π α) (message : Message π) :
    (s.listenMessage decode message).multiplexer = s.multiplexer.collect decode message := by
  match message with
  | none => rfl
  | some (.res r) => exact s.listenMessage_res r
  | some (.resPart p) => exact s.listenMessage_resPart p

variable {s t : State ρ π α}

theorem call_effect {request : TransactionRequest ρ} (h : s.call request = some t) :
    Effect decode .other s.multiplexer t.multiplexer := by
  have hns : ∀ requestId, request ≠ .stream requestId := by
    rintro requestId rfl
    cases h
  cases request with
  | stream requestId => cases h
  | _ =>
    simp only [call] at h
    split_ifs at h
    · obtain rfl := Option.some.inj h
      exact .accept _ _ hns
    · obtain rfl := Option.some.inj h
      exact .refuse _

theorem submit_effect {index : ℕ} (h : s.submit index = some t) :
    Effect decode .other s.multiplexer t.multiplexer := by
  unfold submit at h
  split at h
  · cases h
  · dsimp only at h
    split_ifs at h
    · obtain rfl := Option.some.inj h
      exact .withdraw _ _
    · obtain rfl := Option.some.inj h
      exact .submit _ _ _ _ ‹_›

/-- A call to which no sink exists is unreachable. -/
theorem unreachable_of_sinkExists {call : ℕ} (h : s.sinkExists call = false) :
    s.multiplexer.Unreachable call := by
  rw [sinkExists, Bool.or_eq_false_iff, Bool.and_eq_false_iff] at h
  obtain ⟨hqueue, hmap⟩ := h
  refine ⟨fun r hr sink hsink hcall => ?_, ?_⟩
  · rw [List.any_eq_false] at hqueue
    refine hqueue r hr ?_
    rw [Option.mem_def.mp hsink]
    exact decide_eq_true hcall
  · obtain hgone | hmap := hmap
    · have halive : s.listener.isAlive = false := by
        rw [collectorExists, Bool.or_eq_false_iff] at hgone
        exact hgone.2
      cases hl : s.listener with
      | finished => exact .inl (by rw [multiplexer, hl]; rfl)
      | panicked | dropped => exact .inr (.inl (by rw [multiplexer, hl]; rfl))
      | _ =>
        rw [hl] at halive
        cases halive
    · refine .inr (.inr fun requestId sink hsink hcall => ?_)
      rw [List.any_eq_false] at hmap
      exact hmap _ (AList.mem_lookup_iff.mp hsink) (decide_eq_true hcall)

theorem read_effect {call : ℕ} (h : s.read call = some t) :
    Effect decode .other s.multiplexer t.multiplexer := by
  unfold read at h
  dsimp only at h
  split at h
  · cases h
  rename_i hopen
  rw [Bool.or_eq_true, not_or] at hopen
  have hend : (s.channels call).ended = false := Bool.of_not_eq_true hopen.2
  split at h
  · obtain rfl := Option.some.inj h
    exact .take _ _ _ hend ‹_›
  · split_ifs at h
    · obtain rfl := Option.some.inj h
      exact .askMoreFailed _ _ _ hend ‹_›
    · obtain rfl := Option.some.inj h
      exact .askMore _ _ _ hend ‹_›
  · split_ifs at h with hsink
    obtain rfl := Option.some.inj h
    exact .atEnd _ _ hend ‹_› (unreachable_of_sinkExists (Bool.of_not_eq_true hsink))

theorem flush_flatten (b : TransactionRequestBuffer ρ) : b.flush.flatten = b.reqs := by
  unfold TransactionRequestBuffer.flush
  split_ifs with h
  · exact (List.isEmpty_iff.mp h).symm
  · exact List.flatten_singleton

theorem multiplexer_dispatched (s : State ρ π α) :
    s.multiplexer.dispatched = s.handed.flatten ++ s.requestBuffer.reqs ++ s.dispatch.held := rfl

/-- Batching only moves requests on. -/
theorem effect_of_dispatched {m : Multiplexer ρ π α} {label : Label π} (requests : List (Req ρ))
    (h : Effect decode label m { t.multiplexer with dispatched := requests })
    (hd : t.multiplexer.dispatched = requests) : Effect decode label m t.multiplexer := by
  subst hd
  exact h

theorem dispatchLoop_effect {generated : RequestID}
    (h : s.dispatchLoop encodedLen generated = some t) :
    Effect decode .other s.multiplexer t.multiplexer := by
  unfold dispatchLoop at h
  split at h
  next hphase =>
    have hs : s.multiplexer.dispatched = s.handed.flatten ++ s.requestBuffer.reqs := by
      rw [multiplexer_dispatched, hphase]
      exact List.append_nil _
    split_ifs at h
    · obtain rfl := Option.some.inj h
      refine effect_of_dispatched s.multiplexer.dispatched (.skip _) ?_
      rw [hs, multiplexer_dispatched]
      exact List.append_nil _
    · obtain rfl := Option.some.inj h
      refine effect_of_dispatched s.multiplexer.dispatched (.exit _) ?_
      rw [hs, multiplexer_dispatched, exitDispatch, List.flatten_append, flush_flatten]
      exact (List.append_nil _).trans (List.append_nil _)
  next hphase =>
    have hs : s.multiplexer.dispatched = s.handed.flatten ++ s.requestBuffer.reqs := by
      rw [multiplexer_dispatched, hphase]
      exact List.append_nil _
    split at h
    · obtain rfl := Option.some.inj h
      refine effect_of_dispatched s.multiplexer.dispatched (.skip _) ?_
      rw [hs, multiplexer_dispatched, List.flatten_append, flush_flatten]
      exact (List.append_nil _).trans (List.append_nil _)
    · obtain rfl := Option.some.inj h
      refine effect_of_dispatched _ (.dequeue _ _ _ generated ‹_›) ?_
      rw [hs]
      rfl
    · dsimp only at h
      split_ifs at h with hfresh
      · obtain rfl := Option.some.inj h
        refine effect_of_dispatched s.multiplexer.dispatched (.exit _) ?_
        rw [hs, multiplexer_dispatched]
        exact List.append_nil _
      · obtain rfl := Option.some.inj h
        refine effect_of_dispatched _ (.register _ _ _ _ generated ‹_› hfresh) ?_
        rw [hs]
        rfl
  next request hphase =>
    have hs : s.multiplexer.dispatched = s.handed.flatten ++ s.requestBuffer.reqs ++ [request] := by
      rw [multiplexer_dispatched, hphase]
      rfl
    split_ifs at h
    · obtain rfl := Option.some.inj h
      refine effect_of_dispatched s.multiplexer.dispatched (.skip _) ?_
      rw [hs, multiplexer_dispatched, List.flatten_append, List.flatten_singleton]
      exact List.append_nil _
    · obtain rfl := Option.some.inj h
      refine effect_of_dispatched s.multiplexer.dispatched (.skip _) ?_
      rw [hs, multiplexer_dispatched, List.append_assoc _ _ [request]]
      exact List.append_nil _
  next => cases h

theorem serverSend_effect {event : ServerEvent π} (h : s.serverSend event = some t) :
    Effect decode (s.label (.server event)) s.multiplexer t.multiplexer := by
  unfold serverSend at h
  split_ifs at h
  obtain rfl := Option.some.inj h
  have hflight : (s.inFlight ++ [event]).filterMap ServerEvent.message? =
      s.inFlight.filterMap ServerEvent.message? ++ event.message?.toList := by
    rw [List.filterMap_append]
    cases event <;> rfl
  cases event with
  | message message =>
    refine (Effect.send s.multiplexer message).trans_eq ?_
    simp only [multiplexer, handedReqs, hflight]
    rfl
  | _ =>
    refine (Effect.skip s.multiplexer).trans_eq ?_
    simp only [multiplexer, handedReqs, hflight, ServerEvent.message?, Option.toList_none,
      List.append_nil]

theorem listenOnClose_effect (h : s.listenOnClose = some t) :
    Effect decode .other s.multiplexer t.multiplexer := by
  unfold listenOnClose at h
  split at h
  · cases h
  · obtain rfl := Option.some.inj h
    exact .skip _

/-- A step of the listener within one stage. -/
theorem skip_of_stage {phase : ListenPhase} (hphase : s.listener = phase)
    (ht : t.multiplexer = { s.multiplexer with stage := t.listener.stage })
    (hstage : t.listener.stage = phase.stage) :
    Effect decode .other s.multiplexer t.multiplexer := by
  rw [ht, hstage, ← hphase]
  exact .skip _

theorem stage_eq {phase : ListenPhase} (h : s.listener = phase) :
    s.multiplexer.stage = phase.stage := congrArg ListenPhase.stage h

theorem listenMessage_effect {message : Message π} {arrived : ℕ} {inFlight : List (ServerEvent π)}
    (hflight : s.inFlight = .message message :: inFlight) (hphase : s.listener = .listening) :
    Effect decode (.handle message) s.multiplexer
      (State.multiplexer
        ({ s with arrived, inFlight }.listenEvent decode (.message message))) := by
  have hm : s.multiplexer.inFlight = message :: inFlight.filterMap ServerEvent.message? := by
    rw [multiplexer, hflight]
    rfl
  refine (Effect.handle s.multiplexer message _ hm (stage_eq hphase)).trans_eq ?_
  rw [listenEvent, listenMessage_multiplexer]
  rfl

theorem listenEnd_effect {event : ServerEvent π} {arrived : ℕ} {inFlight : List (ServerEvent π)}
    (hflight : s.inFlight = event :: inFlight) (hphase : s.listener = .listening)
    (hevent : event.message? = none) :
    Effect decode .other s.multiplexer
      (State.multiplexer ({ s with arrived, inFlight }.listenEvent decode event)) := by
  have hm : s.inFlight.filterMap ServerEvent.message? =
      inFlight.filterMap ServerEvent.message? := by
    rw [hflight]
    exact List.filterMap_cons_none hevent
  cases event with
  | message message => cases hevent
  | status error =>
    refine (Effect.close s.multiplexer (some error) (stage_eq hphase)).trans_eq ?_
    simp only [listenEvent, multiplexer, hm]
    rfl
  | ended =>
    refine (Effect.close s.multiplexer none (stage_eq hphase)).trans_eq ?_
    simp only [listenEvent, multiplexer, hm]
    rfl

theorem nextEvent_of_arrived {event : ServerEvent π} {arrived : ℕ} {inFlight : List (ServerEvent π)}
    (hphase : s.listener = .listening) (harrived : s.arrived = arrived + 1)
    (hflight : s.inFlight = event :: inFlight) : s.nextEvent = some event := by
  rw [nextEvent, if_pos ⟨hphase, harrived ▸ Nat.succ_pos _⟩, hflight]
  rfl

theorem nextEvent_of_not_arrived (h : ∀ (arrived : ℕ) (event : ServerEvent π)
    (inFlight : List (ServerEvent π)), s.arrived = arrived + 1 → s.inFlight = event :: inFlight →
    False) : s.nextEvent = none := by
  unfold nextEvent
  split_ifs with hevent
  · cases hflight : s.inFlight with
    | nil => rfl
    | cons event inFlight =>
      exact (h (s.arrived - 1) event inFlight (Nat.succ_pred_eq_of_pos hevent.2).symm hflight).elim
  · rfl

theorem nextEvent_of_phase {phase : ListenPhase} (h : s.listener = phase)
    (hne : phase ≠ .listening) : s.nextEvent = none :=
  if_neg fun hl => hne (h.symm.trans hl.1)

theorem label_listen_of_none (h : s.nextEvent = none) :
    s.label (.listen : Action ρ π) = .other := by
  simp only [label, h]

theorem listenLoop_effect (h : s.listenLoop decode = some t) :
    Effect decode (s.label .listen) s.multiplexer t.multiplexer := by
  unfold listenLoop at h
  split at h
  next hphase =>
    split at h
    next arrived event inFlight harrived hflight =>
      obtain rfl := Option.some.inj h
      have hnext := nextEvent_of_arrived hphase harrived hflight
      cases event with
      | message message =>
        simp only [label, hnext]
        exact listenMessage_effect hflight hphase
      | _ =>
        simp only [label, hnext]
        exact listenEnd_effect hflight hphase rfl
    next hnone =>
      rw [label_listen_of_none (nextEvent_of_not_arrived hnone)]
      exact listenOnClose_effect h
  next hphase =>
    rw [label_listen_of_none (nextEvent_of_phase hphase nofun)]
    obtain rfl := Option.some.inj h
    exact skip_of_stage hphase rfl rfl
  next hphase =>
    rw [label_listen_of_none (nextEvent_of_phase hphase nofun)]
    obtain rfl := Option.some.inj h
    exact skip_of_stage hphase rfl rfl
  next hphase =>
    rw [label_listen_of_none (nextEvent_of_phase hphase nofun)]
    obtain rfl := Option.some.inj h
    exact .drain _ _ (stage_eq hphase)
  next hphase =>
    rw [label_listen_of_none (nextEvent_of_phase hphase nofun)]
    obtain rfl := Option.some.inj h
    exact skip_of_stage hphase rfl rfl
  next hphase =>
    rw [label_listen_of_none (nextEvent_of_phase hphase nofun)]
    split at h
    · cases h
    · split_ifs at h
      · obtain rfl := Option.some.inj h
        exact skip_of_stage hphase rfl rfl
      · obtain rfl := Option.some.inj h
        exact .panic _ (stage_eq hphase)
    · obtain rfl := Option.some.inj h
      exact skip_of_stage hphase rfl rfl
  next => cases h

theorem resolveOnClose_effect {registration : ℕ} (h : s.resolveOnClose registration = some t) :
    Effect decode .other s.multiplexer t.multiplexer := by
  unfold resolveOnClose at h
  split_ifs at h
  obtain rfl := Option.some.inj h
  exact .skip _

theorem closeLoop_effect (h : s.closeLoop = some t) :
    Effect decode .other s.multiplexer t.multiplexer := by
  unfold closeLoop at h
  split at h
  case h_3 =>
    obtain ⟨u, hu, rfl⟩ := Option.map_eq_some_iff.mp h
    exact (resolveOnClose_effect hu).trans_eq rfl
  case h_7 => cases h
  all_goals
    try split_ifs at h
    obtain rfl := Option.some.inj h
    exact .skip _

theorem drop_effect (h : s.drop = some t) : Effect decode .other s.multiplexer t.multiplexer := by
  unfold drop at h
  split_ifs at h
  obtain rfl := Option.some.inj h
  dsimp only
  split_ifs <;> exact .skip _

theorem runCallback_effect (h : s.runCallback = some t) :
    Effect decode .other s.multiplexer t.multiplexer := by
  unfold runCallback at h
  split at h
  · cases h
  · obtain rfl := Option.some.inj h
    exact .skip _

theorem shutDownRuntime_effect (h : s.shutDownRuntime = some t) :
    Effect decode .stop s.multiplexer t.multiplexer := by
  unfold shutDownRuntime at h
  split_ifs at h with hwaiting
  obtain rfl := Option.some.inj h
  rw [Bool.and_eq_true] at hwaiting
  refine .stop _ ?_
  cases hphase : s.listener with
  | listening => exact .inl (stage_eq hphase)
  | invoking error rest => exact .inr (stage_eq hphase)
  | _ =>
    rw [hphase] at hwaiting
    cases hwaiting.2

end State

/-- **Every step of a transaction has an effect on the multiplexer.** -/
theorem step_effect {s t : State ρ π α} {a : Action ρ π}
    (h : step decode encodedLen s a = some t) :
    Effect decode (s.label a) s.multiplexer t.multiplexer := by
  cases a with
  | call request => exact State.call_effect h
  | submit index => exact State.submit_effect h
  | read call => exact State.read_effect h
  | dispatch generated => exact State.dispatchLoop_effect h
  | server event => exact State.serverSend_effect h
  | listen => exact State.listenLoop_effect h
  | resolve registration => exact State.resolveOnClose_effect h
  | close => exact State.closeLoop_effect h
  | drop => exact State.drop_effect h
  | shutDownRuntime => exact State.shutDownRuntime_effect h
  | runCallback => exact State.runCallback_effect h
  | arrive =>
    simp only [step, State.arrive] at h
    split_ifs at h
    obtain rfl := Option.some.inj h
    exact .skip _
  | onClose =>
    simp only [step] at h
    split_ifs at h
    obtain rfl := Option.some.inj h
    exact .skip _
  | signalShutdown | closeRuntime | handlerDies =>
    obtain rfl := Option.some.inj h
    exact .skip _

end TypeDBDriver.Transaction
