import TypeDBDriver.Lib.Guarded
import TypeDBDriver.Transaction.Multiplexer

/-!
# The locks of the response collector

The listener's handling of one event, guard by guard. A guard that is made in the scrutinee of a
`match` lives to the end of the `match`; one that is made in a condition or in a `let` is dropped
with it.

* `Others`: the other threads, which leave the callbacks alone that are there.
* `Handler.collectRes`, `collectResPart`, `close`, `closeWithError`, `handle`: the handlers.
* **`run_collect`**: with nothing in between, a handler does in its steps what
  `ResponseCollector.collect` does in one.
* `KeepsListening`: the listener does not wait for a lock that it holds, and gets to the next event.
* **`keepsListening_iff`**: it does just when decoding a message for a known request does not panic,
  a part of an answer decodes, and nothing is streamed to a one-shot callback. The callback of a
  part that does not decode is removed while the guard of its lookup is held.
-/

namespace TypeDBDriver.Transaction

variable {π α β : Type}

/-! ## The handlers -/

inductive CollectorLock
  | callbacks
  | error
  | onClose
  deriving DecidableEq

/-- A program of the listener. -/
abbrev Handler (α β : Type) : Type := Guarded CollectorLock (ResponseCollector α) β

namespace Handler

def setOpen (isOpen : Bool) : Handler α Unit := Guarded.modify fun c => { c with isOpen }

/-- `callbacks.get` -/
def get (requestId : RequestID) : Handler α (Option ResponseSink) := do
  let c ← Guarded.read
  pure (c.callbacks.lookup requestId)

/-- `callbacks.remove` -/
def remove (requestId : RequestID) : Handler α (Option ResponseSink) := do
  let c ← Guarded.read
  Guarded.modify (ResponseCollector.remove requestId)
  pure (c.callbacks.lookup requestId)

def finish (sink : ResponseSink) (response : Result (TransactionResponse α)) : Handler α Unit :=
  Guarded.modify fun c => { c with channels := sink.finish response c.channels }

/-- The channels after a send, which panics on a one-shot sink. -/
def send (sent : Channels α → Option (Channels α)) : Handler α Unit := do
  let c ← Guarded.read
  let channels ← Guarded.unwrap (sent c.channels)
  Guarded.modify fun c => { c with channels }

def sendResult (sink : ResponseSink) (response : Result (TransactionResponse α)) :
    Handler α Unit := send (sink.sendResult response)

def sendContinuable (sink : ResponseSink) (requestId : RequestID) : Handler α Unit :=
  send (sink.sendContinuable requestId)

section Decode

variable (decode : π → Decode Error α)

def collectRes (res : Res π) : Handler α Unit := do
  let known ← Guarded.withGuard .callbacks .read (get res.reqId)
  if known.isNone then pure ()
  else
    match ← Guarded.unwrap (TransactionResponse.tryFromRes decode res).run with
    | .error err => do
      let sink ← Guarded.withGuard .callbacks .write (remove res.reqId >>= Guarded.unwrap)
      finish sink (.error err)
    | .ok (.query response) =>
      -- the guard is bound by a `let`, and lives on
      Guarded.withGuard .callbacks .write do
        let sink ← get res.reqId >>= Guarded.unwrap
        sendResult sink (.ok (.query response))
    | .ok response => do
      let sink ← Guarded.withGuard .callbacks .write (remove res.reqId >>= Guarded.unwrap)
      finish sink (.ok response)

/-- A removal under its own guard, whose result is dropped. -/
def removeGuarded (requestId : RequestID) : Handler α Unit := do
  let _ ← Guarded.withGuard .callbacks .write (remove requestId)
  pure ()

def collectResPart (part : ResPart π) : Handler α Unit :=
  match part.resPart with
  | some (.queryRes queryRes) =>
    Guarded.withGuard .callbacks .read do
      match ← get part.reqId with
      | some sink => do
        let response ← Guarded.unwrap (TransactionResponse.tryFromPart decode queryRes).run
        match response with
        | .error _ => removeGuarded part.reqId
        | .ok _ => pure ()
        sendResult sink response
      | none => pure ()
  | some (.streamRes none) => removeGuarded part.reqId
  | some (.streamRes (some .cont)) =>
    Guarded.withGuard .callbacks .read do
      match ← get part.reqId with
      | some sink => sendContinuable sink part.reqId
      | none => pure ()
  | some (.streamRes (some .done)) => removeGuarded part.reqId
  | some (.streamRes (some (.error error))) => do
    Guarded.withGuard .callbacks .read do
      match ← get part.reqId with
      | some sink => sendResult sink (.ok (.query (.error (ServerError.fromProto error))))
      | none => pure ()
    removeGuarded part.reqId
  | none => removeGuarded part.reqId

def collect : Message π → Handler α Unit
  | some (.res res) => collectRes decode res
  | some (.resPart part) => collectResPart decode part
  | none => pure ()

/-- Take the callbacks and end each of them. -/
def drain (response : Result (TransactionResponse α)) : Handler α Unit := do
  let listeners ← Guarded.withGuard .callbacks .write do
    let c ← Guarded.read
    Guarded.modify fun c => { c with callbacks := ∅ }
    pure c.callbacks
  Guarded.modify fun c => { c with
    channels := listeners.entries.foldl (fun channels e => e.2.finish response channels)
      c.channels }

def takeOnClose : Handler α (List ℕ) :=
  Guarded.withGuard .onClose .write do
    let c ← Guarded.read
    Guarded.modify fun c => { c with onClose := [] }
    pure c.onClose

/-- `close` up to the `on_close` callbacks that it has to hand over -/
def close : Handler α (List ℕ) := do
  setOpen false
  drain (.ok .close)
  takeOnClose

/-- `close_with_error` up to the `on_close` callbacks that it has to hand over -/
def closeWithError (error : Error) : Handler α (List ℕ) := do
  setOpen false
  Guarded.withGuard .error .write (Guarded.modify fun c => { c with error := some error })
  drain (.error error)
  takeOnClose

/-- The handling of an event. -/
def handle : ServerEvent π → Handler α (List ℕ)
  | .message message => do
    collect decode message
    pure []
  | .status error => closeWithError error
  | .ended => close

end Decode

end Handler

/-! ## Other threads -/

/-- What the other threads do whenever a guard is dropped: they register callbacks, and leave those
alone that are there. -/
structure Others (α : Type) where
  act : ℕ → ResponseCollector α → ResponseCollector α
  lookup_act : ∀ n c requestId sink, c.callbacks.lookup requestId = some sink →
    (act n c).callbacks.lookup requestId = some sink

/-- Nothing happens in between. -/
def Others.none : Others α := ⟨fun _ c => c, fun _ _ _ _ h => h⟩

/-- What the listener does on an event, from a state in which it holds no guard. -/
def Handler.outcome (others : Others α) (p : Handler α β) (c : ResponseCollector α) :
    Guarded.Outcome CollectorLock (ResponseCollector α) β :=
  Guarded.run others.act p 0 [] c

section Run

variable {act : ℕ → ResponseCollector α → ResponseCollector α} {dropped : ℕ}
  {guards : Guards CollectorLock} {c : ResponseCollector α}

namespace Handler

@[simp] theorem run_setOpen (isOpen : Bool) :
    Guarded.run act (setOpen isOpen) dropped guards c =
      .returned () dropped guards { c with isOpen } := rfl

@[simp] theorem run_get (requestId : RequestID) :
    Guarded.run act (get requestId) dropped guards c =
      .returned (c.callbacks.lookup requestId) dropped guards c := rfl

@[simp] theorem run_remove (requestId : RequestID) :
    Guarded.run act (remove requestId) dropped guards c =
      .returned (c.callbacks.lookup requestId) dropped guards (c.remove requestId) := rfl

@[simp] theorem run_finish (sink : ResponseSink) (response : Result (TransactionResponse α)) :
    Guarded.run act (finish sink response) dropped guards c =
      .returned () dropped guards { c with channels := sink.finish response c.channels } := rfl

theorem run_send (sent : Channels α → Option (Channels α)) :
    Guarded.run act (send sent) dropped guards c =
      match sent c.channels with
      | some channels => .returned () dropped guards { c with channels }
      | none => .panicked guards c := by
  cases h : sent c.channels <;> simp [send, h]

@[simp] theorem run_sendResult_oneShot (call : ℕ) (response : Result (TransactionResponse α)) :
    Guarded.run act (sendResult (.oneShot call) response) dropped guards c =
      .panicked guards c := run_send _

@[simp] theorem run_sendResult_streamed (call : ℕ) (response : Result (TransactionResponse α)) :
    Guarded.run act (sendResult (.streamed call) response) dropped guards c =
      .returned () dropped guards { c with channels := c.channels.send call (.result response) } :=
  run_send _

@[simp] theorem run_sendContinuable_oneShot (call : ℕ) (requestId : RequestID) :
    Guarded.run act (sendContinuable (.oneShot call) requestId) dropped guards c =
      .panicked guards c := run_send _

@[simp] theorem run_sendContinuable_streamed (call : ℕ) (requestId : RequestID) :
    Guarded.run act (sendContinuable (.streamed call) requestId) dropped guards c =
      .returned () dropped guards { c with channels := c.channels.send call (.cont requestId) } :=
  run_send _

theorem run_removeGuarded (requestId : RequestID) :
    Guarded.run act (removeGuarded requestId) dropped [] c =
      .returned () (dropped + 1) [] (act dropped (c.remove requestId)) := by
  simp [removeGuarded]

/-- A removal under a guard of the same lock waits for itself. -/
theorem run_removeGuarded_held (requestId : RequestID) (mode : GuardMode) :
    Guarded.run act (removeGuarded requestId) dropped [(.callbacks, mode)] c =
      .deadlocked .callbacks .write := by
  simp [removeGuarded]

/-- A look at a callback under a guard that is dropped after it. -/
theorem run_get_guarded (mode : GuardMode) (requestId : RequestID) :
    Guarded.run act (Guarded.withGuard .callbacks mode (get requestId)) dropped [] c =
      .returned (c.callbacks.lookup requestId) (dropped + 1) [] (act dropped c) := by
  rw [Guarded.run_withGuard_nil, run_get]
  rfl

/-- A callback that is there is taken out under a guard that is dropped after it. -/
theorem run_take_guarded {requestId : RequestID} {sink : ResponseSink}
    (h : c.callbacks.lookup requestId = some sink) :
    Guarded.run act
        (Guarded.withGuard .callbacks .write (remove requestId >>= Guarded.unwrap)) dropped [] c =
      .returned sink (dropped + 1) [] (act dropped (c.remove requestId)) := by
  rw [Guarded.run_withGuard_nil, Guarded.run_bind, run_remove, h]
  rfl

/-- A look at a callback, and what follows under the same guard. -/
theorem run_lookup_guarded (mode : GuardMode) (requestId : RequestID)
    (f : Option ResponseSink → Handler α Unit) :
    Guarded.run act (Guarded.withGuard .callbacks mode (get requestId >>= f)) dropped [] c =
      (Guarded.run act (f (c.callbacks.lookup requestId)) dropped [(.callbacks, mode)] c).bind
        fun a dropped guards c => .returned a (dropped + 1) guards.tail (act dropped c) := by
  rw [Guarded.run_withGuard_nil, Guarded.run_bind, run_get]
  rfl

end Handler

end Run

/-! ## How the handling of a message ends -/

/-- How a message ends that answers a request with or without a callback. -/
inductive Ends (sink? : Option ResponseSink) :
    Reply α → Guarded.Outcome CollectorLock (ResponseCollector α) Unit → Prop
  | unknown (reply : Reply α) (dropped : ℕ) (c : ResponseCollector α) (h : sink? = none) :
    Ends sink? reply (.returned () dropped [] c)
  | removed (dropped : ℕ) (c : ResponseCollector α) :
    Ends sink? .remove (.returned () dropped [] c)
  | deadlocked (sink : ResponseSink) (h : sink? = some sink) :
    Ends sink? .deadlock (.deadlocked .callbacks .write)
  | died (sink : ResponseSink) (guards : Guards CollectorLock) (c : ResponseCollector α)
    (h : sink? = some sink) : Ends sink? .panics (.panicked guards c)
  | panicked (call : ℕ) (response : StreamResponse α) (last : Bool)
    (guards : Guards CollectorLock) (c : ResponseCollector α) (h : sink? = some (.oneShot call)) :
    Ends sink? (.send response true last) (.panicked guards c)
  | sent (sink : ResponseSink) (response : StreamResponse α) (streamed last : Bool) (dropped : ℕ)
    (c : ResponseCollector α) (h : sink? = some sink)
    (hs : streamed = true → ∃ call, sink = .streamed call) :
    Ends sink? (.send response streamed last) (.returned () dropped [] c)

section Ends

variable (decode : π → Decode Error α) (others : Others α) (c : ResponseCollector α)

theorem collectRes_ends (res : Res π) :
    Ends (c.callbacks.lookup res.reqId) ((ServerBody.res res).reply decode)
      (Handler.outcome others (Handler.collectRes decode res) c) := by
  unfold Handler.outcome Handler.collectRes ServerBody.reply
  dsimp only
  rw [Guarded.run_bind, Handler.run_get_guarded, Guarded.Outcome.returned_bind]
  cases hl : c.callbacks.lookup res.reqId with
  | none => exact .unknown _ _ _ rfl
  | some sink =>
    -- the callback is still there when the next guard is taken
    have hl' := others.lookup_act 0 c _ _ hl
    rcases (TransactionResponse.tryFromRes decode res).run with
      _ | err | _ | _ | _ | response | _ | _
    case none =>
      simp only [Option.isNone_some, Bool.false_eq_true, if_false, Guarded.run_bind,
        Guarded.run_unwrap_none, Guarded.Outcome.panicked_bind]
      exact .died sink _ _ rfl
    case some.ok.query =>
      simp only [Option.isNone_some, Bool.false_eq_true, if_false, Guarded.run_withGuard_nil,
        Guarded.run_bind, Handler.run_get, hl', Guarded.run_unwrap_some,
        Guarded.Outcome.returned_bind]
      cases sink with
      | oneShot call =>
        rw [Handler.run_sendResult_oneShot]
        exact .panicked call _ _ _ _ rfl
      | streamed call =>
        rw [Handler.run_sendResult_streamed]
        exact .sent _ _ _ _ _ _ rfl fun _ => ⟨call, rfl⟩
    all_goals
      simp only [Option.isNone_some, Bool.false_eq_true, if_false, Guarded.run_bind,
        Guarded.run_unwrap_some, Handler.run_take_guarded hl', Guarded.Outcome.returned_bind,
        Handler.run_finish]
      exact .sent sink _ _ _ _ _ rfl nofun

theorem collectResPart_ends (part : ResPart π) :
    Ends (c.callbacks.lookup part.reqId) ((ServerBody.resPart part).reply decode)
      (Handler.outcome others (Handler.collectResPart decode part) c) := by
  obtain ⟨requestId, body⟩ := part
  unfold Handler.outcome Handler.collectResPart ServerBody.reply
  dsimp only
  rcases body with _ | queryRes | (_ | _ | _ | error)
  case none | some.streamRes.none | some.streamRes.some.done =>
    rw [Handler.run_removeGuarded]
    exact .removed _ _
  case some.queryRes =>
    dsimp only
    rw [Handler.run_lookup_guarded]
    cases hl : c.callbacks.lookup requestId with
    | none =>
      rcases (TransactionResponse.tryFromPart decode queryRes).run with _ | _ | _ <;>
        exact .unknown _ _ _ rfl
    | some sink =>
      rcases (TransactionResponse.tryFromPart decode queryRes).run with _ | err | response
      · simp only [Guarded.run_bind, Guarded.run_unwrap_none, Guarded.Outcome.panicked_bind]
        exact .died sink _ _ rfl
      · -- the guard of the lookup is still held
        simp only [Guarded.run_bind, Guarded.run_unwrap_some, Guarded.Outcome.returned_bind,
          Handler.run_removeGuarded_held]
        exact .deadlocked sink rfl
      · cases sink with
        | oneShot call =>
          simp only [Guarded.run_bind, Guarded.run_unwrap_some, Guarded.Outcome.returned_bind,
            Handler.run_sendResult_oneShot]
          exact .panicked call _ _ _ _ rfl
        | streamed call =>
          simp only [Guarded.run_bind, Guarded.run_unwrap_some, Guarded.Outcome.returned_bind,
            Handler.run_sendResult_streamed]
          exact .sent _ _ _ _ _ _ rfl fun _ => ⟨call, rfl⟩
  case some.streamRes.some.cont =>
    rw [Handler.run_lookup_guarded]
    rcases c.callbacks.lookup requestId with _ | call | call
    · exact .unknown _ _ _ rfl
    · simp only [Handler.run_sendContinuable_oneShot]
      exact .panicked call _ _ _ _ rfl
    · simp only [Handler.run_sendContinuable_streamed]
      exact .sent _ _ _ _ _ _ rfl fun _ => ⟨call, rfl⟩
  case some.streamRes.some.error =>
    rw [Guarded.run_bind, Handler.run_lookup_guarded]
    rcases c.callbacks.lookup requestId with _ | call | call
    · simp only [Guarded.run_pure, Guarded.Outcome.returned_bind]
      exact .unknown _ _ _ rfl
    · simp only [Handler.run_sendResult_oneShot]
      exact .panicked call _ _ _ _ rfl
    · simp only [Handler.run_sendResult_streamed, Guarded.Outcome.returned_bind]
      exact .sent _ _ _ _ _ _ rfl fun _ => ⟨call, rfl⟩

/-- How a message ends is told by the callback of its request and by what it means for it. -/
theorem collect_ends (body : ServerBody π) :
    Ends (c.callbacks.lookup body.reqId) (body.reply decode)
      (Handler.outcome others (Handler.collect decode (some body)) c) := by
  cases body with
  | res res => exact collectRes_ends decode others c res
  | resPart part => exact collectResPart_ends decode others c part

theorem drain_returns (response : Result (TransactionResponse α)) (dropped : ℕ) :
    ∃ c', Guarded.run others.act (Handler.drain response) dropped [] c =
      .returned () (dropped + 1) [] c' := by
  simp only [Handler.drain, Guarded.run_bind, Guarded.run_withGuard_nil, Guarded.run_read,
    Guarded.run_modify, Guarded.Outcome.returned_bind, Guarded.run_pure, List.tail_cons]
  exact ⟨_, rfl⟩

theorem takeOnClose_returns (dropped : ℕ) :
    ∃ registrations c', Guarded.run others.act Handler.takeOnClose dropped [] c =
      .returned registrations (dropped + 1) [] c' := by
  simp only [Handler.takeOnClose, Guarded.run_withGuard_nil, Guarded.run_bind, Guarded.run_read,
    Guarded.run_modify, Guarded.Outcome.returned_bind, Guarded.run_pure, List.tail_cons]
  exact ⟨_, _, rfl⟩

theorem close_returns :
    ∃ registrations dropped c',
      Handler.outcome others Handler.close c = .returned registrations dropped [] c' := by
  unfold Handler.outcome Handler.close
  obtain ⟨c₁, hdrain⟩ := drain_returns others { c with isOpen := false } (.ok .close) 0
  obtain ⟨registrations, c₂, htake⟩ := takeOnClose_returns others c₁ (0 + 1)
  refine ⟨registrations, 0 + 1 + 1, c₂, ?_⟩
  simp only [Guarded.run_bind, Handler.run_setOpen, Guarded.Outcome.returned_bind, hdrain]
  exact htake

theorem closeWithError_returns (error : Error) :
    ∃ registrations dropped c',
      Handler.outcome others (Handler.closeWithError error) c =
        .returned registrations dropped [] c' := by
  unfold Handler.outcome Handler.closeWithError
  obtain ⟨c₁, hdrain⟩ := drain_returns others
    (others.act 0 { c with isOpen := false, error := some error }) (.error error) (0 + 1)
  obtain ⟨registrations, c₂, htake⟩ := takeOnClose_returns others c₁ (0 + 1 + 1)
  refine ⟨registrations, 0 + 1 + 1 + 1, c₂, ?_⟩
  simp only [Guarded.run_bind, Handler.run_setOpen, Guarded.Outcome.returned_bind,
    Guarded.run_withGuard_nil, Guarded.run_modify, List.tail_cons, hdrain]
  exact htake

end Ends

/-! ## Steps and atomic handling -/

/-- What the handling of a message does in one step agrees with what it does guard by guard. -/
inductive Agrees (c : ResponseCollector α) :
    Collected α → Guarded.Outcome CollectorLock (ResponseCollector α) Unit → Prop
  | handled (c' : ResponseCollector α) (dropped : ℕ) :
    Agrees c (.handled c') (.returned () dropped [] c')
  | unknownRequestId (dropped : ℕ) : Agrees c .unknownRequestId (.returned () dropped [] c)
  | panicked (guards : Guards CollectorLock) (c' : ResponseCollector α) :
    Agrees c (.panicked (decide ((.callbacks, .write) ∈ guards))) (.panicked guards c')
  | blocked : Agrees c .blocked (.deadlocked .callbacks .write)

section Agrees

variable (decode : π → Decode Error α) (c : ResponseCollector α)

theorem remove_of_lookup {requestId : RequestID} (h : c.callbacks.lookup requestId = none) :
    c.remove requestId = c := by
  have hnot : requestId ∉ c.callbacks := AList.lookup_eq_none.mp h
  have herase : c.callbacks.erase requestId = c.callbacks :=
    AList.ext (List.kerase_of_notMem_keys hnot)
  rw [ResponseCollector.remove, herase]

theorem collectRes_agrees (res : Res π) :
    Agrees c (c.collectRes decode res)
      (Handler.outcome .none (Handler.collectRes decode res) c) := by
  unfold Handler.outcome Handler.collectRes ResponseCollector.collectRes
  rw [Guarded.run_bind, Handler.run_get_guarded, Guarded.Outcome.returned_bind]
  cases hl : c.callbacks.lookup res.reqId with
  | none => exact .unknownRequestId _
  | some sink =>
    rcases (TransactionResponse.tryFromRes decode res).run with
      _ | err | _ | _ | _ | response | _ | _
    case none =>
      simp only [Option.isNone_some, Bool.false_eq_true, if_false, Guarded.run_bind, Others.none,
        Guarded.run_unwrap_none, Guarded.Outcome.panicked_bind]
      exact .panicked [] c
    case some.ok.query =>
      simp only [Option.isNone_some, Bool.false_eq_true, if_false, Guarded.run_withGuard_nil,
        Guarded.run_bind, Handler.run_get, Others.none, hl, Guarded.run_unwrap_some,
        Guarded.Outcome.returned_bind]
      cases sink with
      | oneShot call =>
        rw [Handler.run_sendResult_oneShot]
        exact .panicked [(.callbacks, .write)] c
      | streamed call =>
        rw [Handler.run_sendResult_streamed]
        exact .handled _ _
    all_goals
      simp only [Option.isNone_some, Bool.false_eq_true, if_false, Guarded.run_bind,
        Others.none, Guarded.run_unwrap_some, Handler.run_take_guarded hl,
        Guarded.Outcome.returned_bind, Handler.run_finish]
      exact .handled _ _

theorem collectResPart_agrees (part : ResPart π) :
    Agrees c (c.collectResPart decode part)
      (Handler.outcome .none (Handler.collectResPart decode part) c) := by
  obtain ⟨requestId, body⟩ := part
  unfold Handler.outcome Handler.collectResPart ResponseCollector.collectResPart
  dsimp only
  rcases body with _ | queryRes | (_ | _ | _ | error)
  case none | some.streamRes.none | some.streamRes.some.done =>
    rw [Handler.run_removeGuarded]
    exact .handled _ _
  case some.queryRes =>
    dsimp only
    rw [Handler.run_lookup_guarded]
    cases c.callbacks.lookup requestId with
    | none => exact .unknownRequestId _
    | some sink =>
      rcases (TransactionResponse.tryFromPart decode queryRes).run with _ | err | response
      · simp only [Guarded.run_bind, Guarded.run_unwrap_none, Guarded.Outcome.panicked_bind]
        exact .panicked [(.callbacks, .read)] c
      · simp only [Guarded.run_bind, Guarded.run_unwrap_some, Guarded.Outcome.returned_bind,
          Handler.run_removeGuarded_held]
        exact .blocked
      · cases sink with
        | oneShot call =>
          simp only [Guarded.run_bind, Guarded.run_unwrap_some, Guarded.Outcome.returned_bind,
            Handler.run_sendResult_oneShot]
          exact .panicked [(.callbacks, .read)] c
        | streamed call =>
          simp only [Guarded.run_bind, Guarded.run_unwrap_some, Guarded.Outcome.returned_bind,
            Handler.run_sendResult_streamed]
          exact .handled _ _
  case some.streamRes.some.cont =>
    rw [Handler.run_lookup_guarded]
    rcases c.callbacks.lookup requestId with _ | call | call
    · exact .unknownRequestId _
    · simp only [Handler.run_sendContinuable_oneShot]
      exact .panicked [(.callbacks, .read)] c
    · simp only [Handler.run_sendContinuable_streamed]
      exact .handled _ _
  case some.streamRes.some.error =>
    rw [Guarded.run_bind, Handler.run_lookup_guarded]
    rcases hl : c.callbacks.lookup requestId with _ | call | call
    · simp only [Guarded.run_pure, Guarded.Outcome.returned_bind, List.tail_cons, Others.none,
        Handler.run_removeGuarded, remove_of_lookup c hl]
      exact .unknownRequestId _
    · simp only [Handler.run_sendResult_oneShot]
      exact .panicked [(.callbacks, .read)] c
    · simp only [Handler.run_sendResult_streamed, Guarded.Outcome.returned_bind, List.tail_cons,
        Handler.run_removeGuarded]
      exact .handled _ _

/-- **If nothing happens in between, the handling of a message does in its steps what it does in
one.** -/
theorem run_collect (message : Message π) :
    Agrees c (c.collect decode message)
      (Handler.outcome .none (Handler.collect decode message) c) := by
  rcases message with _ | res | part
  · exact .handled c 0
  · exact collectRes_agrees decode c res
  · exact collectResPart_agrees decode c part

end Agrees

/-! ## The listener goes on -/

/-- A part of an answer that does not decode. -/
def ServerBody.Undecodable (decode : π → Decode Error α) : ServerBody π → Prop
  | .resPart ⟨_, some (.queryRes queryRes)⟩ =>
    ∃ err, (TransactionResponse.tryFromPart decode queryRes).run = some (.error err)
  | _ => False

/-- A message on which the decoder panics. -/
def ServerBody.Panics (decode : π → Decode Error α) : ServerBody π → Prop
  | .res r => ¬(TransactionResponse.tryFromRes decode r).Returns
  | .resPart ⟨_, some (.queryRes queryRes)⟩ =>
    ¬(TransactionResponse.tryFromPart decode queryRes).Returns
  | _ => False

/-- A message that is handed to a callback as a part of a stream. -/
def ServerBody.Streamed (decode : π → Decode Error α) : ServerBody π → Prop
  | .res r => ∃ response, (TransactionResponse.tryFromRes decode r).Accepts (.query response)
  | .resPart ⟨_, some (.queryRes queryRes)⟩ =>
    ∃ response, (TransactionResponse.tryFromPart decode queryRes).Accepts response
  | .resPart ⟨_, some (.streamRes (some .cont))⟩ => True
  | .resPart ⟨_, some (.streamRes (some (.error _)))⟩ => True
  | _ => False

theorem ServerBody.undecodable_iff {decode : π → Decode Error α} {body : ServerBody π} :
    body.Undecodable decode ↔ body.reply decode = .deadlock := by
  rcases body with r | ⟨requestId, _ | queryRes | (_ | _ | _ | error)⟩
  case resPart.some.queryRes =>
    unfold Undecodable reply
    dsimp only
    rcases (TransactionResponse.tryFromPart decode queryRes).run with _ | _ | _ <;> simp
  case res =>
    unfold Undecodable reply
    dsimp only
    rcases (TransactionResponse.tryFromRes decode r).run with _ | _ | _ | _ | _ | _ | _ | _ <;>
      simp
  all_goals simp [Undecodable, reply]

theorem ServerBody.panics_iff {decode : π → Decode Error α} {body : ServerBody π} :
    body.Panics decode ↔ body.reply decode = .panics := by
  rcases body with r | ⟨requestId, _ | queryRes | (_ | _ | _ | error)⟩
  case resPart.some.queryRes =>
    unfold Panics reply Decode.Returns
    dsimp only
    rcases (TransactionResponse.tryFromPart decode queryRes).run with _ | _ | _ <;> simp
  case res =>
    unfold Panics reply Decode.Returns
    dsimp only
    rcases (TransactionResponse.tryFromRes decode r).run with _ | _ | _ | _ | _ | _ | _ | _ <;>
      simp
  all_goals simp [Panics, reply]

theorem ServerBody.streamed_iff {decode : π → Decode Error α} {body : ServerBody π} :
    body.Streamed decode ↔ ∃ response last, body.reply decode = .send response true last := by
  rcases body with r | ⟨requestId, _ | queryRes | (_ | _ | _ | error)⟩
  case resPart.some.queryRes =>
    unfold Streamed reply Decode.Accepts
    dsimp only
    rcases (TransactionResponse.tryFromPart decode queryRes).run with _ | _ | _ <;> simp
  case res =>
    unfold Streamed reply Decode.Accepts
    dsimp only
    rcases (TransactionResponse.tryFromRes decode r).run with _ | _ | _ | _ | _ | _ | _ | _ <;>
      simp
  all_goals simp [Streamed, reply]

/-- The listener does not wait for a lock that it holds, and gets to the next event without any. -/
structure KeepsListening (decode : π → Decode Error α) (others : Others α) (event : ServerEvent π)
    (c : ResponseCollector α) : Prop where
  notDeadlocked : ∀ lock mode,
    Handler.outcome others (Handler.handle decode event) c ≠ .deadlocked lock mode
  next : ∃ registrations dropped c',
    Handler.outcome others (Handler.handle decode event) c = .returned registrations dropped [] c'

/-- A message is handled to its end unless its request has a callback that it does not suit. -/
theorem collect_returns_iff (decode : π → Decode Error α) (others : Others α) (body : ServerBody π)
    (c : ResponseCollector α) :
    (∃ dropped c', Handler.outcome others (Handler.collect decode (some body)) c =
        .returned () dropped [] c') ↔
      ∀ sink, c.callbacks.lookup body.reqId = some sink →
        ¬body.Panics decode ∧ ¬body.Undecodable decode ∧
          (body.Streamed decode → ∃ call, sink = .streamed call) := by
  rw [ServerBody.panics_iff, ServerBody.undecodable_iff, ServerBody.streamed_iff]
  have hends := collect_ends decode others c body
  generalize Handler.outcome others (Handler.collect decode (some body)) c = outcome at hends ⊢
  generalize c.callbacks.lookup body.reqId = sink? at hends ⊢
  generalize body.reply decode = reply at hends ⊢
  cases hends with
  | unknown _ dropped c' h =>
    refine iff_of_true ⟨_, _, rfl⟩ fun sink hsink => ?_
    rw [h] at hsink
    cases hsink
  | removed dropped c' =>
    refine iff_of_true ⟨_, _, rfl⟩ fun sink _ => ?_
    simp
  | deadlocked sink h =>
    refine iff_of_false ?_ fun hall => (hall sink h).2.1 rfl
    simp
  | died sink guards c' h =>
    refine iff_of_false ?_ fun hall => (hall sink h).1 rfl
    simp
  | panicked call response last guards c' h =>
    refine iff_of_false ?_ fun hall => ?_
    · simp
    · obtain ⟨call', hcall⟩ := (hall _ h).2.2 ⟨response, last, rfl⟩
      cases hcall
  | sent sink response streamed last dropped c' h hs =>
    refine iff_of_true ⟨_, _, rfl⟩ fun sink' hsink => ?_
    obtain rfl := Option.some.inj (h.symm.trans hsink)
    simpa using hs

/-- **The listener gets to the next event just when decoding an answer to a known request does not
panic, a part of an answer decodes, and nothing is streamed to a one-shot callback.** -/
theorem keepsListening_iff (decode : π → Decode Error α) (others : Others α) (event : ServerEvent π)
    (c : ResponseCollector α) :
    KeepsListening decode others event c ↔
      ∀ body, event = .message (some body) → ∀ sink, c.callbacks.lookup body.reqId = some sink →
        ¬body.Panics decode ∧ ¬body.Undecodable decode ∧
          (body.Streamed decode → ∃ call, sink = .streamed call) := by
  have hnext : KeepsListening decode others event c ↔ ∃ registrations dropped c',
      Handler.outcome others (Handler.handle decode event) c =
        .returned registrations dropped [] c' := by
    refine ⟨fun h => h.next, fun h => ⟨fun lock mode hlock => ?_, h⟩⟩
    obtain ⟨registrations, dropped, c', h⟩ := h
    rw [h] at hlock
    cases hlock
  rw [hnext]
  cases event with
  | status error => exact iff_of_true (closeWithError_returns others c error) nofun
  | ended => exact iff_of_true (close_returns others c) nofun
  | message message =>
    cases message with
    | none => exact iff_of_true ⟨_, _, _, rfl⟩ nofun
    | some body =>
      have hhandle : Handler.outcome others (Handler.handle decode (.message (some body))) c =
          (Handler.outcome others (Handler.collect decode (some body)) c).bind
            fun _ dropped guards c' => .returned [] dropped guards c' :=
        Guarded.run_bind _ _
      have hreturned : (∃ registrations dropped c',
          Handler.outcome others (Handler.handle decode (.message (some body))) c =
            .returned registrations dropped [] c') ↔
          ∃ dropped c', Handler.outcome others (Handler.collect decode (some body)) c =
            .returned () dropped [] c' := by
        rw [hhandle]
        cases Handler.outcome others (Handler.collect decode (some body)) c <;> simp
      rw [hreturned, collect_returns_iff]
      constructor
      · rintro h _ ⟨⟩
        exact h
      · intro h
        exact h body rfl

/-- A row that does not decode, in the answer of a query that is streamed. -/
theorem not_keepsListening :
    ¬∀ (decode : ℕ → Decode Error ℕ) (others : Others ℕ) (event : ServerEvent ℕ)
      (c : ResponseCollector ℕ), KeepsListening decode others event c := by
  intro h
  have hkeeps := h (fun _ => throw (missingResponseField "row")) .none
    (.message (some (.resPart ⟨⟨[7]⟩, some (.queryRes (some (.rowsRes [0])))⟩)))
    ((initial : State ℕ ℕ ℕ).toResponseCollector.register ⟨[7]⟩ (.streamed 0))
  exact hkeeps.notDeadlocked .callbacks .write rfl

end TypeDBDriver.Transaction
