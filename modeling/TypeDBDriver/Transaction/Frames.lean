import TypeDBDriver.Transaction.Transmitter

/-!
# What the steps of a transaction leave alone

* `call_frame`, `submit_frame`, `read_frame`, `listenLoop_frame` and the like: a step as the update
  of the fields that it may change.
* `Aside`, `step_aside`: what the listener, the dispatch loop and the callers work with, and the steps
  that leave it alone.
-/

namespace TypeDBDriver.Transaction.State

variable {ρ π α : Type} {decode : π → Decode Error α} {s t : State ρ π α}

theorem call_frame {request : TransactionRequest ρ} (h : s.call request = some t) :
    ∃ nextCall admitted refused, t = { s with nextCall, admitted, refused } := by
  unfold call at h
  split at h
  · cases h
  · split_ifs at h
    · obtain rfl := Option.some.inj h
      exact ⟨_, _, _, rfl⟩
    · obtain rfl := Option.some.inj h
      exact ⟨_, _, _, rfl⟩

theorem submit_frame {index : ℕ} (h : s.submit index = some t) :
    ∃ admitted refused requestSource channels,
      t = { s with admitted, refused, requestSource, channels } := by
  unfold submit at h
  split at h
  · cases h
  · dsimp only at h
    split_ifs at h
    · obtain rfl := Option.some.inj h
      exact ⟨_, _, _, _, rfl⟩
    · obtain rfl := Option.some.inj h
      exact ⟨_, _, _, _, rfl⟩

theorem read_frame {call : ℕ} (h : s.read call = some t) :
    ∃ requestSource channels, t = { s with requestSource, channels } := by
  unfold read at h
  dsimp only at h
  split at h
  · cases h
  split at h
  · obtain rfl := Option.some.inj h
    exact ⟨_, _, rfl⟩
  · split_ifs at h
    · obtain rfl := Option.some.inj h
      exact ⟨_, _, rfl⟩
    · obtain rfl := Option.some.inj h
      exact ⟨_, _, rfl⟩
  · split_ifs at h
    obtain rfl := Option.some.inj h
    exact ⟨_, _, rfl⟩

theorem serverSend_frame {event : ServerEvent π} (h : s.serverSend event = some t) :
    ∃ inFlight serverEnded sentByServer,
      t = { s with inFlight, serverEnded, sentByServer } := by
  unfold serverSend at h
  split_ifs at h
  obtain rfl := Option.some.inj h
  exact ⟨_, _, _, rfl⟩

theorem arrive_frame (h : s.arrive = some t) : ∃ arrived, t = { s with arrived } := by
  unfold arrive at h
  split_ifs at h
  obtain rfl := Option.some.inj h
  exact ⟨_, rfl⟩

theorem resolveOnClose_frame {registration : ℕ} (h : s.resolveOnClose registration = some t) :
    ∃ resolved, t = { s with resolved } := by
  unfold resolveOnClose at h
  split_ifs at h
  obtain rfl := Option.some.inj h
  exact ⟨_, rfl⟩

theorem dispatchLoop_frame {encodedLen : Req ρ → ℕ} {generated : RequestID}
    (h : s.dispatchLoop encodedLen generated = some t) :
    ∃ callbacks requestSource dispatch requestBuffer handed shutdownSignals registered,
      t = { s with
        callbacks, requestSource, dispatch, requestBuffer, handed, shutdownSignals,
        registered } := by
  unfold dispatchLoop at h
  split at h
  · split_ifs at h
    · obtain rfl := Option.some.inj h
      exact ⟨_, _, _, _, _, _, _, rfl⟩
    · obtain rfl := Option.some.inj h
      exact ⟨_, _, _, _, _, _, _, rfl⟩
  · split at h
    · obtain rfl := Option.some.inj h
      exact ⟨_, _, _, _, _, _, _, rfl⟩
    · obtain rfl := Option.some.inj h
      exact ⟨_, _, _, _, _, _, _, rfl⟩
    · dsimp only at h
      split_ifs at h
      · obtain rfl := Option.some.inj h
        exact ⟨_, _, _, _, _, _, _, rfl⟩
      · obtain rfl := Option.some.inj h
        exact ⟨_, _, _, _, _, _, _, rfl⟩
  · split_ifs at h
    · obtain rfl := Option.some.inj h
      exact ⟨_, _, _, _, _, _, _, rfl⟩
    · obtain rfl := Option.some.inj h
      exact ⟨_, _, _, _, _, _, _, rfl⟩
  · cases h

theorem runCallback_frame (h : s.runCallback = some t) :
    ∃ handlerQueue invoked, t = { s with handlerQueue, invoked } := by
  unfold runCallback at h
  split at h
  · cases h
  · obtain rfl := Option.some.inj h
    exact ⟨_, _, rfl⟩

theorem shutDownRuntime_frame (h : s.shutDownRuntime = some t) :
    ∃ onCloseSource, t = { s with listener := .dropped, onCloseSource } := by
  unfold shutDownRuntime at h
  split_ifs at h
  obtain rfl := Option.some.inj h
  exact ⟨_, rfl⟩

theorem drop_frame (h : s.drop = some t) :
    ∃ isOpen shutdownSignals,
      t = { s with dropped := true, closer := .done, isOpen, shutdownSignals } := by
  unfold drop at h
  split_ifs at h
  obtain rfl := Option.some.inj h
  dsimp only
  split_ifs
  · exact ⟨_, _, rfl⟩
  · exact ⟨_, _, rfl⟩

theorem closeLoop_frame (h : s.closeLoop = some t) :
    ∃ isOpen error closer nextRegistration onCloseSource resolved shutdownSignals,
      t = { s with
        isOpen, error, closer, nextRegistration, onCloseSource, resolved, shutdownSignals } := by
  unfold closeLoop at h
  split at h
  case h_1 =>
    split_ifs at h
    obtain rfl := Option.some.inj h
    exact ⟨_, _, _, _, _, _, _, rfl⟩
  case h_3 =>
    obtain ⟨u, hu, rfl⟩ := Option.map_eq_some_iff.mp h
    obtain ⟨resolved, rfl⟩ := resolveOnClose_frame hu
    exact ⟨_, _, _, _, _, _, _, rfl⟩
  case h_6 =>
    split_ifs at h
    obtain rfl := Option.some.inj h
    exact ⟨_, _, _, _, _, _, _, rfl⟩
  case h_7 => cases h
  all_goals
    obtain rfl := Option.some.inj h
    exact ⟨_, _, _, _, _, _, _, rfl⟩

/-! ## Steps aside -/

/-- The listener, the dispatch loop, the sinks and the calls that were refused are as they were. -/
structure Aside (s t : State ρ π α) : Prop where
  listener : t.listener = s.listener
  closedWith : t.closedWith = s.closedWith
  dispatch : t.dispatch = s.dispatch
  requestSource : t.requestSource = s.requestSource
  callbacks : t.callbacks = s.callbacks
  refused : t.refused = s.refused

/-- The steps of the server, the network, the user's handle and the callbacks of `on_close`. -/
def isAside : Action ρ π → Bool
  | .server _ | .arrive | .onClose | .resolve _ | .close | .drop | .signalShutdown
  | .closeRuntime | .runCallback | .handlerDies => true
  | _ => false

/-- Such a step leaves the rest alone, and the error too unless it is one of `close`. -/
theorem step_aside {encodedLen : Req ρ → ℕ} {a : Action ρ π} (ha : isAside a = true)
    (h : step decode encodedLen s a = some t) :
    s.Aside t ∧ (a ≠ .close → t.error = s.error) := by
  cases a with
  | server event =>
    obtain ⟨_, _, _, rfl⟩ := serverSend_frame h
    exact ⟨⟨rfl, rfl, rfl, rfl, rfl, rfl⟩, fun _ => rfl⟩
  | arrive =>
    obtain ⟨_, rfl⟩ := arrive_frame h
    exact ⟨⟨rfl, rfl, rfl, rfl, rfl, rfl⟩, fun _ => rfl⟩
  | onClose =>
    simp only [step] at h
    split_ifs at h
    obtain rfl := Option.some.inj h
    exact ⟨⟨rfl, rfl, rfl, rfl, rfl, rfl⟩, fun _ => rfl⟩
  | resolve registration =>
    obtain ⟨_, rfl⟩ := resolveOnClose_frame h
    exact ⟨⟨rfl, rfl, rfl, rfl, rfl, rfl⟩, fun _ => rfl⟩
  | close =>
    obtain ⟨_, _, _, _, _, _, _, rfl⟩ := closeLoop_frame h
    exact ⟨⟨rfl, rfl, rfl, rfl, rfl, rfl⟩, fun hne => absurd rfl hne⟩
  | drop =>
    obtain ⟨_, _, rfl⟩ := drop_frame h
    exact ⟨⟨rfl, rfl, rfl, rfl, rfl, rfl⟩, fun _ => rfl⟩
  | runCallback =>
    obtain ⟨_, _, rfl⟩ := runCallback_frame h
    exact ⟨⟨rfl, rfl, rfl, rfl, rfl, rfl⟩, fun _ => rfl⟩
  | signalShutdown | closeRuntime | handlerDies =>
    obtain rfl := Option.some.inj h
    exact ⟨⟨rfl, rfl, rfl, rfl, rfl, rfl⟩, fun _ => rfl⟩
  | call | submit | read | dispatch | listen | shutDownRuntime => cases ha

/-! ## The listener -/

theorem sentOr_frame {poisoned : Bool} {c c' : ResponseCollector α}
    {channels : Option (Channels α)} (h : c.sentOr poisoned channels = .handled c') :
    ∃ channels, c' = { c with channels } := by
  cases channels with
  | none => cases h
  | some channels =>
    cases h
    exact ⟨channels, rfl⟩

/-- A message changes callbacks and channels only. -/
theorem collect_frame {message : Message π} {c c' : ResponseCollector α}
    (h : c.collect decode message = .handled c') :
    ∃ callbacks channels, c' = { c with callbacks, channels } := by
  match message with
  | none =>
    cases h
    exact ⟨_, _, rfl⟩
  | some (.res r) =>
    simp only [ResponseCollector.collect, ResponseCollector.collectRes] at h
    split at h
    · cases h
    · split at h
      · cases h
      · cases h
        exact ⟨_, _, rfl⟩
      · obtain ⟨channels, rfl⟩ := sentOr_frame h
        exact ⟨_, _, rfl⟩
      · cases h
        exact ⟨_, _, rfl⟩
  | some (.resPart p) =>
    simp only [ResponseCollector.collect, ResponseCollector.collectResPart] at h
    split at h
    · split at h
      · cases h
      · split at h
        · cases h
        · cases h
        · obtain ⟨channels, rfl⟩ := sentOr_frame h
          exact ⟨_, _, rfl⟩
    · cases h
      exact ⟨_, _, rfl⟩
    · split at h
      · cases h
      · obtain ⟨channels, rfl⟩ := sentOr_frame h
        exact ⟨_, _, rfl⟩
    · cases h
      exact ⟨_, _, rfl⟩
    · split at h
      · cases h
      · obtain ⟨channels, rfl⟩ := sentOr_frame h
        exact ⟨_, _, rfl⟩
    · cases h
      exact ⟨_, _, rfl⟩

/-- A message changes callbacks and channels, or the listener does not get past it. -/
theorem listenMessage_frame (decode : π → Decode Error α) (s : State ρ π α) (message : Message π) :
    ∃ callbacks channels poisoned listener onCloseSource,
      s.listenMessage decode message =
        { s with callbacks, channels, poisoned, listener, onCloseSource } ∧
      (listener = s.listener ∨ listener = .blocked ∨ listener = .panicked) := by
  unfold listenMessage
  split
  next collector hcollect =>
    obtain ⟨callbacks, channels, rfl⟩ := collect_frame hcollect
    exact ⟨_, _, _, _, _, rfl, .inl rfl⟩
  next => exact ⟨_, _, _, _, _, rfl, .inl rfl⟩
  next => exact ⟨_, _, _, _, _, rfl, .inr (.inr rfl)⟩
  next => exact ⟨_, _, _, _, _, rfl, .inr (.inl rfl)⟩

/-- The listener changes nothing of the calls, the dispatch loop and `close`. -/
theorem listenLoop_frame (h : s.listenLoop decode = some t) :
    ∃ (c : ResponseCollector α) (arrived : ℕ) (inFlight : List (ServerEvent π))
      (listener : ListenPhase) (onCloseSource recorded : List ℕ)
      (handlerQueue : List (ℕ × Option Error)) (shutdownSignals : ℕ)
      (collected : List (Message π)) (closedWith : Option (Option Error)),
      t = { s with
        toResponseCollector := c, arrived, inFlight, listener, onCloseSource, recorded,
        handlerQueue, shutdownSignals, collected, closedWith } := by
  unfold listenLoop at h
  split at h
  next =>
    split at h
    next arrived event inFlight _ _ =>
      obtain rfl := Option.some.inj h
      cases event with
      | message message =>
        obtain ⟨callbacks, channels, poisoned, listener, onCloseSource, ht, -⟩ :=
          listenMessage_frame decode
            { s with arrived, inFlight, collected := s.collected ++ [message] } message
        exact ⟨_, _, _, _, _, _, _, _, _, _, ht⟩
      | status error => exact ⟨_, _, _, _, _, _, _, _, _, _, rfl⟩
      | ended => exact ⟨_, _, _, _, _, _, _, _, _, _, rfl⟩
    next =>
      unfold listenOnClose at h
      split at h
      · cases h
      · obtain rfl := Option.some.inj h
        exact ⟨_, _, _, _, _, _, _, _, _, _, rfl⟩
  next error _ =>
    obtain rfl := Option.some.inj h
    exact ⟨_, _, _, _, _, _, _, _, _, _, rfl⟩
  next error _ =>
    obtain rfl := Option.some.inj h
    exact ⟨_, _, _, _, _, _, _, _, _, _, rfl⟩
  next error _ =>
    obtain rfl := Option.some.inj h
    exact ⟨_, _, _, _, _, _, _, _, _, _, rfl⟩
  next error _ =>
    obtain rfl := Option.some.inj h
    exact ⟨_, _, _, _, _, _, _, _, _, _, rfl⟩
  next error rest _ =>
    split at h
    · cases h
    · split_ifs at h
      · obtain rfl := Option.some.inj h
        exact ⟨_, _, _, _, _, _, _, _, _, _, rfl⟩
      · obtain rfl := Option.some.inj h
        exact ⟨_, _, _, _, _, _, _, _, _, _, rfl⟩
    · obtain rfl := Option.some.inj h
      exact ⟨_, _, _, _, _, _, _, _, _, _, rfl⟩
  next => cases h

end TypeDBDriver.Transaction.State
