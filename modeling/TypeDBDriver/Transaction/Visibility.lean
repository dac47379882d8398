import TypeDBDriver.Transaction.OnClose
import TypeDBDriver.Transaction.Rejections

/-!
# The error that closed a transaction

* `State.closedBy`: the error for which the listener has closed the transaction.
* `Watched`, `watched`: a transaction, and the errors with which requests were rejected: when they
  were called, while they were queued or registered, or when they asked for more.
* `State.Recorded`: once the listener has recorded the error, it stays; **`Recorded.step`**.
* `Watched.ErrorVisible`: requests are rejected with the error that closed the transaction, and no
  `close` replaces it.
* `State.Timely`: no call looks at the transaction before the error is recorded, no `close` writes
  its own error after that, no request is sent to a dispatch loop that has ended, and no party ends
  with sinks in its hands that the listener did not drain.
* **`errorVisible_of_reaches`**: in runs that are timely the error stays visible.
* `not_errorVisible`: a `close` that is under way replaces the error of the server.
-/

namespace TypeDBDriver.Transaction

open Transition (System)

variable {ρ π α : Type} {decode : π → Decode Error α} {encodedLen : Req ρ → ℕ}

/-! ## The listener's error -/

/-- The error for which the listener has closed the transaction. -/
def State.closedBy (s : State ρ π α) : Option Error :=
  match s.listener with
  | .listening | .closing _ | .blocked => none
  | _ => s.closedWith.join

/-- The listener has closed the transaction, and has not recorded its error yet. -/
def ListenPhase.isOpenCleared : ListenPhase → Bool
  | openCleared (some _) => true
  | _ => false

/-- What the listener closes the transaction with is known, and recorded in time. -/
structure State.Recorded (s : State ρ π α) : Prop where
  listening : s.listener = .listening → s.closedWith = none
  closing : ∀ error, s.listener.error? = some error → s.closedWith = some error
  recorded : ∀ error, s.closedBy = some error → s.listener.isOpenCleared = false →
    s.error = some error

namespace State

variable {s t : State ρ π α}

/-- A step that changes nothing of the listener and of the error. -/
theorem Recorded.of_eq (hs : s.Recorded) (hlistener : t.listener = s.listener)
    (hclosedWith : t.closedWith = s.closedWith) (herror : t.error = s.error) : t.Recorded := by
  have hclosedBy : t.closedBy = s.closedBy := by rw [closedBy, closedBy, hlistener, hclosedWith]
  refine ⟨fun h => ?_, fun error h => ?_, fun error h hcleared => ?_⟩
  · rw [hclosedWith]
    exact hs.listening (hlistener ▸ h)
  · rw [hclosedWith]
    exact hs.closing error (hlistener ▸ h)
  · rw [herror]
    exact hs.recorded error (hclosedBy ▸ h) (hlistener ▸ hcleared)

/-- The error is recorded in all later phases. -/
theorem Recorded.error_of_phase (hs : s.Recorded) {phase : ListenPhase} {error : Error}
    (hphase : s.listener = phase) (herror : phase.error? = some (some error))
    (hcleared : phase.isOpenCleared = false) (hclosing : phase ≠ .closing (some error)) :
    s.error = some error := by
  refine hs.recorded error ?_ (by rw [hphase, hcleared])
  have hclosedWith := hs.closing (some error) (by rw [hphase, herror])
  rw [closedBy, hphase, hclosedWith]
  cases phase with
  | closing e =>
    cases herror
    exact absurd rfl hclosing
  | listening | blocked | finished | panicked | dropped => cases herror
  | _ => rfl

/-- The listener goes on within the closing of the transaction. -/
theorem Recorded.advance (hs : s.Recorded) {phase : ListenPhase} {error : Option Error}
    (hl : s.listener.error? = some error) (hlistener : t.listener = phase)
    (hphase : phase.error? = some error) (hclosedWith : t.closedWith = s.closedWith)
    (hrecorded : ∀ e, error = some e → phase.isOpenCleared = false → phase ≠ .closing error →
      t.error = some e) : t.Recorded := by
  have hclosed : t.closedWith = some error := hclosedWith.trans (hs.closing error hl)
  refine ⟨fun h => ?_, fun e h => ?_, fun e h hcleared => ?_⟩
  · rw [hlistener] at h
    rw [h] at hphase
    cases hphase
  · rw [hlistener, hphase] at h
    rw [hclosed, h]
  · refine hrecorded e ?_ (hlistener ▸ hcleared) ?_
    · unfold closedBy at h
      split at h
      · cases h
      · cases h
      · cases h
      · rw [hclosed] at h
        exact h
    · rintro rfl
      simp only [closedBy, hlistener] at h
      cases h

/-- The listener's task has come to its end. -/
theorem Recorded.stop (hs : s.Recorded) (phase : ListenPhase) (hphase : phase.error? = none)
    (hgone : phase ≠ .listening) (hlistener : t.listener = phase)
    (hclosedWith : t.closedWith = s.closedWith) (herror : t.error = s.error)
    (hl : s.listener = .listening ∨ ∃ error rest, s.listener = .invoking error rest) :
    t.Recorded := by
  refine ⟨fun h => absurd (hlistener.symm.trans h) hgone, fun error h => ?_,
    fun error h hcleared => ?_⟩
  · rw [hlistener, hphase] at h
    cases h
  · have hjoin : s.closedWith.join = some error := by
      rw [← hclosedWith]
      unfold closedBy at h
      split at h
      · cases h
      · cases h
      · cases h
      · exact h
    rw [herror]
    rcases hl with hl | ⟨error', rest, hl⟩
    · rw [hs.listening hl] at hjoin
      cases hjoin
    · refine hs.recorded error ?_ (by rw [hl]; rfl)
      rw [closedBy, hl]
      exact hjoin

theorem listenMessage_recorded (hs : s.Recorded) (hl : s.listener = .listening)
    (message : Message π) : (s.listenMessage decode message).Recorded := by
  obtain ⟨callbacks, channels, poisoned, listener, onCloseSource, ht, hlistener⟩ :=
    listenMessage_frame decode s message
  rw [ht]
  rcases hlistener with rfl | rfl | rfl
  · exact hs.of_eq rfl rfl rfl
  · exact hs.stop .blocked rfl nofun rfl rfl rfl (.inl hl)
  · exact hs.stop .panicked rfl nofun rfl rfl rfl (.inl hl)

theorem listenEvent_recorded (hs : s.Recorded) (hl : s.listener = .listening)
    (event : ServerEvent π) : (s.listenEvent decode event).Recorded := by
  cases event with
  | message message =>
    have hs' : { s with collected := s.collected ++ [message] }.Recorded := hs.of_eq rfl rfl rfl
    exact listenMessage_recorded hs' hl message
  | status error => exact ⟨nofun, fun e h => h, nofun⟩
  | ended => exact ⟨nofun, fun e h => h, nofun⟩

theorem listenLoop_recorded (hs : s.Recorded) (h : s.listenLoop decode = some t) :
    t.Recorded := by
  unfold listenLoop at h
  split at h
  next hphase =>
    split at h
    next arrived event inFlight _ _ =>
      obtain rfl := Option.some.inj h
      have hs' : { s with arrived, inFlight }.Recorded := hs.of_eq rfl rfl rfl
      exact listenEvent_recorded hs' hphase event
    next =>
      unfold listenOnClose at h
      split at h
      · cases h
      · obtain rfl := Option.some.inj h
        exact hs.of_eq rfl rfl rfl
  next error hphase =>
    obtain rfl := Option.some.inj h
    refine hs.advance (congrArg ListenPhase.error? hphase) rfl rfl rfl ?_
    rintro e rfl hcleared
    cases hcleared
  next error hphase =>
    obtain rfl := Option.some.inj h
    refine hs.advance (congrArg ListenPhase.error? hphase) rfl rfl rfl ?_
    rintro e rfl - -
    rfl
  next error hphase =>
    obtain rfl := Option.some.inj h
    refine hs.advance (congrArg ListenPhase.error? hphase) rfl rfl rfl ?_
    rintro e rfl - -
    exact hs.error_of_phase hphase rfl rfl nofun
  next error hphase =>
    obtain rfl := Option.some.inj h
    refine hs.advance (congrArg ListenPhase.error? hphase) rfl rfl rfl ?_
    rintro e rfl - -
    exact hs.error_of_phase hphase rfl rfl nofun
  next error rest hphase =>
    split at h
    · cases h
    · split_ifs at h
      · obtain rfl := Option.some.inj h
        refine hs.advance (congrArg ListenPhase.error? hphase) rfl rfl rfl ?_
        rintro e rfl - -
        exact hs.error_of_phase hphase rfl rfl nofun
      · obtain rfl := Option.some.inj h
        exact hs.stop .panicked rfl nofun rfl rfl rfl (.inr ⟨_, _, hphase⟩)
    · obtain rfl := Option.some.inj h
      exact hs.stop .finished rfl nofun rfl rfl rfl (.inr ⟨_, _, hphase⟩)
  next => cases h

theorem closeLoop_recorded (hs : s.Recorded) (h : s.closeLoop = some t)
    (htimely : ∀ registration, s.closer = .registered registration →
      s.closedBy = none ∨ s.listener.isOpenCleared = true) : t.Recorded := by
  unfold closeLoop at h
  split at h
  case h_1 =>
    split_ifs at h
    obtain rfl := Option.some.inj h
    exact hs.of_eq rfl rfl rfl
  case h_3 =>
    obtain ⟨u, hu, rfl⟩ := Option.map_eq_some_iff.mp h
    obtain ⟨resolved, rfl⟩ := resolveOnClose_frame hu
    exact hs.of_eq rfl rfl rfl
  case h_4 registration hcloser =>
    obtain rfl := Option.some.inj h
    refine ⟨hs.listening, hs.closing, fun error hclosedBy hcleared => ?_⟩
    -- the listener has not recorded its error, or has none
    rcases htimely registration hcloser with hnone | hopen
    · exact absurd (hnone.symm.trans hclosedBy) nofun
    · exact absurd (hopen.symm.trans hcleared) nofun
  case h_6 =>
    split_ifs at h
    obtain rfl := Option.some.inj h
    exact hs.of_eq rfl rfl rfl
  case h_7 => cases h
  all_goals
    obtain rfl := Option.some.inj h
    exact hs.of_eq rfl rfl rfl

/-! ## Timely runs -/

/-- Once the listener closes the transaction for an error: no call looks at it between the two writes
of the listener, no `close` writes its error after the listener has written its own, no request is
sent to a dispatch loop that has ended, nor asks it for more; the dispatch loop does not end with
requests in its queue, and none of the two who hold the map ends as the last one with callbacks in
it. -/
def timely (s : State ρ π α) : Action ρ π → Bool
  | .call _ => !s.listener.isOpenCleared
  | .submit _ => s.closedBy.isNone || !s.dispatch.isExited
  | .read call => s.closedBy.isNone || !(s.dispatch.isExited && s.nextIsCont call)
  | .dispatch _ => s.closedBy.isNone || !s.exitsNext ||
    (s.requestSource.all fun r => r.2.isNone) &&
      (s.listener.isAlive || s.callbacks.entries.isEmpty)
  | .listen => s.closedBy.isNone || !s.listenerEnds ||
    (!s.dispatch.isExited || s.callbacks.entries.isEmpty)
  | .shutDownRuntime => s.closedBy.isNone || (!s.dispatch.isExited || s.callbacks.entries.isEmpty)
  | .close =>
    match s.closer with
    | .registered _ => s.closedBy.isNone || s.listener.isOpenCleared
    | _ => true
  | _ => true

def Timely (s : State ρ π α) (a : Action ρ π) : Prop := s.timely a = true

end State

/-- **A timely step leaves the recorded error alone.** -/
theorem State.Recorded.step {s t : State ρ π α} {a : Action ρ π} (hs : s.Recorded)
    (hc : s.Timely a) (h : step decode encodedLen s a = some t) : t.Recorded := by
  cases a with
  | listen => exact State.listenLoop_recorded hs h
  | close =>
    refine State.closeLoop_recorded hs h fun registration hcloser => ?_
    simpa [State.Timely, State.timely, hcloser] using hc
  | shutDownRuntime =>
    have hwaiting : s.listener.isWaiting = true := by
      simp only [Transaction.step, State.shutDownRuntime] at h
      split_ifs at h with hw
      exact (Bool.and_eq_true_iff.mp hw).2
    obtain ⟨_, rfl⟩ := State.shutDownRuntime_frame h
    have hgone : ListenPhase.dropped ≠ .listening := by decide
    refine hs.stop .dropped rfl hgone rfl rfl rfl ?_
    cases hl : s.listener with
    | listening => exact .inl rfl
    | invoking error rest => exact .inr ⟨error, rest, rfl⟩
    | _ =>
      rw [hl] at hwaiting
      cases hwaiting
  | dispatch generated =>
    obtain ⟨_, _, _, _, _, _, _, rfl⟩ := State.dispatchLoop_frame h
    exact hs.of_eq rfl rfl rfl
  | call request =>
    obtain ⟨_, _, _, rfl⟩ := State.call_frame h
    exact hs.of_eq rfl rfl rfl
  | submit index =>
    obtain ⟨_, _, _, _, rfl⟩ := State.submit_frame h
    exact hs.of_eq rfl rfl rfl
  | read call =>
    obtain ⟨_, _, rfl⟩ := State.read_frame h
    exact hs.of_eq rfl rfl rfl
  | _ =>
    obtain ⟨haside, herror⟩ := State.step_aside rfl h
    exact hs.of_eq haside.listener haside.closedWith (herror (by simp))

/-! ## Rejected requests -/

/-- A transaction, and the errors with which requests were rejected, each with the error for which
the listener had closed the transaction by then; a stream that just ends has none. -/
structure Watched (ρ π α : Type) where
  state : State ρ π α
  rejections : List (Option Error × Option Error)

/-- A transaction whose rejections are watched. -/
def watched (decode : π → Decode Error α) (encodedLen : Req ρ → ℕ) :
    System (Watched ρ π α) (Action ρ π) where
  Init w := w.state = initial ∧ w.rejections = []
  step w a := (step decode encodedLen w.state a).map fun t =>
    ⟨t, w.rejections ++ (w.state.rejected t a).map fun told => (told, w.state.closedBy)⟩

/-- Requests are rejected with the error that closed the transaction, and it is not replaced. -/
structure Watched.ErrorVisible (w : Watched ρ π α) : Prop where
  rejected : ∀ x ∈ w.rejections, ∀ error, x.2 = some error → x.1 = some error
  kept : ∀ error, w.state.closedBy = some error → w.state.listener.isOpenCleared = false →
    w.state.error = some error

namespace State

variable {s t : State ρ π α}

theorem call_refused {request : TransactionRequest ρ} (h : s.call request = some t) :
    t.refused = s.refused ∨ t.refused = s.refused ++ [(s.nextCall, s.closedError)] := by
  unfold call at h
  split at h
  · cases h
  · split_ifs at h
    · obtain rfl := Option.some.inj h
      exact .inl rfl
    · obtain rfl := Option.some.inj h
      exact .inr rfl

theorem submit_refused {index : ℕ} (h : s.submit index = some t)
    (hexited : s.dispatch.isExited = false) : t.refused = s.refused := by
  unfold submit at h
  split at h
  · cases h
  · dsimp only at h
    rw [if_neg (by rw [hexited]; simp)] at h
    obtain rfl := Option.some.inj h
    rfl

theorem step_refused {a : Action ρ π} (h : step decode encodedLen s a = some t)
    (hcall : ∀ request, a ≠ .call request) (hsubmit : ∀ index, a ≠ .submit index) :
    t.refused = s.refused := by
  cases a with
  | call request => exact absurd rfl (hcall request)
  | submit index => exact absurd rfl (hsubmit index)
  | dispatch generated =>
    obtain ⟨_, _, _, _, _, _, _, rfl⟩ := dispatchLoop_frame h
    rfl
  | read call =>
    obtain ⟨_, _, rfl⟩ := read_frame h
    rfl
  | listen =>
    obtain ⟨_, _, _, _, _, _, _, _, _, _, rfl⟩ := listenLoop_frame h
    rfl
  | shutDownRuntime =>
    obtain ⟨_, rfl⟩ := shutDownRuntime_frame h
    rfl
  | _ => exact (step_aside rfl h).1.refused

/-- A timely step refuses calls with the error that closed the transaction. -/
theorem refused_of_timely {a : Action ρ π} (hs : s.Recorded) (hc : s.Timely a)
    (h : step decode encodedLen s a = some t) {error : Error} (hclosed : s.closedBy = some error) :
    ∀ r ∈ t.refused.drop s.refused.length, r.2 = error := by
  have hsame : t.refused = s.refused → ∀ r ∈ t.refused.drop s.refused.length, r.2 = error := by
    intro hrefused r hr
    rw [hrefused, List.drop_length] at hr
    cases hr
  cases a with
  | call request =>
    rcases call_refused h with hrefused | hrefused
    · exact hsame hrefused
    · intro r hr
      rw [hrefused, List.drop_left, List.mem_singleton] at hr
      have hcleared : s.listener.isOpenCleared = false := by
        simpa [Timely, timely] using hc
      rw [hr, closedError, hs.recorded error hclosed hcleared]
      rfl
  | submit index =>
    refine hsame (submit_refused h ?_)
    simpa [Timely, timely, hclosed] using hc
  | _ => exact hsame (step_refused h nofun nofun)

/-- A timely step drops sinks only to tell the error that closed the transaction. -/
theorem lost_of_timely {a : Action ρ π} (hs : s.Recorded) (hm : s.multiplexer.Sound)
    (hc : s.Timely a) (h : step decode encodedLen s a = some t) {error : Error}
    (hclosed : s.closedBy = some error) : ∀ call ∈ s.lost t, t.endError call = some error := by
  have hkeeps : s.KeepsSinks t → ∀ call ∈ s.lost t, t.endError call = some error := by
    intro hkeeps call hcall
    rw [hkeeps.lost] at hcall
    cases hcall
  cases a with
  | listen =>
    refine listenLoop_lost hm h ?_ ?_ ?_
    · intro hlistening
      rw [closedBy, hlistening] at hclosed
      cases hclosed
    · intro e hphase
      have hclosedWith := hs.closing e (by rw [hphase]; rfl)
      rw [closedBy, hphase, hclosedWith] at hclosed
      exact hclosed
    · intro hends
      simpa [Timely, timely, hclosed, hends] using hc
  | dispatch generated =>
    refine hkeeps (dispatchLoop_keepsSinks hm h fun hexits => ?_)
    simpa [Timely, timely, hclosed, hexits] using hc
  | shutDownRuntime =>
    have hends : (!s.dispatch.isExited || s.callbacks.entries.isEmpty) = true := by
      simpa [Timely, timely, hclosed] using hc
    simp only [step, shutDownRuntime] at h
    split_ifs at h
    obtain rfl := Option.some.inj h
    exact hkeeps (stopListener_keepsSinks rfl rfl rfl hends)
  | submit index => exact hkeeps (submit_keepsSinks h)
  | read call => exact hkeeps (read_keepsSinks h)
  | call request =>
    obtain ⟨_, _, _, rfl⟩ := call_frame h
    exact hkeeps fun _ h => h
  | _ => exact hkeeps (step_aside rfl h).1.keepsSinks

/-- In a timely step no reader asks for more in vain. -/
theorem continueErrors_of_timely {a : Action ρ π} (hc : s.Timely a)
    (h : step decode encodedLen s a = some t) {error : Error}
    (hclosed : s.closedBy = some error) : s.continueErrors t a = [] := by
  cases a with
  | read call =>
    dsimp only [continueErrors]
    split_ifs with hcont
    · have hexited : s.dispatch.isExited = false := by
        simpa [Timely, timely, hclosed, hcont] using hc
      rw [read_continue h hcont hexited, List.drop_length, List.map_nil]
    · rfl
  | _ => rfl

/-- **A timely step rejects requests with the error that closed the transaction.** -/
theorem rejected_of_timely {a : Action ρ π} (hs : s.Recorded) (hm : s.multiplexer.Sound)
    (hc : s.Timely a) (h : step decode encodedLen s a = some t) {error : Error}
    (hclosed : s.closedBy = some error) : ∀ told ∈ s.rejected t a, told = some error := by
  intro told htold
  rw [rejected, continueErrors_of_timely hc h hclosed, List.append_nil] at htold
  rcases List.mem_append.mp htold with htold | htold
  · obtain ⟨r, hr, rfl⟩ := List.mem_map.mp htold
    rw [refused_of_timely hs hc h hclosed r hr]
  · obtain ⟨call, hcall, rfl⟩ := List.mem_map.mp htold
    exact lost_of_timely hs hm hc h hclosed call hcall

end State

theorem recorded_initial : (initial : State ρ π α).Recorded where
  listening _ := rfl
  closing error h := by
    have hnone : (none : Option (Option Error)) = some error := h
    cases hnone
  recorded error h _ := by
    have hnone : (none : Option Error) = some error := h
    cases hnone

/-- **In timely runs requests are rejected with the error that closed the transaction, and no
`close` replaces it.** -/
theorem errorVisible_of_reaches {w : Watched ρ π α}
    (hw : (watched decode encodedLen).Reaches (fun w a => w.state.Timely a) w) :
    w.ErrorVisible := by
  have hinv : w.state.Recorded ∧ w.state.multiplexer.Sound ∧
      ∀ x ∈ w.rejections, ∀ error, x.2 = some error → x.1 = some error := by
    refine Transition.Reaches.invariant (fun w => w.state.Recorded ∧ w.state.multiplexer.Sound ∧
      ∀ x ∈ w.rejections, ∀ error, x.2 = some error → x.1 = some error) ?_ ?_ hw
    · rintro w ⟨hstate, hrejections⟩
      rw [hstate, hrejections]
      exact ⟨recorded_initial, sound_initial, fun x hx => absurd hx List.not_mem_nil⟩
    · rintro w a w' ⟨hrecorded, hsound, hrejected⟩ hc hstep
      obtain ⟨t, ht, rfl⟩ := Option.map_eq_some_iff.mp hstep
      refine ⟨hrecorded.step hc ht, hsound.effect (step_effect ht),
        fun x hx error hx' => ?_⟩
      rcases List.mem_append.mp hx with hx | hx
      · exact hrejected x hx error hx'
      · obtain ⟨told, htold, rfl⟩ := List.mem_map.mp hx
        exact State.rejected_of_timely hrecorded hsound hc ht hx' told htold
  exact ⟨hinv.2.2, hinv.1.recorded⟩

/-- A watched transaction whose payloads are numbers, to execute runs of it. -/
abbrev watchedNumbers : System (Watched ℕ ℕ ℕ) (Action ℕ ℕ) := watched pure fun _ => 22

theorem watchedNumbers_init : watchedNumbers.Init ⟨initial, []⟩ := ⟨rfl, rfl⟩

/-- The server ends its stream with an error, and the listener records it. -/
def failing : List (Action ℕ ℕ) :=
  [.server (.status (.internal .recvError)), .arrive, .listen, .listen, .listen]

theorem errorVisible_of_failing : ∃ w : Watched ℕ ℕ ℕ,
    watchedNumbers.Reaches (fun w a => w.state.Timely a) w ∧ w.rejections ≠ [] ∧
      w.ErrorVisible := by
  have hrun : (watchedNumbers.runChecked (fun w a => w.state.timely a) ⟨initial, []⟩
      (failing ++ [.call .commit])).any (fun w => !w.rejections.isEmpty) = true := by
    decide +kernel
  obtain ⟨w, hw, htest⟩ := Transition.exists_reaches
    (C := fun (w : Watched ℕ ℕ ℕ) a => w.state.Timely a) (fun _ _ h => h)
    watchedNumbers_init hrun
  refine ⟨w, hw, ?_, errorVisible_of_reaches hw⟩
  intro hnil
  rw [hnil] at htest
  cases htest

/-- A call was refused as if nothing had failed, though the listener had received an error. -/
def hidesRecvError (w : Watched ℕ ℕ ℕ) : Bool :=
  match w.rejections with
  | [(some (.connection .transactionIsClosed), some (.internal .recvError))] => true
  | _ => false

/-- A call of `close` is under way when the listener records the error of the server. -/
theorem not_errorVisible :
    ¬∀ w : Watched ℕ ℕ ℕ, watchedNumbers.Reachable w → w.ErrorVisible := by
  intro h
  have hrun : (watchedNumbers.runChecked (fun _ _ => true) ⟨initial, []⟩
      ([.close, .close, .listen, .close] ++ failing ++ [.close, .call .commit])).any
      hidesRecvError = true := by
    decide +kernel
  obtain ⟨w, hw, htest⟩ := Transition.exists_reachable watchedNumbers_init hrun
  unfold hidesRecvError at htest
  split at htest
  case h_1 hrejections =>
    have heq := (h w hw).rejected _ (hrejections ▸ List.mem_singleton_self _) _ rfl
    cases heq
  case h_2 => cases htest

end TypeDBDriver.Transaction
