import TypeDBDriver.Transaction.Frames
import TypeDBDriver.Transaction.Multiplexer

/-!
# The callbacks of `on_close`

A registration travels from the queue of `on_close` to the listener, which records it, and when the
transaction closes to the callback handler, which runs it.

* `Registrations`, `Registrations.Effect`: where the registrations are, and what a step does to
  them; **`step_registrations`**.
* `Registrations.Sound`: in every run a callback runs at most once, with the error that closed the
  transaction; **`Sound.effect`**.
* `Registrations.Complete`: in runs that keep the registrations, those recorded are run in order.
* **`notified_of_reaches`**: in these runs every registration has been called exactly once.
* `not_forall_notified`: a registration that is queued when the end arrives is lost.
-/

namespace TypeDBDriver.Transaction

variable {ρ π α : Type} {decode : π → Decode Error α} {encodedLen : Req ρ → ℕ}

/-! ## Phases of the listener -/

namespace ListenPhase

/-- The registrations that a closing listener has still to hand over. -/
def rest : ListenPhase → List ℕ
  | invoking _ rest => rest
  | _ => []

/-- What the listener closes the transaction with. -/
def error? : ListenPhase → Option (Option Error)
  | closing error | openCleared error | errorRecorded error | callbacksDrained error
  | invoking error _ => some error
  | _ => none

/-- The listener has received the end of the server's stream, and takes nothing more. -/
def isClosing : ListenPhase → Bool
  | closing _ | openCleared _ | errorRecorded _ | callbacksDrained _ | invoking _ _ | finished =>
    true
  | _ => false

/-- The listener is closing, and has not taken the `on_close` callbacks yet. -/
def isDraining : ListenPhase → Bool
  | closing _ | openCleared _ | errorRecorded _ | callbacksDrained _ => true
  | _ => false

/-- The listener went without finishing. -/
def isGone : ListenPhase → Bool
  | panicked | dropped => true
  | _ => false

theorem rest_of_isDraining {phase : ListenPhase} (h : phase.isDraining = true) :
    phase.rest = [] := by
  cases phase with
  | invoking => cases h
  | _ => rfl

theorem rest_of_isGone {phase : ListenPhase} (h : phase.isGone = true) : phase.rest = [] := by
  cases phase with
  | invoking => cases h
  | _ => rfl

theorem isClosing_of_isDraining {phase : ListenPhase} (h : phase.isDraining = true) :
    phase.isClosing = true := by
  cases phase with
  | closing | openCleared | errorRecorded | callbacksDrained => rfl
  | _ => cases h

theorem isGone_of_isDraining {phase : ListenPhase} (h : phase.isDraining = true) :
    phase.isGone = false := by
  cases phase with
  | panicked | dropped => cases h
  | _ => rfl

theorem isClosing_of_isGone {phase : ListenPhase} (h : phase.isGone = true) :
    phase.isClosing = false := by
  cases phase with
  | panicked | dropped => rfl
  | _ => cases h

theorem isAlive_of_not_isGone {phase : ListenPhase} (hgone : phase.isGone = false)
    (hclosing : phase.isClosing = false) : phase.isAlive = true := by
  cases phase with
  | panicked | dropped => cases hgone
  | finished => cases hclosing
  | _ => rfl

end ListenPhase

/-! ## Where the registrations are -/

structure Registrations where
  nextRegistration : ℕ
  source : List ℕ
  onClose : List ℕ
  listener : ListenPhase
  handlerQueue : List (ℕ × Option Error)
  closedWith : Option (Option Error)
  recorded : List ℕ
  resolved : List ℕ
  invoked : List (ℕ × Option Error)

def State.registrations (s : State ρ π α) : Registrations where
  nextRegistration := s.nextRegistration
  source := s.onCloseSource
  onClose := s.onClose
  listener := s.listener
  handlerQueue := s.handlerQueue
  closedWith := s.closedWith
  recorded := s.recorded
  resolved := s.resolved
  invoked := s.invoked

namespace Registrations

/-- What the condition on runs looks at in a step. -/
inductive Label
  | register
  | close
  | handlerDies
  | other

/-- What a step does to the registrations. -/
inductive Effect : Label → Registrations → Registrations → Prop
  | skip (r) : Effect .other r r
  | register (r) : Effect .register r { r with
      nextRegistration := r.nextRegistration + 1
      source := r.source ++ if r.listener.isAlive then [r.nextRegistration] else [] }
  | resolve (r) (registration : ℕ) (h : registration < r.nextRegistration) :
    Effect .other r { r with resolved := r.resolved ++ [registration] }
  | record (r) (registration : ℕ) (source : List ℕ) (hl : r.listener = .listening)
    (h : r.source = registration :: source) :
    Effect .other r { r with
      source := source
      onClose := r.onClose ++ [registration]
      recorded := r.recorded ++ [registration] }
  | close (r) (error : Option Error) (hl : r.listener = .listening) :
    Effect .close r { r with listener := .closing error, closedWith := some error }
  | advance (r) (phase : ListenPhase) (hl : r.listener.isDraining = true)
    (hp : phase.isDraining = true) (he : phase.error? = r.listener.error?) :
    Effect .other r { r with listener := phase }
  | takeCallbacks (r) (error : Option Error) (hl : r.listener = .callbacksDrained error) :
    Effect .other r { r with onClose := [], listener := .invoking error r.onClose }
  | handOver (r) (error : Option Error) (registration : ℕ) (rest : List ℕ)
    (hl : r.listener = .invoking error (registration :: rest)) (hq : r.handlerQueue = []) :
    Effect .other r { r with
      handlerQueue := [(registration, error)], listener := .invoking error rest }
  | finish (r) (error : Option Error) (hl : r.listener = .invoking error [])
    (hq : r.handlerQueue = []) :
    Effect .other r { r with listener := .finished, source := [] }
  | run (r) (callback : ℕ × Option Error) (rest : List (ℕ × Option Error))
    (hq : r.handlerQueue = callback :: rest) :
    Effect .other r { r with handlerQueue := rest, invoked := r.invoked ++ [callback] }
  | handlerDies (r) : Effect .handlerDies r { r with handlerQueue := [] }
  | block (r) (hl : r.listener = .listening) : Effect .other r { r with listener := .blocked }
  | stop (r) (phase : ListenPhase) (hp : phase.isGone = true) :
    Effect .other r { r with listener := phase, source := [] }

theorem Effect.trans_eq {label : Label} {r r' r'' : Registrations} (h : Effect label r r')
    (he : r' = r'') : Effect label r r'' := he ▸ h

end Registrations

def ServerEvent.registrationLabel : ServerEvent π → Registrations.Label
  | message _ => .other
  | status _ | ended => .close

namespace State

/-- The label of a step. -/
def registrationLabel (s : State ρ π α) : Action ρ π → Registrations.Label
  | .onClose => .register
  | .close =>
    match s.closer with
    | .swapped => .register
    | _ => .other
  | .listen =>
    match s.nextEvent with
    | some event => event.registrationLabel
    | none => .other
  | .handlerDies => .handlerDies
  | _ => .other

/-! ## Every step has an effect -/

variable {s t : State ρ π α}

/-- A message leaves the `on_close` callbacks as they are. -/
theorem onClose_collect {message : Message π} {c c' : ResponseCollector α}
    (h : c.collect decode message = .handled c') : c'.onClose = c.onClose := by
  obtain ⟨callbacks, channels, rfl⟩ := collect_frame h
  rfl

theorem listenMessage_registrations (s : State ρ π α) (message : Message π)
    (hl : s.listener = .listening) :
    Registrations.Effect .other s.registrations
      (s.listenMessage decode message).registrations := by
  unfold listenMessage
  split
  next collector hcollect =>
    refine (Registrations.Effect.skip s.registrations).trans_eq ?_
    rw [registrations, ← onClose_collect hcollect]
    rfl
  next => exact .skip _
  next => exact .stop _ .panicked rfl
  next => exact .block _ hl

theorem listenEvent_registrations (s : State ρ π α) (event : ServerEvent π)
    (hl : s.listener = .listening) :
    Registrations.Effect event.registrationLabel s.registrations
      (s.listenEvent decode event).registrations := by
  cases event with
  | message message =>
    exact listenMessage_registrations { s with collected := s.collected ++ [message] } message hl
  | status error => exact .close _ (some error) hl
  | ended => exact .close _ none hl

theorem registrationLabel_listen_of_none (h : s.nextEvent = none) :
    s.registrationLabel (.listen : Action ρ π) = .other := by
  simp only [registrationLabel, h]

theorem listenLoop_registrations (h : s.listenLoop decode = some t) :
    Registrations.Effect (s.registrationLabel .listen) s.registrations t.registrations := by
  unfold listenLoop at h
  split at h
  next hphase =>
    split at h
    next arrived event inFlight harrived hflight =>
      obtain rfl := Option.some.inj h
      have hnext := nextEvent_of_arrived hphase harrived hflight
      simp only [registrationLabel, hnext]
      exact listenEvent_registrations { s with arrived, inFlight } event hphase
    next hnone =>
      rw [registrationLabel_listen_of_none (nextEvent_of_not_arrived hnone)]
      unfold listenOnClose at h
      split at h
      · cases h
      · obtain rfl := Option.some.inj h
        exact .record _ _ _ hphase ‹_›
  next error hphase =>
    rw [registrationLabel_listen_of_none (nextEvent_of_phase hphase nofun)]
    obtain rfl := Option.some.inj h
    exact .advance _ (.openCleared error) (congrArg ListenPhase.isDraining hphase) rfl
      (congrArg ListenPhase.error? hphase).symm
  next error hphase =>
    rw [registrationLabel_listen_of_none (nextEvent_of_phase hphase nofun)]
    obtain rfl := Option.some.inj h
    exact .advance _ (.errorRecorded error) (congrArg ListenPhase.isDraining hphase) rfl
      (congrArg ListenPhase.error? hphase).symm
  next error hphase =>
    rw [registrationLabel_listen_of_none (nextEvent_of_phase hphase nofun)]
    obtain rfl := Option.some.inj h
    exact .advance _ (.callbacksDrained error) (congrArg ListenPhase.isDraining hphase) rfl
      (congrArg ListenPhase.error? hphase).symm
  next error hphase =>
    rw [registrationLabel_listen_of_none (nextEvent_of_phase hphase nofun)]
    obtain rfl := Option.some.inj h
    exact .takeCallbacks _ error hphase
  next error rest hphase =>
    rw [registrationLabel_listen_of_none (nextEvent_of_phase hphase nofun)]
    split at h
    · cases h
    · split_ifs at h
      · obtain rfl := Option.some.inj h
        exact .handOver _ error _ _ hphase ‹_›
      · obtain rfl := Option.some.inj h
        exact .stop _ .panicked rfl
    · obtain rfl := Option.some.inj h
      exact .finish _ error hphase ‹_›
  next => cases h

theorem call_registrations {request : TransactionRequest ρ} (h : s.call request = some t) :
    t.registrations = s.registrations := by
  unfold call at h
  split at h
  · cases h
  · split_ifs at h
    · obtain rfl := Option.some.inj h
      rfl
    · obtain rfl := Option.some.inj h
      rfl

theorem submit_registrations {index : ℕ} (h : s.submit index = some t) :
    t.registrations = s.registrations := by
  unfold submit at h
  split at h
  · cases h
  · dsimp only at h
    split_ifs at h
    · obtain rfl := Option.some.inj h
      rfl
    · obtain rfl := Option.some.inj h
      rfl

theorem read_registrations {call : ℕ} (h : s.read call = some t) :
    t.registrations = s.registrations := by
  unfold read at h
  dsimp only at h
  split at h
  · cases h
  split at h
  · obtain rfl := Option.some.inj h
    rfl
  · split_ifs at h
    · obtain rfl := Option.some.inj h
      rfl
    · obtain rfl := Option.some.inj h
      rfl
  · split_ifs at h
    obtain rfl := Option.some.inj h
    rfl

theorem dispatchLoop_registrations {generated : RequestID}
    (h : s.dispatchLoop encodedLen generated = some t) : t.registrations = s.registrations := by
  unfold dispatchLoop at h
  split at h
  · split_ifs at h
    · obtain rfl := Option.some.inj h
      rfl
    · obtain rfl := Option.some.inj h
      rfl
  · split at h
    · obtain rfl := Option.some.inj h
      rfl
    · obtain rfl := Option.some.inj h
      rfl
    · dsimp only at h
      split_ifs at h
      · obtain rfl := Option.some.inj h
        rfl
      · obtain rfl := Option.some.inj h
        rfl
  · split_ifs at h
    · obtain rfl := Option.some.inj h
      rfl
    · obtain rfl := Option.some.inj h
      rfl
  · cases h

theorem serverSend_registrations {event : ServerEvent π} (h : s.serverSend event = some t) :
    t.registrations = s.registrations := by
  unfold serverSend at h
  split_ifs at h
  obtain rfl := Option.some.inj h
  rfl

theorem arrive_registrations (h : s.arrive = some t) : t.registrations = s.registrations := by
  unfold arrive at h
  split_ifs at h
  obtain rfl := Option.some.inj h
  rfl

theorem drop_registrations (h : s.drop = some t) : t.registrations = s.registrations := by
  unfold drop at h
  split_ifs at h
  obtain rfl := Option.some.inj h
  dsimp only
  split_ifs <;> rfl

theorem resolveOnClose_registrations {registration : ℕ}
    (h : s.resolveOnClose registration = some t) :
    Registrations.Effect .other s.registrations t.registrations := by
  unfold resolveOnClose at h
  split_ifs at h with hregistration
  obtain rfl := Option.some.inj h
  exact .resolve _ registration hregistration.1

theorem closeLoop_registrations (h : s.closeLoop = some t) :
    Registrations.Effect (s.registrationLabel .close) s.registrations t.registrations := by
  unfold closeLoop at h
  split at h
  next hcloser =>
    simp only [registrationLabel, hcloser]
    split_ifs at h
    obtain rfl := Option.some.inj h
    exact .skip _
  next hcloser =>
    simp only [registrationLabel, hcloser]
    obtain rfl := Option.some.inj h
    exact .register _
  next hcloser =>
    simp only [registrationLabel, hcloser]
    obtain ⟨u, hu, rfl⟩ := Option.map_eq_some_iff.mp h
    exact (resolveOnClose_registrations hu).trans_eq rfl
  next hcloser =>
    simp only [registrationLabel, hcloser]
    obtain rfl := Option.some.inj h
    exact .skip _
  next hcloser =>
    simp only [registrationLabel, hcloser]
    obtain rfl := Option.some.inj h
    exact .skip _
  next hcloser =>
    simp only [registrationLabel, hcloser]
    split_ifs at h
    obtain rfl := Option.some.inj h
    exact .skip _
  next => cases h

theorem runCallback_registrations (h : s.runCallback = some t) :
    Registrations.Effect .other s.registrations t.registrations := by
  unfold runCallback at h
  split at h
  · cases h
  · obtain rfl := Option.some.inj h
    exact .run _ _ _ ‹_›

theorem shutDownRuntime_registrations (h : s.shutDownRuntime = some t) :
    Registrations.Effect .other s.registrations t.registrations := by
  unfold shutDownRuntime at h
  split_ifs at h
  obtain rfl := Option.some.inj h
  exact .stop _ .dropped rfl

end State

/-- **Every step of a transaction has an effect on the registrations.** -/
theorem step_registrations {s t : State ρ π α} {a : Action ρ π}
    (h : step decode encodedLen s a = some t) :
    Registrations.Effect (s.registrationLabel a) s.registrations t.registrations := by
  have hsame : t.registrations = s.registrations →
      Registrations.Effect .other s.registrations t.registrations := fun he =>
    (Registrations.Effect.skip s.registrations).trans_eq he.symm
  cases a with
  | call request => exact hsame (State.call_registrations h)
  | submit index => exact hsame (State.submit_registrations h)
  | read call => exact hsame (State.read_registrations h)
  | dispatch generated => exact hsame (State.dispatchLoop_registrations h)
  | server event => exact hsame (State.serverSend_registrations h)
  | arrive => exact hsame (State.arrive_registrations h)
  | drop => exact hsame (State.drop_registrations h)
  | listen => exact State.listenLoop_registrations h
  | resolve registration => exact State.resolveOnClose_registrations h
  | close => exact State.closeLoop_registrations h
  | runCallback => exact State.runCallback_registrations h
  | shutDownRuntime => exact State.shutDownRuntime_registrations h
  | onClose =>
    simp only [step] at h
    split_ifs at h
    obtain rfl := Option.some.inj h
    exact .register _
  | handlerDies =>
    obtain rfl := Option.some.inj h
    exact .handlerDies _
  | signalShutdown | closeRuntime =>
    obtain rfl := Option.some.inj h
    exact .skip _

namespace Registrations

/-! ## At most once -/

/-- The registrations whose callbacks have run, are with the handler, or are to be handed over. -/
def underway (r : Registrations) : List ℕ :=
  r.invoked.map Prod.fst ++ r.handlerQueue.map Prod.fst ++ r.listener.rest ++ r.onClose

/-- What holds in every run. -/
structure Sound (r : Registrations) : Prop where
  distinct : (r.recorded ++ r.source).Nodup
  below : ∀ registration ∈ r.recorded ++ r.source, registration < r.nextRegistration
  resolved : ∀ registration ∈ r.resolved, registration < r.nextRegistration
  /-- callbacks get lost only by leaving the line -/
  underway : r.underway.Sublist r.recorded
  listening : r.listener = .listening → r.invoked = [] ∧ r.handlerQueue = []
  closing : ∀ error, r.listener.error? = some error → r.closedWith = some error
  finished : r.listener = .finished → ∃ error, r.closedWith = some error
  arguments : ∀ callback ∈ r.invoked ++ r.handlerQueue, r.closedWith = some callback.2

/-! ### Steps that keep what is underway -/

theorem underway_setListener (r : Registrations) {phase : ListenPhase}
    (h : phase.rest = r.listener.rest) :
    underway { r with listener := phase } = r.underway := by
  unfold underway
  rw [← h]

theorem underway_takeCallbacks (r : Registrations) (error : Option Error)
    (h : r.listener.rest = []) :
    underway { r with onClose := [], listener := .invoking error r.onClose } = r.underway := by
  unfold underway
  rw [h, List.append_nil, List.append_nil]
  rfl

theorem underway_handOver (r : Registrations) {error : Option Error} {registration : ℕ}
    {rest : List ℕ} (hl : r.listener = .invoking error (registration :: rest))
    (hq : r.handlerQueue = []) :
    underway { r with
      handlerQueue := [(registration, error)], listener := .invoking error rest } =
      r.underway := by
  unfold underway
  rw [hl, hq]
  simp [ListenPhase.rest]

theorem underway_run (r : Registrations) {callback : ℕ × Option Error}
    {rest : List (ℕ × Option Error)} (hq : r.handlerQueue = callback :: rest) :
    underway { r with handlerQueue := rest, invoked := r.invoked ++ [callback] } =
      r.underway := by
  unfold underway
  rw [hq]
  simp

namespace Sound

variable {r r' : Registrations}

theorem register (h : r.Sound) : Sound { r with
    nextRegistration := r.nextRegistration + 1
    source := r.source ++ if r.listener.isAlive then [r.nextRegistration] else [] } := by
  have hsource : ∀ registration ∈ (if r.listener.isAlive then [r.nextRegistration] else []),
      registration = r.nextRegistration := by
    intro registration hmem
    split_ifs at hmem
    · exact List.mem_singleton.mp hmem
    · cases hmem
  refine {
    h with
    distinct := ?_
    below := fun registration hmem => ?_
    resolved := fun registration hmem => Nat.lt_succ_of_lt (h.resolved registration hmem) }
  · show (r.recorded ++ (r.source ++ _)).Nodup
    rw [← List.append_assoc, List.nodup_append]
    refine ⟨h.distinct, ?_, fun registration hmem other hother heq => ?_⟩
    · split_ifs <;> simp
    · have hlt := h.below registration hmem
      have hnext := hsource other hother
      omega
  · have hmem : registration ∈ r.recorded ++ (r.source ++ _) := hmem
    show registration < r.nextRegistration + 1
    rw [← List.append_assoc] at hmem
    obtain hmem | hmem := List.mem_append.mp hmem
    · have hlt := h.below registration hmem
      omega
    · have hnext := hsource registration hmem
      omega

theorem record (h : r.Sound) {registration : ℕ} {source : List ℕ}
    (hs : r.source = registration :: source) : Sound { r with
      source := source
      onClose := r.onClose ++ [registration]
      recorded := r.recorded ++ [registration] } := by
  have hmove : r.recorded ++ [registration] ++ source = r.recorded ++ r.source := by
    rw [hs, ← List.append_cons]
  refine {
    h with
    distinct := (congrArg List.Nodup hmove).mpr h.distinct
    below := fun other hmem => h.below other (hmove ▸ hmem)
    underway := ?_ }
  show (_ ++ (r.onClose ++ [registration])).Sublist _
  rw [← List.append_assoc]
  exact h.underway.append_right _

theorem close (h : r.Sound) (error : Option Error) (hl : r.listener = .listening) :
    Sound { r with listener := .closing error, closedWith := some error } := by
  obtain ⟨hinvoked, hqueue⟩ := h.listening hl
  have hrest : (ListenPhase.closing error).rest = r.listener.rest := by
    rw [hl]
    rfl
  refine {
    h with
    underway := (r.underway_setListener hrest).symm ▸ h.underway
    listening := nofun
    closing := fun error' he => he
    finished := nofun
    arguments := fun callback hmem => ?_ }
  have hmem : callback ∈ r.invoked ++ r.handlerQueue := hmem
  rw [hinvoked, hqueue] at hmem
  cases hmem

theorem advance (h : r.Sound) {phase : ListenPhase} (hl : r.listener.isDraining = true)
    (hp : phase.isDraining = true) (he : phase.error? = r.listener.error?) :
    Sound { r with listener := phase } := by
  have hrest : phase.rest = r.listener.rest := by
    rw [ListenPhase.rest_of_isDraining hp, ListenPhase.rest_of_isDraining hl]
  refine {
    h with
    underway := (r.underway_setListener hrest).symm ▸ h.underway
    listening := fun hphase => ?_
    closing := fun error he' => h.closing error (he ▸ he')
    finished := fun hphase => ?_ }
  · rw [show phase = .listening from hphase] at hp
    cases hp
  · rw [show phase = .finished from hphase] at hp
    cases hp

theorem takeCallbacks (h : r.Sound) {error : Option Error}
    (hl : r.listener = .callbacksDrained error) :
    Sound { r with onClose := [], listener := .invoking error r.onClose } := by
  have hrest : r.listener.rest = [] := congrArg ListenPhase.rest hl
  exact {
    h with
    underway := (r.underway_takeCallbacks error hrest).symm ▸ h.underway
    listening := nofun
    closing := fun error' he => h.closing error' (hl ▸ he)
    finished := nofun }

theorem handOver (h : r.Sound) {error : Option Error} {registration : ℕ} {rest : List ℕ}
    (hl : r.listener = .invoking error (registration :: rest)) (hq : r.handlerQueue = []) :
    Sound { r with
      handlerQueue := [(registration, error)], listener := .invoking error rest } := by
  have hclosed := h.closing error (congrArg ListenPhase.error? hl)
  refine {
    h with
    underway := (r.underway_handOver hl hq).symm ▸ h.underway
    listening := nofun
    closing := fun error' he => ?_
    finished := nofun
    arguments := fun callback hmem => ?_ }
  · obtain rfl := Option.some.inj he
    exact hclosed
  · obtain hmem | hmem := List.mem_append.mp hmem
    · exact h.arguments callback (List.mem_append_left _ hmem)
    · rw [List.mem_singleton.mp hmem]
      exact hclosed

/-- The queue goes with the listener. -/
theorem distinct_of_gone (h : r.Sound) : (r.recorded ++ []).Nodup ∧
    ∀ registration ∈ r.recorded ++ [], registration < r.nextRegistration := by
  have hsub : (r.recorded ++ []).Sublist (r.recorded ++ r.source) :=
    (List.nil_sublist _).append_left _
  exact ⟨h.distinct.sublist hsub, fun registration hmem => h.below _ (hsub.subset hmem)⟩

theorem finish (h : r.Sound) {error : Option Error} (hl : r.listener = .invoking error []) :
    Sound { r with listener := .finished, source := [] } := by
  have hrest : ListenPhase.finished.rest = r.listener.rest := by
    rw [hl]
    rfl
  exact {
    h with
    distinct := h.distinct_of_gone.1
    below := h.distinct_of_gone.2
    underway := (r.underway_setListener hrest).symm ▸ h.underway
    listening := nofun
    closing := nofun
    finished := fun _ => ⟨error, h.closing error (congrArg ListenPhase.error? hl)⟩ }

theorem run (h : r.Sound) {callback : ℕ × Option Error} {rest : List (ℕ × Option Error)}
    (hq : r.handlerQueue = callback :: rest) :
    Sound { r with handlerQueue := rest, invoked := r.invoked ++ [callback] } := by
  have hmove : r.invoked ++ [callback] ++ rest = r.invoked ++ r.handlerQueue := by
    rw [hq, ← List.append_cons]
  refine {
    h with
    underway := (r.underway_run hq).symm ▸ h.underway
    listening := fun hl => ?_
    arguments := fun other hmem => h.arguments other (hmove ▸ hmem) }
  rw [(h.listening hl).2] at hq
  cases hq

theorem handlerDies (h : r.Sound) : Sound { r with handlerQueue := [] } := by
  refine {
    h with
    underway := List.Sublist.trans ?_ h.underway
    listening := fun hl => ⟨(h.listening hl).1, rfl⟩
    arguments := fun callback hmem => h.arguments callback ?_ }
  · exact (((List.nil_sublist _).append_left _).append_right _).append_right _
  · rw [List.append_nil] at hmem
    exact List.mem_append_left _ hmem

theorem block (h : r.Sound) (hl : r.listener = .listening) :
    Sound { r with listener := .blocked } := by
  have hrest : ListenPhase.blocked.rest = r.listener.rest := by
    rw [hl]
    rfl
  exact {
    h with
    underway := (r.underway_setListener hrest).symm ▸ h.underway
    listening := nofun
    closing := nofun
    finished := nofun }

theorem stop (h : r.Sound) {phase : ListenPhase} (hp : phase.isGone = true) :
    Sound { r with listener := phase, source := [] } := by
  have hsub : (Registrations.underway { r with listener := phase }).Sublist r.underway := by
    unfold Registrations.underway
    rw [ListenPhase.rest_of_isGone hp]
    exact ((List.nil_sublist _).append_left _).append_right _
  refine {
    h with
    distinct := h.distinct_of_gone.1
    below := h.distinct_of_gone.2
    underway := hsub.trans h.underway
    listening := fun hphase => ?_
    closing := fun error he => ?_
    finished := fun hphase => ?_ }
  all_goals
    cases phase with
    | panicked | dropped => contradiction
    | _ => cases hp

/-- **In every run a callback runs at most once, with what closed the transaction.** -/
theorem effect (h : r.Sound) {label : Label} (he : Effect label r r') : r'.Sound := by
  cases he with
  | skip => exact h
  | register => exact h.register
  | resolve _ registration hlt =>
    refine { h with resolved := fun other hmem => ?_ }
    obtain hmem | hmem := List.mem_append.mp hmem
    · exact h.resolved other hmem
    · rw [List.mem_singleton.mp hmem]
      exact hlt
  | record _ registration source hl hs => exact h.record hs
  | close _ error hl => exact h.close error hl
  | advance _ phase hl hp he => exact h.advance hl hp he
  | takeCallbacks _ error hl => exact h.takeCallbacks hl
  | handOver _ error registration rest hl hq => exact h.handOver hl hq
  | finish _ error hl hq => exact h.finish hl
  | run _ callback rest hq => exact h.run hq
  | handlerDies => exact h.handlerDies
  | block _ hl => exact h.block hl
  | stop _ phase hp => exact h.stop hp

end Sound

/-! ## Exactly once -/

/-- A step that loses no registration. -/
def keeps (r : Registrations) : Label → Bool
  | .register => !r.listener.isClosing
  | .close => r.source.isEmpty
  | .handlerDies => r.handlerQueue.isEmpty
  | .other => true

/-- What holds in the runs of such steps. -/
structure Complete (r : Registrations) : Prop where
  kept : r.listener.isGone = false →
    ∀ registration < r.nextRegistration, registration ∈ r.recorded ++ r.source
  closing : r.listener.isClosing = true → r.source = []
  underway : r.listener.isGone = false → r.underway = r.recorded
  taken : r.listener.isClosing = true → r.listener.isDraining = false → r.onClose = []
  finished : r.listener = .finished → r.handlerQueue = []

namespace Complete

variable {r r' : Registrations}

theorem register (h : r.Complete) (hclosing : r.listener.isClosing = false) : Complete { r with
    nextRegistration := r.nextRegistration + 1
    source := r.source ++ if r.listener.isAlive then [r.nextRegistration] else [] } := by
  refine {
    h with
    kept := fun hgone registration hlt => ?_
    closing := fun hc => ?_ }
  · have hgone : r.listener.isGone = false := hgone
    show registration ∈ r.recorded ++ (r.source ++ _)
    rw [← List.append_assoc, if_pos (ListenPhase.isAlive_of_not_isGone hgone hclosing)]
    obtain hlt | rfl := Nat.lt_succ_iff_lt_or_eq.mp hlt
    · exact List.mem_append_left _ (h.kept hgone registration hlt)
    · exact List.mem_append_right _ (List.mem_singleton_self _)
  · rw [show r.listener.isClosing = true from hc] at hclosing
    cases hclosing

theorem record (h : r.Complete) {registration : ℕ} {source : List ℕ}
    (hl : r.listener = .listening) (hs : r.source = registration :: source) :
    Complete { r with
      source := source
      onClose := r.onClose ++ [registration]
      recorded := r.recorded ++ [registration] } := by
  have hmove : r.recorded ++ [registration] ++ source = r.recorded ++ r.source := by
    rw [hs, ← List.append_cons]
  have hopen : r.listener.isClosing ≠ true := by
    rw [hl]
    exact nofun
  refine {
    kept := fun hgone other hlt => hmove ▸ h.kept hgone other hlt
    closing := fun hc => absurd hc hopen
    underway := fun hgone => ?_
    taken := fun hc => absurd hc hopen
    finished := h.finished }
  show _ ++ (r.onClose ++ [registration]) = r.recorded ++ [registration]
  rw [← List.append_assoc, ← h.underway hgone]
  rfl

theorem close (h : r.Complete) (error : Option Error) (hl : r.listener = .listening)
    (hs : r.source = []) :
    Complete { r with listener := .closing error, closedWith := some error } := by
  have hgone : r.listener.isGone = false := congrArg ListenPhase.isGone hl
  have hrest : (ListenPhase.closing error).rest = r.listener.rest := by
    rw [hl]
    rfl
  exact {
    kept := fun _ => h.kept hgone
    closing := fun _ => hs
    underway := fun _ => (r.underway_setListener hrest).trans (h.underway hgone)
    taken := nofun
    finished := nofun }

theorem advance (h : r.Complete) {phase : ListenPhase} (hl : r.listener.isDraining = true)
    (hp : phase.isDraining = true) : Complete { r with listener := phase } := by
  have hgone := ListenPhase.isGone_of_isDraining hl
  have hrest : phase.rest = r.listener.rest := by
    rw [ListenPhase.rest_of_isDraining hp, ListenPhase.rest_of_isDraining hl]
  refine {
    kept := fun _ => h.kept hgone
    closing := fun _ => h.closing (ListenPhase.isClosing_of_isDraining hl)
    underway := fun _ => (r.underway_setListener hrest).trans (h.underway hgone)
    taken := fun _ hd => ?_
    finished := fun hphase => ?_ }
  · rw [show phase.isDraining = false from hd] at hp
    cases hp
  · rw [show phase = .finished from hphase] at hp
    cases hp

theorem takeCallbacks (h : r.Complete) {error : Option Error}
    (hl : r.listener = .callbacksDrained error) :
    Complete { r with onClose := [], listener := .invoking error r.onClose } := by
  have hgone : r.listener.isGone = false := congrArg ListenPhase.isGone hl
  have hrest : r.listener.rest = [] := congrArg ListenPhase.rest hl
  exact {
    kept := fun _ => h.kept hgone
    closing := fun _ => h.closing (congrArg ListenPhase.isClosing hl)
    underway := fun _ => (r.underway_takeCallbacks error hrest).trans (h.underway hgone)
    taken := fun _ _ => rfl
    finished := nofun }

theorem handOver (h : r.Complete) {error : Option Error} {registration : ℕ} {rest : List ℕ}
    (hl : r.listener = .invoking error (registration :: rest)) (hq : r.handlerQueue = []) :
    Complete { r with
      handlerQueue := [(registration, error)], listener := .invoking error rest } := by
  have hgone : r.listener.isGone = false := congrArg ListenPhase.isGone hl
  have hclosing : r.listener.isClosing = true := congrArg ListenPhase.isClosing hl
  exact {
    kept := fun _ => h.kept hgone
    closing := fun _ => h.closing hclosing
    underway := fun _ => (r.underway_handOver hl hq).trans (h.underway hgone)
    taken := fun _ _ => h.taken hclosing (congrArg ListenPhase.isDraining hl)
    finished := nofun }

theorem finish (h : r.Complete) {error : Option Error} (hl : r.listener = .invoking error [])
    (hq : r.handlerQueue = []) : Complete { r with listener := .finished, source := [] } := by
  have hgone : r.listener.isGone = false := congrArg ListenPhase.isGone hl
  have hclosing : r.listener.isClosing = true := congrArg ListenPhase.isClosing hl
  have hrest : ListenPhase.finished.rest = r.listener.rest := by
    rw [hl]
    rfl
  refine {
    kept := fun _ registration hlt => ?_
    closing := fun _ => rfl
    underway := fun _ => (r.underway_setListener hrest).trans (h.underway hgone)
    taken := fun _ _ => h.taken hclosing (congrArg ListenPhase.isDraining hl)
    finished := fun _ => hq }
  have hmem := h.kept hgone registration hlt
  rw [h.closing hclosing] at hmem
  exact hmem

theorem run (h : r.Complete) {callback : ℕ × Option Error} {rest : List (ℕ × Option Error)}
    (hq : r.handlerQueue = callback :: rest) :
    Complete { r with handlerQueue := rest, invoked := r.invoked ++ [callback] } := by
  refine {
    h with
    underway := fun hgone => (r.underway_run hq).trans (h.underway hgone)
    finished := fun hl => ?_ }
  rw [h.finished hl] at hq
  cases hq

theorem block (h : r.Complete) (hl : r.listener = .listening) :
    Complete { r with listener := .blocked } := by
  have hgone : r.listener.isGone = false := congrArg ListenPhase.isGone hl
  have hrest : ListenPhase.blocked.rest = r.listener.rest := by
    rw [hl]
    rfl
  exact {
    kept := fun _ => h.kept hgone
    closing := nofun
    underway := fun _ => (r.underway_setListener hrest).trans (h.underway hgone)
    taken := nofun
    finished := nofun }

/-- Of a listener that is gone nothing is asked. -/
theorem stop {phase : ListenPhase} (hp : phase.isGone = true) :
    Complete { r with listener := phase, source := [] } := by
  have hgone : phase.isGone ≠ false := by
    rw [hp]
    exact nofun
  refine {
    kept := fun hg => absurd hg hgone
    closing := fun _ => rfl
    underway := fun hg => absurd hg hgone
    taken := fun hc => ?_
    finished := fun hphase => ?_ }
  · have hopen := ListenPhase.isClosing_of_isGone hp
    rw [show phase.isClosing = true from hc] at hopen
    cases hopen
  · rw [show phase = .finished from hphase] at hp
    cases hp

/-- **In runs that keep the registrations, no callback gets lost.** -/
theorem effect (h : r.Complete) {label : Label} (he : Effect label r r')
    (hk : r.keeps label = true) : r'.Complete := by
  cases he with
  | skip => exact h
  | register => exact h.register ((Bool.not_eq_true' _).mp hk)
  | resolve => exact { h with }
  | record _ registration source hl hs => exact h.record hl hs
  | close _ error hl => exact h.close error hl (List.isEmpty_iff.mp hk)
  | advance _ phase hl hp he => exact h.advance hl hp
  | takeCallbacks _ error hl => exact h.takeCallbacks hl
  | handOver _ error registration rest hl hq => exact h.handOver hl hq
  | finish _ error hl hq => exact h.finish hl hq
  | run _ callback rest hq => exact h.run hq
  | handlerDies =>
    -- nothing is in the queue that goes
    have hq : r.handlerQueue = [] := List.isEmpty_iff.mp hk
    rw [show { r with handlerQueue := [] } = r by rw [← hq]]
    exact h
  | block _ hl => exact h.block hl
  | stop _ phase hp => exact stop hp

end Complete

/-- Once the listener has finished, everything registered has been called, in order. -/
theorem Complete.invoked_eq {r : Registrations} (h : r.Complete) (hl : r.listener = .finished) :
    r.invoked.map Prod.fst = r.recorded := by
  have hclosing : r.listener.isClosing = true := congrArg ListenPhase.isClosing hl
  have hu := h.underway (congrArg ListenPhase.isGone hl)
  rw [Registrations.underway, hl, h.finished hl,
    h.taken hclosing (congrArg ListenPhase.isDraining hl)] at hu
  simpa [ListenPhase.rest] using hu

end Registrations

/-- A step that loses no `on_close` registration: the end of the server's stream is received when no
registration is queued, none is made once it has been, and the callback handler does not die with a
callback of the transaction in its queue. -/
def State.KeepsRegistrations (s : State ρ π α) (a : Action ρ π) : Prop :=
  s.registrations.keeps (s.registrationLabel a) = true

/-- Once the listener has finished closing the transaction, every registration whose promise has
resolved has been called exactly once, with what closed the transaction. -/
def State.Notified (s : State ρ π α) : Prop :=
  s.listener = .finished → ∃ error, s.closedWith = some error ∧
    ∀ registration ∈ s.resolved,
      (s.invoked.map Prod.fst).count registration = 1 ∧ (registration, error) ∈ s.invoked

theorem registrations_sound_of_reaches {C : State ρ π α → Action ρ π → Prop} {s : State ρ π α}
    (hs : (transaction decode encodedLen).Reaches C s) : s.registrations.Sound := by
  refine Transition.Reaches.invariant (fun s => s.registrations.Sound) ?_ ?_ hs
  · rintro s rfl
    exact {
      distinct := List.nodup_nil
      below := nofun
      resolved := nofun
      underway := List.Sublist.refl _
      listening := fun _ => ⟨rfl, rfl⟩
      closing := nofun
      finished := nofun
      arguments := nofun }
  · exact fun s a t h _ ht => h.effect (step_registrations ht)

theorem registrations_complete_of_reaches {s : State ρ π α}
    (hs : (transaction decode encodedLen).Reaches State.KeepsRegistrations s) :
    s.registrations.Complete := by
  refine Transition.Reaches.invariant (fun s => s.registrations.Complete) ?_ ?_ hs
  · rintro s rfl
    exact {
      kept := nofun
      closing := nofun
      underway := fun _ => rfl
      taken := nofun
      finished := nofun }
  · exact fun s a t h hk ht => h.effect (step_registrations ht) hk

/-- **`on_close` callbacks run exactly once** in every run that loses no registration. -/
theorem notified_of_reaches {s : State ρ π α}
    (hs : (transaction decode encodedLen).Reaches State.KeepsRegistrations s) : s.Notified := by
  intro hl
  have hsound := registrations_sound_of_reaches hs
  have hcomplete := registrations_complete_of_reaches hs
  obtain ⟨error, hclosed⟩ := hsound.finished hl
  refine ⟨error, hclosed, fun registration hmem => ?_⟩
  have hinvoked : s.invoked.map Prod.fst = s.recorded := hcomplete.invoked_eq hl
  have hrecorded : registration ∈ s.recorded := by
    have hkept := hcomplete.kept (congrArg ListenPhase.isGone hl) registration
      (hsound.resolved registration hmem)
    rw [hcomplete.closing (congrArg ListenPhase.isClosing hl), List.append_nil] at hkept
    exact hkept
  have hnodup : s.recorded.Nodup := hsound.distinct.sublist (List.sublist_append_left _ _)
  refine ⟨?_, ?_⟩
  · rw [hinvoked]
    exact List.count_eq_one_of_mem hnodup hrecorded
  · rw [← hinvoked] at hrecorded
    obtain ⟨⟨_, argument⟩, hcallback, rfl⟩ := List.mem_map.mp hrecorded
    have hargument := hsound.arguments _ (List.mem_append_left _ hcallback)
    obtain rfl := Option.some.inj (hclosed.symm.trans hargument)
    exact hcallback

/-- The listener finishes closing without waiting. -/
def finishing : List (Action ℕ ℕ) := [.listen, .listen, .listen, .listen]

/-- Two registrations and a call of `close`, until the callbacks have run. -/
def closingRun : List (Action ℕ ℕ) :=
  [.onClose, .listen, .resolve 0, .onClose, .close, .close, .listen, .listen, .resolve 1, .close,
    .close, .close, .dispatch ⟨[]⟩, .server .ended, .arrive, .listen] ++ finishing ++
    [.listen, .runCallback, .listen, .runCallback, .listen, .runCallback, .listen, .close]

theorem notified_of_closingRun : ∃ s : State ℕ ℕ ℕ, numbers.Reaches State.KeepsRegistrations s ∧
    (s.listener = .finished ∧ s.resolved = [0, 1, 2]) ∧ s.Notified := by
  have hrun : (numbers.runChecked (fun s a => s.registrations.keeps (s.registrationLabel a))
      initial closingRun).any (fun s =>
        decide (s.listener = .finished ∧ s.resolved = [0, 1, 2])) = true := by
    decide +kernel
  obtain ⟨s, hs, htest⟩ :=
    Transition.exists_reaches (C := State.KeepsRegistrations) (fun _ _ h => h) rfl hrun
  exact ⟨s, hs, of_decide_eq_true htest, notified_of_reaches hs⟩

/-- The end of the server's stream arrives while a registration is queued. -/
def queuedRun : List (Action ℕ ℕ) :=
  [.onClose, .server .ended, .arrive, .listen] ++ finishing ++ [.listen, .resolve 0]

/-- A registration that is queued when the end arrives is lost, though its promise resolves. -/
theorem not_forall_notified : ¬ ∀ s : State ℕ ℕ ℕ, numbers.Reachable s → s.Notified := by
  intro h
  have hrun : (numbers.runChecked (fun _ _ => true) initial queuedRun).any (fun s =>
      decide (s.listener = .finished ∧ s.resolved = [0] ∧ s.invoked = [])) = true := by
    decide +kernel
  obtain ⟨s, hs, htest⟩ := Transition.exists_reachable rfl hrun
  obtain ⟨hl, hresolved, hinvoked⟩ := of_decide_eq_true htest
  obtain ⟨error, -, hcalled⟩ := h s hs hl
  have hmem := (hcalled 0 (hresolved ▸ List.mem_singleton_self 0)).2
  rw [hinvoked] at hmem
  cases hmem

end TypeDBDriver.Transaction
