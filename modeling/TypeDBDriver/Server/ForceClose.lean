import TypeDBDriver.Lib.Transition
import TypeDBDriver.Server.Manager

/-!
# Closing a driver

Any number of requests and refreshes share the map of connections with any number of calls of
`force_close`. A clone of a connection shares the list of shutdown senders of its opening.

* `DriverState`, `RequestPhase`, `ClosePhase`: the driver, and where a request and a call stand.
* `DriverState.advanceRequest`, `DriverState.advanceClose`: their next steps.
* `driverSystem`: all interleavings.
* `Careful`: no step loses a shutdown sender that is still needed.
* **`force_close_reaches`**: in careful runs, a call that has returned has signalled every stream
  that was open when it started.
* **`not_force_close_reaches`**: in a run where a refresh drops a connection, it has not.
-/

namespace TypeDBDriver

open Transition

inductive StreamKind
  | transaction
  | databaseImport
  | databaseExport
  deriving DecidableEq

/-- How a request to a server ends; its task may open a stream. -/
inductive Reply
  | failed
  | answered (stream : Option StreamKind)
  deriving DecidableEq

/-- Where a task on the manager, or a refresh of the connections, stands. -/
inductive RequestPhase
  /-- about to look up the connection -/
  | executing (publicAddress privateAddress : Address)
  | connecting (publicAddress privateAddress : Address)
  /-- about to insert the new connection -/
  | recording (privateAddress : Address) (connection : ServerConnection)
  /-- the task runs on a clone of the connection -/
  | holding (connection : ServerConnection)
  /-- about to read the replicas -/
  | refreshing
  /-- about to read the addresses of the connections -/
  | readReplicas (replicas : List AvailableServer)
  /-- the loop over the replicas, and the write after it -/
  | connectingReplicas (replicas : List AvailableServer) (connectionAddresses : List Address)
      (rest : List AvailableServer) (newReplicaConnections : HashMap Address ServerConnection)
  | ended

/-- Where a call of `force_close` stands; `before` are the streams open when it started. -/
inductive ClosePhase
  /-- the driver was open: about to take the read lock -/
  | called (before : List ℕ)
  /-- about to drain the next connection's senders -/
  | closing (before : List ℕ) (rest : List ServerConnection)
  /-- about to stop the connection's dispatcher -/
  | stopping (before : List ℕ) (connection : ServerConnection) (rest : List ServerConnection)
  /-- the lock is released: about to close the runtime -/
  | closingRuntime (before : List ℕ) (ok : Bool)
  | returned (before : List ℕ) (ok : Bool)

structure DriverState where
  replicas : List AvailableServer
  replicaConnections : HashMap Address ServerConnection
  opened : ℕ
  /-- the streams whose shutdown sender is in the list of an opening -/
  shutdownSenders : ℕ → List ℕ
  /-- ghost: the streams opened so far; a stream is named by its position -/
  streams : List StreamKind
  /-- ghost -/
  closed : List ℕ
  /-- ghost: the streams that were sent a shutdown signal -/
  signalled : List ℕ
  /-- the openings whose dispatcher was told to stop, and those whose dispatcher has ended -/
  told : List ℕ
  dispatchersEnded : List ℕ
  isOpen : Bool
  workerEnded : Bool
  requests : List RequestPhase
  closings : List ClosePhase

namespace DriverState

/-- The connections of a map. -/
def values (m : HashMap Address ServerConnection) : List ServerConnection :=
  m.entries.map Sigma.snd

def openStreams (s : DriverState) : List ℕ :=
  (List.range s.streams.length).filter fun x => x ∉ s.closed

/-- A call of `force_close` holds the read lock while it goes through the connections. -/
def locked (s : DriverState) : Bool :=
  s.closings.any fun
    | .closing _ _ | .stopping _ _ _ => true
    | _ => false

/-- The end of an opening of a stream: its shutdown sender is pushed. -/
def openStream (s : DriverState) (kind : StreamKind) (connection : ServerConnection) :
    DriverState :=
  { s with
    streams := s.streams ++ [kind]
    shutdownSenders := Function.update s.shutdownSenders connection.opening
      (s.shutdownSenders connection.opening ++ [s.streams.length]) }

/-- The senders of a connection are drained, and each is sent the signal. -/
def drain (s : DriverState) (connection : ServerConnection) : DriverState :=
  { s with
    signalled := s.signalled ++ s.shutdownSenders connection.opening
    shutdownSenders := Function.update s.shutdownSenders connection.opening [] }

/-- `ServerConnection::new`, when it succeeds. -/
def newReplicaConnection (s : DriverState) (address : Address) : DriverState × ServerConnection :=
  ({ s with opened := s.opened + 1 }, ⟨address, s.opened⟩)

/-- The connections after a refresh. -/
def refreshed (s : DriverState) (replicas : List AvailableServer)
    (newReplicaConnections : HashMap Address ServerConnection) :
    HashMap Address ServerConnection :=
  newReplicaConnections ∪ ServerManager.retain s.replicaConnections fun a =>
    a ∈ replicas.map AvailableServer.privateAddress

/-- The next step of a request; `reply` is how the server answers, if it is asked. -/
def advanceRequest (s : DriverState) (reply : Reply) :
    RequestPhase → Option (DriverState × RequestPhase)
  | .executing publicAddress privateAddress =>
    match s.replicaConnections.lookup privateAddress with
    | some connection => some (s, .holding connection)
    | none => some (s, .connecting publicAddress privateAddress)
  | .connecting publicAddress privateAddress =>
    match reply with
    | .failed => some (s, .ended)
    | .answered _ =>
      let (s, connection) := s.newReplicaConnection publicAddress
      some (s, .recording privateAddress connection)
  | .recording privateAddress connection =>
    if s.locked then none
    else
      let replicaConnections := s.replicaConnections.insert privateAddress connection
      some ({ s with replicaConnections }, .holding connection)
  | .holding connection =>
    match reply with
    | .answered (some kind) => some (s.openStream kind connection, .ended)
    | .answered none | .failed => some (s, .ended)
  | .refreshing => some (s, .readReplicas s.replicas)
  | .readReplicas replicas =>
    some (s, .connectingReplicas replicas s.replicaConnections.keys replicas ∅)
  | .connectingReplicas replicas connectionAddresses (replica :: rest) new =>
    if replica.privateAddress ∈ connectionAddresses then
      some (s, .connectingReplicas replicas connectionAddresses rest new)
    else
      match reply with
      | .failed => some (s, .connectingReplicas replicas connectionAddresses rest new)
      | .answered _ =>
        let (s, connection) := s.newReplicaConnection replica.address
        some (s, .connectingReplicas replicas connectionAddresses rest
          (new.insert replica.privateAddress connection))
  | .connectingReplicas replicas _ [] new =>
    if s.locked then none
    else some ({ s with replicaConnections := s.refreshed replicas new }, .ended)
  | .ended => none

/-- The next step of a call of `force_close`. The loop stops at the first dispatcher that cannot be
told to stop because it has ended; the runtime is closed in any case. -/
def advanceClose (s : DriverState) : ClosePhase → Option (DriverState × ClosePhase)
  | .called before => some (s, .closing before (values s.replicaConnections))
  | .closing before (connection :: rest) =>
    some (s.drain connection, .stopping before connection rest)
  | .closing before [] => some (s, .closingRuntime before true)
  | .stopping before connection rest =>
    if connection.opening ∈ s.dispatchersEnded then some (s, .closingRuntime before false)
    else some ({ s with told := connection.opening :: s.told }, .closing before rest)
  | .closingRuntime before ok =>
    some ({ s with isOpen := false }, .returned before (ok && !s.workerEnded))
  | .returned _ _ => none

end DriverState

inductive DriverAction
  /-- a task is started on the manager -/
  | execute (publicAddress privateAddress : Address)
  | refresh
  /-- the `i`-th request takes its next step -/
  | request (i : ℕ) (reply : Reply)
  /-- another set of replicas is cached -/
  | cacheReplicas (replicas : List AvailableServer)
  | closeStream (x : ℕ)
  | forceClose
  /-- the `j`-th call of `force_close` takes its next step -/
  | close (j : ℕ)
  | dispatcherEnds (opening : ℕ)
  | workerEnds

/-- All interleavings, from a driver that has been opened. -/
def driverSystem : System DriverState DriverAction where
  Init s := s.shutdownSenders = (fun _ => []) ∧ s.streams = [] ∧ s.told = [] ∧
    s.dispatchersEnded = [] ∧ s.isOpen = true ∧ s.workerEnded = false ∧ s.requests = [] ∧
    s.closings = []
  step s
    | .execute publicAddress privateAddress =>
      some { s with requests := s.requests ++ [.executing publicAddress privateAddress] }
    | .refresh => some { s with requests := s.requests ++ [.refreshing] }
    | .request i reply => do
      let phase ← s.requests[i]?
      let (s', phase') ← s.advanceRequest reply phase
      some { s' with requests := s.requests.set i phase' }
    | .cacheReplicas replicas => some { s with replicas }
    | .closeStream x => if x < s.streams.length then some { s with closed := x :: s.closed } else none
    | .forceClose =>
      if s.isOpen then some { s with closings := s.closings ++ [.called s.openStreams] } else none
    | .close j => do
      let phase ← s.closings[j]?
      let (s', phase') ← s.advanceClose phase
      some { s' with closings := s.closings.set j phase' }
    | .dispatcherEnds n =>
      if n ∈ s.told ∨ s.workerEnded then some { s with dispatchersEnded := n :: s.dispatchersEnded }
      else none
    | .workerEnds => if s.isOpen then none else some { s with workerEnded := true }

/-! ## Careful runs -/

/-- A stream is open, or a call that has not gone through the connections yet has to reach it. -/
def DriverState.Needed (s : DriverState) (x : ℕ) : Prop :=
  x ∉ s.closed ∨ ∃ before, ClosePhase.called before ∈ s.closings ∧ x ∈ before

/-- No connection is dropped that still holds the shutdown sender of a needed stream. -/
def DriverState.Keeps (s : DriverState) (m : HashMap Address ServerConnection) : Prop :=
  ∀ c ∈ values s.replicaConnections, c ∉ values m →
    ∀ x ∈ s.shutdownSenders c.opening, ¬s.Needed x

/-- Writes keep the connections whose senders are needed, a stream is opened on a connection that
is in the map, and a call is not cut short in front of a connection that it has to reach. -/
def Careful (s : DriverState) : DriverAction → Prop
  | .request i reply =>
    match s.requests[i]? with
    | some (.recording address connection) =>
      s.Keeps (s.replicaConnections.insert address connection)
    | some (.connectingReplicas replicas _ [] new) => s.Keeps (s.refreshed replicas new)
    | some (.holding connection) =>
      ∀ kind, reply = .answered (some kind) →
        connection ∈ DriverState.values s.replicaConnections
    | _ => True
  | .close j =>
    match s.closings[j]? with
    | some (.stopping before connection rest) => connection.opening ∈ s.dispatchersEnded →
      ∀ c ∈ rest, ∀ x ∈ s.shutdownSenders c.opening, x ∉ before
    | _ => True
  | _ => True

/-- A stream was signalled, or one of the connections holds its sender. -/
def DriverState.Covered (s : DriverState) (cs : List ServerConnection) (x : ℕ) : Prop :=
  x ∈ s.signalled ∨ ∃ c ∈ cs, x ∈ s.shutdownSenders c.opening

/-- What is known when a call is in a phase. -/
def ClosePhase.Fits (s : DriverState) : ClosePhase → Prop
  | called before => ∀ x ∈ before, s.Covered (DriverState.values s.replicaConnections) x
  | closing before rest | stopping before _ rest => ∀ x ∈ before, s.Covered rest x
  | closingRuntime before _ | returned before _ => ∀ x ∈ before, x ∈ s.signalled

structure DriverState.Invariant (s : DriverState) : Prop where
  covered : ∀ x ∈ s.openStreams, s.Covered (values s.replicaConnections) x
  fits : ∀ p ∈ s.closings, p.Fits s

variable {s s' : DriverState} {cs : List ServerConnection} {x : ℕ}

namespace DriverState

theorem mem_openStreams : x ∈ s.openStreams ↔ x < s.streams.length ∧ x ∉ s.closed := by
  simp [openStreams]

/-- No signal is taken back, and a sender leaves its list only with its signal. -/
def Grows (s s' : DriverState) : Prop :=
  (∀ x ∈ s.signalled, x ∈ s'.signalled) ∧
    ∀ n, ∀ x ∈ s.shutdownSenders n, x ∈ s'.shutdownSenders n ∨ x ∈ s'.signalled

theorem Covered.grows (h : s.Covered cs x) (hg : s.Grows s') : s'.Covered cs x := by
  rcases h with h | ⟨c, hc, hx⟩
  · exact .inl (hg.1 x h)
  · rcases hg.2 c.opening x hx with hx | hx
    · exact .inr ⟨c, hc, hx⟩
    · exact .inl hx

theorem grows_openStream (kind : StreamKind) (c : ServerConnection) :
    s.Grows (s.openStream kind c) := by
  refine ⟨fun x hx => hx, fun n x hx => .inl ?_⟩
  by_cases hn : n = c.opening
  · subst hn
    simp [openStream, hx]
  · simpa [openStream, hn] using hx

theorem grows_drain (c : ServerConnection) : s.Grows (s.drain c) := by
  refine ⟨fun x hx => List.mem_append_left _ hx, fun n x hx => ?_⟩
  by_cases hn : n = c.opening
  · subst hn
    exact .inr (List.mem_append_right _ hx)
  · exact .inl (by simpa [drain, hn] using hx)

/-- After a connection is drained, what it covered is signalled. -/
theorem Covered.drain {c : ServerConnection} (h : s.Covered (c :: cs) x) :
    (s.drain c).Covered cs x := by
  rcases h with h | ⟨d, hd, hx⟩
  · exact .inl (List.mem_append_left _ h)
  · rcases List.mem_cons.mp hd with rfl | hd
    · exact .inl (List.mem_append_right _ hx)
    · exact Covered.grows (.inr ⟨d, hd, hx⟩) (grows_drain c)

end DriverState

open DriverState

theorem ClosePhase.Fits.grows {p : ClosePhase} (h : p.Fits s) (hg : s.Grows s')
    (hm : s'.replicaConnections = s.replicaConnections) : p.Fits s' := by
  cases p with
  | called before =>
    intro x hx
    rw [hm]
    exact (h x hx).grows hg
  | closing before rest => exact fun x hx => (h x hx).grows hg
  | stopping before c rest => exact fun x hx => (h x hx).grows hg
  | closingRuntime before ok => exact fun x hx => hg.1 x (h x hx)
  | returned before ok => exact fun x hx => hg.1 x (h x hx)

/-- A step that leaves the connections alone. -/
theorem DriverState.Invariant.grows (hs : s.Invariant) (hg : s.Grows s')
    (hm : s'.replicaConnections = s.replicaConnections)
    (hopen : ∀ x ∈ s'.openStreams, x ∈ s.openStreams ∨ s'.Covered (values s'.replicaConnections) x)
    (hclosings : ∀ p ∈ s'.closings, p ∈ s.closings ∨ p.Fits s') : s'.Invariant where
  covered x hx := by
    rcases hopen x hx with hx | hx
    · rw [hm]
      exact (hs.covered x hx).grows hg
    · exact hx
  fits p hp := by
    rcases hclosings p hp with hp | hp
    · exact (hs.fits p hp).grows hg hm
    · exact hp

/-- A write of the connections that keeps those whose senders are needed. -/
theorem DriverState.Invariant.write (hs : s.Invariant) {m : HashMap Address ServerConnection}
    (hm : s.Keeps m) : { s with replicaConnections := m }.Invariant := by
  have hcovered : ∀ x, s.Needed x → s.Covered (values s.replicaConnections) x →
      s.Covered (values m) x := by
    intro x hneeded h
    rcases h with h | ⟨c, hc, hx⟩
    · exact .inl h
    · by_cases hmem : c ∈ values m
      · exact .inr ⟨c, hmem, hx⟩
      · exact absurd hneeded (hm c hc hmem x hx)
  constructor
  · intro x hx
    exact hcovered x (.inl (mem_openStreams.mp hx).2) (hs.covered x hx)
  · intro p hp
    have hfits := hs.fits p hp
    cases p with
    | called before =>
      intro x hx
      exact hcovered x (.inr ⟨before, hp, hx⟩) (hfits x hx)
    | closing before rest => exact hfits
    | stopping before c rest => exact hfits
    | closingRuntime before ok => exact hfits
    | returned before ok => exact hfits

/-- A stream that is opened on a connection of the map. -/
theorem DriverState.Invariant.openStream (hs : s.Invariant) {kind : StreamKind}
    {c : ServerConnection} (hc : c ∈ values s.replicaConnections) :
    (s.openStream kind c).Invariant := by
  refine hs.grows (grows_openStream kind c) rfl ?_ fun p hp => .inl hp
  intro x hx
  obtain ⟨hlt, hclosed⟩ := mem_openStreams.mp hx
  rw [DriverState.openStream, List.length_append, List.length_singleton] at hlt
  by_cases hlast : x = s.streams.length
  · refine .inr (.inr ⟨c, hc, ?_⟩)
    simp [DriverState.openStream, hlast]
  · exact .inl (mem_openStreams.mpr ⟨by omega, hclosed⟩)

/-- What a step of a request does. -/
theorem advanceRequest_cases {i : ℕ} {reply : Reply} {p p' : RequestPhase}
    (hi : s.requests[i]? = some p) (hc : Careful s (.request i reply))
    (h : s.advanceRequest reply p = some (s', p')) :
    (∃ opened, s' = { s with opened }) ∨
      (∃ m, s.Keeps m ∧ s' = { s with replicaConnections := m }) ∨
      ∃ kind, ∃ c ∈ values s.replicaConnections, s' = s.openStream kind c := by
  simp only [Careful, hi] at hc
  cases p with
  | executing publicAddress privateAddress =>
    simp only [advanceRequest] at h
    split at h <;> cases h <;> exact .inl ⟨s.opened, rfl⟩
  | connecting publicAddress privateAddress =>
    cases reply <;> cases h
    · exact .inl ⟨s.opened, rfl⟩
    · exact .inl ⟨s.opened + 1, rfl⟩
  | recording address c =>
    simp only [advanceRequest] at h
    split at h <;> cases h
    exact .inr (.inl ⟨_, hc, rfl⟩)
  | holding c =>
    rcases reply with _ | _ | kind <;> cases h
    · exact .inl ⟨s.opened, rfl⟩
    · exact .inl ⟨s.opened, rfl⟩
    · exact .inr (.inr ⟨kind, c, hc kind rfl, rfl⟩)
  | refreshing =>
    cases h
    exact .inl ⟨s.opened, rfl⟩
  | readReplicas replicas =>
    cases h
    exact .inl ⟨s.opened, rfl⟩
  | connectingReplicas replicas addresses rest new =>
    cases rest with
    | nil =>
      simp only [advanceRequest] at h
      split at h <;> cases h
      exact .inr (.inl ⟨_, hc, rfl⟩)
    | cons replica rest =>
      simp only [advanceRequest] at h
      split at h
      · cases h
        exact .inl ⟨s.opened, rfl⟩
      · cases reply <;> cases h
        · exact .inl ⟨s.opened, rfl⟩
        · exact .inl ⟨s.opened + 1, rfl⟩
  | ended => cases h

/-- What is known after a step of a call. -/
theorem DriverState.Invariant.advanceClose (hs : s.Invariant) {j : ℕ} {p p' : ClosePhase}
    (hj : s.closings[j]? = some p) (hc : Careful s (.close j))
    (h : s.advanceClose p = some (s', p')) : s'.Invariant ∧ p'.Fits s' ∧ s'.closings = s.closings := by
  have hfits := hs.fits p (List.mem_of_getElem? hj)
  simp only [Careful, hj] at hc
  cases p with
  | called before =>
    cases h
    exact ⟨hs, hfits, rfl⟩
  | closing before rest =>
    cases rest with
    | nil =>
      cases h
      refine ⟨hs, fun x hx => ?_, rfl⟩
      simpa [Covered] using hfits x hx
    | cons c rest =>
      cases h
      have hinv := hs.grows (grows_drain c) rfl (fun x hx => .inl hx) fun p hp => .inl hp
      exact ⟨hinv, fun x hx => (hfits x hx).drain, rfl⟩
  | stopping before c rest =>
    simp only [DriverState.advanceClose] at h
    split at h
    case isTrue hended =>
      cases h
      refine ⟨hs, fun x hx => ?_, rfl⟩
      rcases hfits x hx with hsig | ⟨d, hd, hxd⟩
      · exact hsig
      · exact absurd hx (hc hended d hd x hxd)
    case isFalse =>
      cases h
      exact ⟨⟨hs.covered, hs.fits⟩, hfits, rfl⟩
  | closingRuntime before ok =>
    cases h
    exact ⟨⟨hs.covered, hs.fits⟩, hfits, rfl⟩
  | returned before ok => cases h

theorem DriverState.Invariant.step (hs : s.Invariant) {a : DriverAction} (hc : Careful s a)
    (h : driverSystem.step s a = some s') : s'.Invariant := by
  cases a with
  | execute publicAddress privateAddress =>
    cases h
    exact ⟨hs.covered, hs.fits⟩
  | refresh =>
    cases h
    exact ⟨hs.covered, hs.fits⟩
  | cacheReplicas replicas =>
    cases h
    exact ⟨hs.covered, hs.fits⟩
  | request i reply =>
    obtain ⟨p, hp, h⟩ := Option.bind_eq_some_iff.mp h
    obtain ⟨⟨s₁, p'⟩, hadv, h⟩ := Option.bind_eq_some_iff.mp h
    cases h
    have hinv : s₁.Invariant := by
      rcases advanceRequest_cases hp hc hadv with ⟨opened, rfl⟩ | ⟨m, hm, rfl⟩ | ⟨kind, c, hc, rfl⟩
      · exact ⟨hs.covered, hs.fits⟩
      · exact hs.write hm
      · exact hs.openStream hc
    exact ⟨hinv.covered, hinv.fits⟩
  | closeStream x =>
    simp only [driverSystem] at h
    split at h <;> cases h
    refine hs.grows ⟨fun x hx => hx, fun n x hx => .inl hx⟩ rfl (fun y hy => .inl ?_)
      fun p hp => .inl hp
    obtain ⟨hlt, hclosed⟩ := mem_openStreams.mp hy
    exact mem_openStreams.mpr ⟨hlt, fun hmem => hclosed (List.mem_cons_of_mem x hmem)⟩
  | forceClose =>
    simp only [driverSystem] at h
    split at h <;> cases h
    refine hs.grows ⟨fun x hx => hx, fun n x hx => .inl hx⟩ rfl (fun x hx => .inl hx) fun p hp => ?_
    rcases List.mem_append.mp hp with hp | hp
    · exact .inl hp
    · rw [List.mem_singleton.mp hp]
      exact .inr hs.covered
  | close j =>
    obtain ⟨p, hp, h⟩ := Option.bind_eq_some_iff.mp h
    obtain ⟨⟨s₁, p'⟩, hadv, h⟩ := Option.bind_eq_some_iff.mp h
    cases h
    obtain ⟨hinv, hfits, hclosings⟩ := hs.advanceClose hp hc hadv
    refine ⟨hinv.covered, fun q hq => ?_⟩
    rcases List.mem_or_eq_of_mem_set hq with hq | rfl
    · exact hinv.fits q (hclosings ▸ hq)
    · exact hfits
  | dispatcherEnds n =>
    simp only [driverSystem] at h
    split at h <;> cases h
    exact ⟨hs.covered, hs.fits⟩
  | workerEnds =>
    simp only [driverSystem] at h
    split at h <;> cases h
    exact ⟨hs.covered, hs.fits⟩

theorem DriverState.invariant_of_init (h : driverSystem.Init s) : s.Invariant := by
  obtain ⟨-, hstreams, -, -, -, -, -, hclosings⟩ := h
  constructor
  · intro x hx
    rw [mem_openStreams, hstreams] at hx
    cases hx.1
  · rw [hclosings]
    nofun

/-- **A call that has returned has signalled every stream that was open when it started**, in every
careful run and whatever it returned. -/
theorem force_close_reaches (hs : driverSystem.Reaches Careful s) {before : List ℕ} {ok : Bool}
    (h : .returned before ok ∈ s.closings) : ∀ x ∈ before, x ∈ s.signalled :=
  (Reaches.invariant DriverState.Invariant (fun _ hs => invariant_of_init hs)
    (fun _ _ _ hs hc hstep => hs.step hc hstep) hs).fits _ h

/-! ## Two runs -/

/-- A test for `Careful`. -/
def careful (s : DriverState) : DriverAction → Bool
  | .request i _ =>
    match s.requests[i]? with
    | some (.recording address connection) =>
      keeps (s.replicaConnections.insert address connection)
    | some (.connectingReplicas replicas _ [] new) => keeps (s.refreshed replicas new)
    | some (.holding connection) => connection ∈ values s.replicaConnections
    | _ => true
  | .close j =>
    match s.closings[j]? with
    | some (.stopping _ connection _) => connection.opening ∉ s.dispatchersEnded
    | _ => true
  | _ => true
where
  /-- No connection is dropped that still holds a sender. -/
  keeps (m : HashMap Address ServerConnection) : Bool :=
    (values s.replicaConnections).all fun c => c ∈ values m || (s.shutdownSenders c.opening).isEmpty

theorem keeps_spec {m : HashMap Address ServerConnection} (h : careful.keeps s m = true) :
    s.Keeps m := by
  intro c hc hmem x hx
  have hkeep := List.all_eq_true.mp h c hc
  simp only [Bool.or_eq_true, decide_eq_true_eq, List.isEmpty_iff] at hkeep
  rcases hkeep with hkeep | hkeep
  · exact absurd hkeep hmem
  · rw [hkeep] at hx
    cases hx

theorem careful_spec (s : DriverState) (a : DriverAction) (h : careful s a = true) :
    Careful s a := by
  cases a with
  | request i reply =>
    simp only [careful, Careful] at h ⊢
    split at h
    · exact keeps_spec h
    · exact keeps_spec h
    · exact fun _ _ => of_decide_eq_true h
    · trivial
  | close j =>
    simp only [careful, Careful] at h ⊢
    split at h
    · exact fun hended => absurd hended (of_decide_eq_true h)
    · trivial
  | _ => trivial

def serverA : Address := { authority := "a:1729" }

def serverB : Address := { authority := "b:1729" }

/-- A driver that has just been opened on one server. -/
def openedDriver : DriverState where
  replicas := [.fromPrivate serverA none]
  replicaConnections := AList.singleton serverA ⟨serverA, 0⟩
  opened := 1
  shutdownSenders := fun _ => []
  streams := []
  closed := []
  signalled := []
  told := []
  dispatchersEnded := []
  isOpen := true
  workerEnded := false
  requests := []
  closings := []

theorem openedDriver_init : driverSystem.Init openedDriver :=
  ⟨rfl, rfl, rfl, rfl, rfl, rfl, rfl, rfl⟩

/-- A transaction is opened on the first server. -/
def openTransaction : List DriverAction :=
  [.execute serverA serverA, .request 0 (.answered none), .request 0 (.answered (some .transaction))]

/-- The driver is closed. -/
def closeDriver : List DriverAction := .forceClose :: List.replicate 5 (.close 0)

/-- A refresh after another server has taken the place of the first. -/
def refreshDriver : List DriverAction :=
  [.cacheReplicas [.fromPrivate serverB none], .refresh] ++
    List.replicate 4 (.request 1 (.answered none))

/-- The call has returned that was made when the first transaction was open. -/
def returnedFirst (s : DriverState) : Bool :=
  match s.closings with
  | [.returned [0] true] => true
  | _ => false

/-- A driver with one transaction is closed. -/
theorem force_close_transaction : ∃ s : DriverState, driverSystem.Reaches Careful s ∧
    .returned [0] true ∈ s.closings ∧ ∀ x ∈ [0], x ∈ s.signalled := by
  have hrun : (driverSystem.runChecked careful openedDriver (openTransaction ++ closeDriver)).any
      returnedFirst = true := by decide
  obtain ⟨s, hs, hp⟩ := exists_reaches careful_spec openedDriver_init hrun
  have hmem : .returned [0] true ∈ s.closings := by
    unfold returnedFirst at hp
    split at hp
    case h_1 h => simp [h]
    case h_2 => cases hp
  exact ⟨s, hs, hmem, force_close_reaches hs hmem⟩

/-- The refresh drops the connection of the transaction, and the call does not reach it. -/
theorem not_force_close_reaches : ¬∀ s : DriverState, driverSystem.Reachable s →
    ∀ before ok, .returned before ok ∈ s.closings → ∀ x ∈ before, x ∈ s.signalled := by
  intro h
  have hrun : (driverSystem.runChecked (fun _ _ => true) openedDriver
      (openTransaction ++ refreshDriver ++ closeDriver)).any
      (fun s => returnedFirst s && decide (0 ∉ s.signalled)) = true := by decide
  obtain ⟨s, hs, hp⟩ := exists_reachable openedDriver_init hrun
  obtain ⟨hreturned, hsignalled⟩ := Bool.and_eq_true_iff.mp hp
  unfold returnedFirst at hreturned
  split at hreturned
  case h_1 hclosings =>
    exact of_decide_eq_true hsignalled (h s hs [0] true (by simp [hclosings]) 0 (by simp))
  case h_2 => cases hreturned

end TypeDBDriver
