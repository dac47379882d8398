import TypeDBDriver.Server.Replica

/-!
# The server manager

The network is a parameter: a state of any type, and what opening a connection and asking for the
server list answer and do to it (an answer that does not decode is one of its errors). The functions
below pass a `World`: the manager, the network's state, and two ghost records (the connections that
tasks were run on, and the server lists written into the cached replica set).

* `Network`, `ServerConnection`, `ServerManager`, `World`, `Task`, `WorldTask`.
* `refreshReplicaConnections`, `recordNewReplicaConnection`, `executeOn`, `executeOnAny`,
  `seekPrimaryReplica`, `seekPrimaryReplicaIn`, `getOrSeekPrimaryReplica`,
  `executeStronglyConsistent`, `execute`, `fetchServers`, `new`.
* `seekPrimaryIn`: what `seekPrimaryReplicaIn`, which does not panic, returns.
* `FailoverEvent`: what the failover loop does, in order.
-/

namespace TypeDBDriver

/-- An open connection: the address it was opened to, and which opening it was. -/
structure ServerConnection where
  address : Address
  opening : ℕ
  deriving DecidableEq

/-- The world outside the driver, with a state of type `σ`. -/
structure Network (σ : Type) where
  /-- open a channel to an address and send the connection-open request -/
  openConnection : Address → σ → Result (List ServerProto) × σ
  /-- ask for the server list over a connection -/
  serversAll : ServerConnection → σ → Result (List ServerProto) × σ
  /-- the iteration order of the next hash set that is built -/
  hashOrder : σ → HashOrder AvailableServer

/-- The network's state and the number of connections opened so far. -/
structure Outside (σ : Type) where
  state : σ
  opened : ℕ

structure ServerManager where
  configuredAddresses : Addresses
  replicas : HashSet AvailableServer
  replicaConnections : HashMap Address ServerConnection
  addressTranslation : AddressTranslation
  primaryFailoverRetries : ℕ

/-- A run of a task: the addresses it was directed to and the connection it got. -/
structure TaskRun where
  publicAddress : Address
  privateAddress : Address
  connection : ServerConnection
  deriving DecidableEq

structure World (σ : Type) where
  manager : ServerManager
  outside : Outside σ
  /-- ghost: the runs of tasks, latest last -/
  taskRuns : List TaskRun
  /-- ghost: the server lists written into `replicas`, latest last -/
  cachedReplies : List (List Server)

/-- What a user of the manager runs on a connection. -/
abbrev Task (σ ρ : Type) : Type := ServerConnection → σ → Result ρ × σ

/-- What the manager itself runs on a connection. -/
abbrev WorldTask (σ ρ : Type) : Type := ServerConnection → World σ → Result ρ × World σ

/-- The errors collected while several servers are tried. -/
abbrev ConnectionErrors : Type := HashMap Address Error

variable {σ ρ : Type}

/-- A user's task does not reach into the manager. -/
def Task.lift (task : Task σ ρ) : WorldTask σ ρ := fun c w =>
  let (res, state) := task c w.outside.state
  (res, { w with outside := { w.outside with state } })

/-- `ServerConnection::new` -/
def ServerConnection.new (net : Network σ) (address : Address) (o : Outside σ) :
    Result (ServerConnection × List Server) × Outside σ :=
  match net.openConnection address o.state with
  | (.error e, state) => (.error e, { o with state })
  | (.ok servers, state) =>
    (.ok (⟨address, o.opened⟩, servers.map Server.fromProto), { state, opened := o.opened + 1 })

/-- `ServerConnection::servers_all` -/
def ServerConnection.serversAll (net : Network σ) (connection : ServerConnection) (state : σ) :
    Result (List Server) × σ :=
  match net.serversAll connection state with
  | (.error e, state) => (.error e, state)
  | (.ok servers, state) => (.ok (servers.map Server.fromProto), state)

namespace ServerManager

def readPrimaryReplica (m : ServerManager) : Option AvailableServer :=
  findPrimaryReplica m.replicas.iter

def findReplicaByPrivateAddress (m : ServerManager) (privateAddress : Address) :
    Option AvailableServer :=
  m.replicas.iter.find? fun r => r.privateAddress = privateAddress

def serverConnectionFailedErr (m : ServerManager) (errors : ConnectionErrors) : Error :=
  let accessedAddresses := Addresses.fromAddresses (m.replicas.iter.map AvailableServer.address)
  let details := if errors.entries.isEmpty then "none" else
    ";\n".intercalate (errors.entries.map fun e => s!"'{e.1.display}': '{e.2.display}'")
  .connection (.serverConnectionFailed m.configuredAddresses accessedAddresses details)

/-- The entries of `m` that `keep` keeps. -/
def retain {κ ν : Type} (m : HashMap κ ν) (keep : κ → Bool) : HashMap κ ν :=
  ⟨m.entries.filter fun e => keep e.1, m.nodupKeys.sublist List.filter_sublist⟩

/-- The replicas to ask for the new primary: the failed one only if it is still alive. -/
def failoverCandidates (m : ServerManager) (h : HashOrder AvailableServer)
    (failedAddress : Address) (error : ConnectionError) : HashSet AvailableServer :=
  let replicas := HashSet.collect h m.replicas.iter
  match error with
  | .clusterServerNotPrimary _ => replicas -- server is alive: include it as a candidate to query
  | _ => .collect h (replicas.iter.filter fun r => r.privateAddress ≠ failedAddress)

def translateReplicas (replicas : List Server) (t : AddressTranslation)
    (source : ServerConnection) : List Server :=
  ((replicas.map fun
    -- standalone server without advertised address: use connection address directly
    | .unavailable none => Server.availableFromPrivate source.address none
    | other => other).map fun r => r.translated t).dedup

end ServerManager

namespace World

/-- The hash order of the next set to be built. -/
def hash (net : Network σ) (w : World σ) : HashOrder AvailableServer :=
  net.hashOrder w.outside.state

/-- Overwrite the cached replica set. -/
def writeReplicas (net : Network σ) (replicas : List Server) (w : World σ) : World σ :=
  { w with
    manager := { w.manager with
      replicas := .collect (w.hash net) (filterAvailableReplicas replicas) }
    cachedReplies := w.cachedReplies ++ [replicas] }

def newReplicaConnection (net : Network σ) (address : Address) (w : World σ) :
    Result ServerConnection × World σ :=
  match ServerConnection.new net address w.outside with
  | (.error e, outside) => (.error e, { w with outside })
  | (.ok (connection, _), outside) => (.ok connection, { w with outside })

/-- The loop of `refreshReplicaConnections` over the replicas. -/
def connectReplicas (net : Network σ) (connectionAddresses : List Address) :
    List AvailableServer → ConnectionErrors → HashMap Address ServerConnection → World σ →
      ConnectionErrors × HashMap Address ServerConnection × World σ
  | [], errors, connections, w => (errors, connections, w)
  | replica :: replicas, errors, connections, w =>
    if replica.privateAddress ∈ connectionAddresses then
      connectReplicas net connectionAddresses replicas errors connections w
    else
      match w.newReplicaConnection net replica.address with
      | (.ok connection, w) => connectReplicas net connectionAddresses replicas errors
          (connections.insert replica.privateAddress connection) w
      | (.error e, w) => connectReplicas net connectionAddresses replicas
          (errors.insert replica.address e) connections w

def refreshReplicaConnections (net : Network σ) (w : World σ) : Result Unit × World σ :=
  let replicas := w.manager.replicas.iter
  let connectionAddresses := w.manager.replicaConnections.keys
  let (connectionErrors, newReplicaConnections, w) :=
    connectReplicas net connectionAddresses replicas ∅ ∅ w
  let replicaAddresses := replicas.map AvailableServer.privateAddress
  let retained := ServerManager.retain w.manager.replicaConnections fun a => a ∈ replicaAddresses
  let replicaConnections := newReplicaConnections ∪ retained
  let w := { w with manager := { w.manager with replicaConnections } }
  if replicaConnections.entries.isEmpty then
    (.error (w.manager.serverConnectionFailedErr connectionErrors), w)
  else (.ok (), w)

def recordNewReplicaConnection (net : Network σ) (publicAddress privateAddress : Address)
    (w : World σ) : Result ServerConnection × World σ :=
  match w.newReplicaConnection net publicAddress with
  | (.error e, w) => (.error e, w)
  | (.ok connection, w) =>
    let replicaConnections := w.manager.replicaConnections.insert privateAddress connection
    (.ok connection, { w with manager := { w.manager with replicaConnections } })

/-- Run a task on a connection. -/
def runTask (publicAddress privateAddress : Address) (task : WorldTask σ ρ)
    (connection : ServerConnection) (w : World σ) : Result ρ × World σ :=
  task connection
    { w with taskRuns := w.taskRuns ++ [⟨publicAddress, privateAddress, connection⟩] }

def executeOn (net : Network σ) (publicAddress privateAddress : Address) (task : WorldTask σ ρ)
    (w : World σ) : Result ρ × World σ :=
  match w.manager.replicaConnections.lookup privateAddress with
  | some connection => runTask publicAddress privateAddress task connection w
  | none =>
    match w.recordNewReplicaConnection net publicAddress privateAddress with
    | (.error e, w) => (.error e, w)
    | (.ok connection, w) => runTask publicAddress privateAddress task connection w

def executeOnAny (net : Network σ) (task : WorldTask σ ρ) :
    List AvailableServer → ConnectionErrors → World σ → Result ρ × World σ
  | [], connectionErrors, w => (.error (w.manager.serverConnectionFailedErr connectionErrors), w)
  | replica :: replicas, connectionErrors, w =>
    match w.executeOn net replica.address replica.privateAddress task with
    | (.error (.connection error), w) =>
      executeOnAny net task replicas (connectionErrors.insert replica.address (.connection error)) w
    | res => res

def fetchServersFromConnection (net : Network σ) (t : AddressTranslation) :
    Task σ (List Server) := fun connection state =>
  match connection.serversAll net state with
  | (.error e, state) => (.error e, state)
  | (.ok replicas, state) => (.ok (ServerManager.translateReplicas replicas t connection), state)

def seekPrimaryReplica (net : Network σ) : WorldTask σ AvailableServer := fun connection w =>
  match (fetchServersFromConnection net w.manager.addressTranslation).lift connection w with
  | (.error e, w) => (.error e, w)
  | (.ok replicas, w) =>
    let w := w.writeReplicas net replicas
    match w.manager.readPrimaryReplica with
    | some replica =>
      match w.refreshReplicaConnections net with
      | (.error e, w) => (.error e, w)
      | (.ok (), w) => (.ok replica, w)
    | none => (.error (.connection .noPrimaryServer), w)

def trySeekPrimaryReplicaIn (net : Network σ) (sourceReplicas : List AvailableServer)
    (w : World σ) : Result AvailableServer × World σ :=
  executeOnAny net (seekPrimaryReplica net) sourceReplicas ∅ w

/-- The attempts of `seekPrimaryReplicaIn`, with the number of those left and `last_error`; its
`error none` is the `unwrap` of a `last_error` that was never set. -/
def seekLoop (net : Network σ) (sourceReplicas : List AvailableServer)
    (expectDifferentFrom : Option Address) :
    ℕ → Option Error → World σ → Except (Option Error) AvailableServer × World σ
  | 0, lastError, w => (.error lastError, w)
  | left + 1, lastError, w =>
    match trySeekPrimaryReplicaIn net sourceReplicas w with
    | (.ok replica, w) =>
      -- a stale primary is accepted on the last attempt only
      if expectDifferentFrom = some replica.privateAddress ∧ 0 < left then
        seekLoop net sourceReplicas expectDifferentFrom left lastError w
      else (.ok replica, w)
    | (.error err, w) => seekLoop net sourceReplicas expectDifferentFrom left (some err) w

/-- With an error recorded, or a round left, the loop does not end without one. -/
theorem seekLoop_ne (net : Network σ) (sources : List AvailableServer)
    (different : Option Address) : ∀ (left : ℕ) (lastError : Option Error) (w : World σ),
      lastError ≠ none ∨ 0 < left →
        (seekLoop net sources different left lastError w).1 ≠ .error none
  | 0, lastError, w, h => by
    intro hnone
    exact h.resolve_right (lt_irrefl 0) (Except.error.inj hnone)
  | left + 1, lastError, w, _ => by
    unfold seekLoop
    split
    · split_ifs with hstale
      · exact seekLoop_ne net sources different left lastError _ (.inr hstale.2)
      · nofun
    · exact seekLoop_ne net sources different left _ _ (.inl nofun)

/-- `seek_primary_replica_in`; `none` is the panic of unwrapping a missing `last_error`. -/
def seekPrimaryReplicaIn (net : Network σ) (sourceReplicas : HashSet AvailableServer)
    (retries : ℕ) (expectDifferentFrom : Option Address) (w : World σ) :
    Option (Result AvailableServer) × World σ :=
  match seekLoop net sourceReplicas.iter expectDifferentFrom (retries + 1) none w with
  | (.ok replica, w) => (some (.ok replica), w)
  | (.error lastError, w) => (lastError.map .error, w)

section

variable (net : Network σ) (sources : HashSet AvailableServer) (retries : ℕ)
  (different : Option Address) (w : World σ)

/-- There is a round, so that an error is recorded where nothing is found. -/
theorem isSome_seekPrimaryReplicaIn :
    (w.seekPrimaryReplicaIn net sources retries different).1.isSome = true := by
  have hne := seekLoop_ne net sources.iter different (retries + 1) none w
    (.inr (Nat.succ_pos retries))
  unfold seekPrimaryReplicaIn
  split
  · rfl
  · rename_i lastError w' h
    rw [h] at hne
    cases lastError with
    | none => exact absurd rfl hne
    | some e => rfl

/-- What `seekPrimaryReplicaIn` returns to its callers. -/
def seekPrimaryIn : Result AvailableServer × World σ :=
  ((w.seekPrimaryReplicaIn net sources retries different).1.get
    (isSome_seekPrimaryReplicaIn net sources retries different w),
    (w.seekPrimaryReplicaIn net sources retries different).2)

theorem seekPrimaryReplicaIn_eq : w.seekPrimaryReplicaIn net sources retries different =
    (some (w.seekPrimaryIn net sources retries different).1,
      (w.seekPrimaryIn net sources retries different).2) := by
  rw [seekPrimaryIn, Option.some_get]

/-- A seek leaves the world as its loop does. -/
theorem seekPrimaryIn_world : (w.seekPrimaryIn net sources retries different).2 =
    (seekLoop net sources.iter different (retries + 1) none w).2 := by
  show (w.seekPrimaryReplicaIn net sources retries different).2 = _
  unfold seekPrimaryReplicaIn
  rcases seekLoop net sources.iter different (retries + 1) none w with ⟨_ | _, w'⟩ <;> rfl

variable {net sources retries different w}

theorem seekLoop_of_seekPrimaryIn_ok {w' : World σ} {r : AvailableServer}
    (h : w.seekPrimaryIn net sources retries different = (.ok r, w')) :
    seekLoop net sources.iter different (retries + 1) none w = (.ok r, w') := by
  have hseek := seekPrimaryReplicaIn_eq net sources retries different w
  rw [h] at hseek
  unfold seekPrimaryReplicaIn at hseek
  split at hseek
  · rename_i hloop
    cases hseek
    exact hloop
  · rename_i lastError _ _
    cases lastError <;> cases hseek

end

def getOrSeekPrimaryReplica (net : Network σ) (retries : ℕ) (w : World σ) :
    Result AvailableServer × World σ :=
  match w.manager.readPrimaryReplica with
  | some replica => (.ok replica, w)
  | none =>
    let replicas := HashSet.collect (w.hash net) w.manager.replicas.iter
    match replicas.iter with
    | [replica] =>
      -- only replica without status: not a cluster
      if replica.replicationStatus = none then (.ok replica, w)
      else w.seekPrimaryIn net replicas retries none
    | _ => w.seekPrimaryIn net replicas retries none

end World

/-- What the failover loop does: it runs the task on a replica (`known` is the cached replica set
right after the run), or seeks the primary among some replicas. -/
inductive FailoverEvent (ρ : Type)
  | run (replica : AvailableServer) (known : List AvailableServer) (result : Result ρ)
  | seek (sources : List AvailableServer) (result : Result AvailableServer)

namespace World

/-- The replica that the error's hint names, if it is known. -/
def hintedReplica (m : ServerManager) : ConnectionError → Option AvailableServer
  | .clusterServerNotPrimary (some hint) => m.findReplicaByPrivateAddress hint
  | _ => none

/-- The loop of `executeStronglyConsistent`, with the number of passes left. -/
def failoverLoop (net : Network σ) (task : WorldTask σ ρ) (retries : ℕ) :
    ℕ → AvailableServer → ConnectionErrors → World σ →
      List (FailoverEvent ρ) × Result ρ × World σ
  | 0, _, connectionErrors, w =>
    ([], .error (w.manager.serverConnectionFailedErr connectionErrors), w)
  | left + 1, primary, connectionErrors, w =>
    let privateAddress := primary.privateAddress
    match w.executeOn net primary.address privateAddress task with
    | (.ok result, w) => ([.run primary w.manager.replicas.iter (.ok result)], .ok result, w)
    | (.error (.connection connectionError), w) =>
      let ran := .run primary w.manager.replicas.iter (.error (.connection connectionError))
      let connectionErrors := connectionErrors.insert primary.address (.connection connectionError)
      match hintedReplica w.manager connectionError with
      | some hinted =>
        let (events, res) := failoverLoop net task retries left hinted connectionErrors w
        (ran :: events, res)
      | none =>
        let candidates :=
          w.manager.failoverCandidates (w.hash net) privateAddress connectionError
        match w.seekPrimaryIn net candidates retries (some privateAddress) with
        | (.ok replica, w) =>
          let (events, res) := failoverLoop net task retries left replica connectionErrors w
          (ran :: .seek candidates.iter (.ok replica) :: events, res)
        | (.error e, w) => ([ran, .seek candidates.iter (.error e)],
            .error (w.manager.serverConnectionFailedErr connectionErrors), w)
    | (.error err, w) => ([.run primary w.manager.replicas.iter (.error err)], .error err, w)

/-- `execute_strongly_consistent`, with the events of its loop. -/
def executeStronglyConsistent (net : Network σ) (task : WorldTask σ ρ) (w : World σ) :
    List (FailoverEvent ρ) × Result ρ × World σ :=
  let retries := w.manager.primaryFailoverRetries
  match w.getOrSeekPrimaryReplica net retries with
  | (.error e, w) => ([], .error e, w)
  | (.ok primary, w) => failoverLoop net task retries (retries + 1) primary ∅ w

end World

/-- Server routing directive for operations against a distributed server. -/
inductive ServerRouting
  | auto
  | direct (address : Address)
  deriving DecidableEq

namespace World

/-- The private address that a directly routed address is taken to mean. -/
def directPrivateAddress (t : AddressTranslation) (address : Address) : Address :=
  (t.toPrivate address).getD address

def execute (net : Network σ) (serverRouting : ServerRouting) (task : WorldTask σ ρ)
    (w : World σ) : Result ρ × World σ :=
  match serverRouting with
  | .auto => (w.executeStronglyConsistent net task).2
  | .direct address =>
    if (w.manager.replicas.iter.find? fun r => r.address = address).isNone then
      let knownAddresses :=
        Addresses.fromAddresses (w.manager.replicas.iter.map AvailableServer.address)
      (.error (.connection (.unknownDirectServerRouting address knownAddresses)), w)
    else
      w.executeOn net address (directPrivateAddress w.manager.addressTranslation address) task

def fetchServers (net : Network σ) (serverRouting : ServerRouting) (w : World σ) :
    Result (List Server) × World σ :=
  match w.execute net serverRouting
      (fetchServersFromConnection net w.manager.addressTranslation).lift with
  | (.error e, w) => (.error e, w)
  | (.ok replicas, w) =>
    match serverRouting with
    -- update cached replicas since it's the most recent info
    | .auto => (.ok replicas, w.writeReplicas net replicas)
    | .direct _ => (.ok replicas, w)

def fetchPrimaryServer (net : Network σ) (serverRouting : ServerRouting) (w : World σ) :
    Result (Option AvailableServer) × World σ :=
  match w.fetchServers net serverRouting with
  | (.error e, w) => (.error e, w)
  | (.ok replicas, w) => (.ok (findPrimaryReplica (filterAvailableReplicas replicas)), w)

def refreshReplicas (net : Network σ) (w : World σ) : Result Unit × World σ :=
  match w.fetchServers net .auto with
  | (.error e, w) => (.error e, w)
  | (.ok _, w) => (.ok (), w)

end World

namespace ServerManager

/-- The loop of `fetchServersFromAddresses`: the connection of the first address that answers,
under that address, and the servers it lists. -/
def fetchServersFromAddresses (net : Network σ) (addresses : Addresses) :
    List Address → List ConnectionError → Outside σ →
      Result (HashMap Address ServerConnection × List Server) × Outside σ
  | [], errors, o =>
    (.error (.connection (.serverConnectionFailed addresses addresses
      (";\n".intercalate (errors.map fun e => (Error.connection e).display)))), o)
  | address :: rest, errors, o =>
    match ServerConnection.new net address o with
    | (.ok (replicaConnection, replicas), o) =>
      let translatedReplicas :=
        translateReplicas replicas addresses.addressTranslation replicaConnection
      (.ok (AList.singleton address replicaConnection, translatedReplicas), o)
    | (.error (.connection err), o) =>
      fetchServersFromAddresses net addresses rest (errors ++ [err]) o
    | (.error err, o) => (.error err, o)

/-- The manager as `new` builds it, before its first refresh. -/
def initial (net : Network σ) (addresses : Addresses) (retries : ℕ)
    (sourceConnections : HashMap Address ServerConnection) (replicas : List Server)
    (o : Outside σ) : World σ where
  manager :=
    { configuredAddresses := addresses
      replicas := .collect (net.hashOrder o.state) (filterAvailableReplicas replicas)
      replicaConnections := sourceConnections
      addressTranslation := addresses.addressTranslation
      primaryFailoverRetries := retries }
  outside := o
  taskRuns := []
  cachedReplies := [replicas]

def new (net : Network σ) (addresses : Addresses) (retries : ℕ) (state : σ) : Result (World σ) :=
  match fetchServersFromAddresses net addresses addresses.addresses [] ⟨state, 0⟩ with
  | (.error e, _) => .error e
  | (.ok (sourceConnections, replicas), o) =>
    match (initial net addresses retries sourceConnections replicas o).refreshReplicaConnections
        net with
    | (.error e, _) => .error e
    | (.ok (), w) => .ok w

end ServerManager

end TypeDBDriver
