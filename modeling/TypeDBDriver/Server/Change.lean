import Mathlib.Logic.Relation
import TypeDBDriver.Server.Manager

/-!
# What the operations of the server manager change

* `Change net D`: one elementary change of a world, where `D a k` allows a connection to the
  address `a` to be kept and used under the private address `k`.
* `Sound t`: the manager translates by `t`, and so are the replicas that it knows.
* `mem_of_seekPrimaryIn`: the replica that a seek returns is known.
* **`execute_changes`**, **`fetchServers_changes`**: every operation is a series of changes.
-/

open Relation

namespace TypeDBDriver

/-- The address a server is reached at: its public translation if it has one. -/
def AddressTranslation.networkAddress (t : AddressTranslation) (privateAddress : Address) :
    Address :=
  (t.toPublic privateAddress).getD privateAddress

/-- The public address of a replica is what `t` translates its private address to. -/
def AvailableServer.TranslatedBy (t : AddressTranslation) (r : AvailableServer) : Prop :=
  r.publicAddress = t.toPublic r.privateAddress

theorem AvailableServer.TranslatedBy.address {t : AddressTranslation} {r : AvailableServer}
    (h : r.TranslatedBy t) : r.address = t.networkAddress r.privateAddress := by
  rw [AvailableServer.address, h, AddressTranslation.networkAddress]

theorem AvailableServer.translated_fromPrivate (t : AddressTranslation) (k : Address)
    (status : Option ReplicationStatus) :
    ((AvailableServer.fromPrivate k status).translated t).TranslatedBy t := by
  unfold AvailableServer.translated AvailableServer.TranslatedBy AvailableServer.fromPrivate
  cases h : t.toPublic k <;> simp [h]

/-- The private address under which a server in a reply becomes known, if it does: its own one,
or that of the connection it was asked over if it has no replication status. -/
def ServerProto.knownAs (source : ServerConnection) (proto : ServerProto) : Option Address :=
  match proto.address with
  | some address => some address
  | none => if proto.replicationStatus = none then some source.address else none

theorem ServerManager.mem_translateReplicas_iff {reports : List ServerProto}
    {t : AddressTranslation} {source : ServerConnection} {r : AvailableServer} :
    .available r ∈ translateReplicas (reports.map Server.fromProto) t source ↔
      ∃ proto ∈ reports, ∃ k, proto.knownAs source = some k ∧
        (AvailableServer.fromPrivate k proto.replicationStatus).translated t = r := by
  rw [translateReplicas, List.mem_dedup, List.map_map, List.map_map, List.mem_map]
  refine exists_congr fun ⟨address, status⟩ => and_congr_right fun _ => ?_
  cases address with
  | some k =>
    simp [Server.fromProto, Server.availableFromPrivate, Server.translated, ServerProto.knownAs]
  | none =>
    cases status <;>
      simp [Server.fromProto, Server.availableFromPrivate, Server.translated, ServerProto.knownAs]

theorem ServerManager.mem_translateReplicas {reports : List ServerProto} {t : AddressTranslation}
    {source : ServerConnection} {r : AvailableServer}
    (h : .available r ∈ translateReplicas (reports.map Server.fromProto) t source) :
    r.TranslatedBy t := by
  obtain ⟨proto, -, k, -, rfl⟩ := mem_translateReplicas_iff.mp h
  exact AvailableServer.translated_fromPrivate t k proto.replicationStatus

variable {σ ρ : Type}

namespace World

/-- One elementary change of a world by an operation of its manager. -/
inductive Change (net : Network σ) (D : Address → Address → Prop) : World σ → World σ → Prop
  /-- the network moves on -/
  | outside (w : World σ) (outside : Outside σ) : Change net D w { w with outside }
  /-- the cached replicas are overwritten by a server's list -/
  | write (w : World σ) (reports : List ServerProto) (source : ServerConnection) :
    Change net D w (w.writeReplicas net (ServerManager.translateReplicas
      (reports.map Server.fromProto) w.manager.addressTranslation source))
  /-- connections are dropped, and allowed ones are added -/
  | connect (w : World σ) (replicaConnections : HashMap Address ServerConnection)
      (allowed : ∀ k c, replicaConnections.lookup k = some c →
        w.manager.replicaConnections.lookup k = some c ∨ D c.address k) :
    Change net D w { w with manager := { w.manager with replicaConnections } }
  /-- a task is run on a recorded connection -/
  | run (w : World σ) (publicAddress privateAddress : Address) (connection : ServerConnection)
      (allowed : D publicAddress privateAddress)
      (recorded : w.manager.replicaConnections.lookup privateAddress = some connection) :
    Change net D w
      { w with taskRuns := w.taskRuns ++ [⟨publicAddress, privateAddress, connection⟩] }

/-- A series of changes. -/
abbrev Changes (net : Network σ) (D : Address → Address → Prop) : World σ → World σ → Prop :=
  ReflTransGen (Change net D)

/-- The manager translates addresses by `t`, and every replica that it knows is translated. -/
structure Sound (t : AddressTranslation) (w : World σ) : Prop where
  translation : w.manager.addressTranslation = t
  translated : ∀ r ∈ w.manager.replicas.iter, r.TranslatedBy t

variable {net : Network σ} {D : Address → Address → Prop} {t : AddressTranslation}

theorem Change.sound {w w' : World σ} (h : Change net D w w') (hw : w.Sound t) : w'.Sound t := by
  cases h with
  | outside | connect | run => exact ⟨hw.translation, hw.translated⟩
  | write reports source =>
    refine ⟨hw.translation, fun r hr => ?_⟩
    rw [hw.translation] at hr
    have hr := mem_filterAvailableReplicas.mp (HashSet.mem_collect.mp hr)
    exact ServerManager.mem_translateReplicas hr

theorem Changes.sound {w w' : World σ} (h : Changes net D w w') (hw : w.Sound t) : w'.Sound t := by
  induction h with
  | refl => exact hw
  | tail _ h ih => exact h.sound ih

/-! ## Connections -/

variable (net) in
theorem newReplicaConnection_outside (address : Address) (w : World σ) :
    ∃ outside, (w.newReplicaConnection net address).2 = { w with outside } := by
  unfold newReplicaConnection
  rcases ServerConnection.new net address w.outside with ⟨_ | ⟨c, servers⟩, o⟩
  · exact ⟨o, rfl⟩
  · exact ⟨o, rfl⟩

theorem ServerConnection.new_address {net : Network σ} {address : Address} {o o' : Outside σ}
    {c : ServerConnection} {servers : List Server}
    (h : ServerConnection.new net address o = (.ok (c, servers), o')) : c.address = address := by
  unfold ServerConnection.new at h
  split at h
  · cases h
  · cases h; rfl

theorem newReplicaConnection_address {address : Address} {w w' : World σ} {c : ServerConnection}
    (h : w.newReplicaConnection net address = (.ok c, w')) : c.address = address := by
  unfold newReplicaConnection at h
  split at h
  · cases h
  · cases h
    exact ServerConnection.new_address ‹_›

variable (net) in
theorem connectReplicas_spec (connected : List Address) :
    ∀ (replicas : List AvailableServer) (errors : ConnectionErrors)
      (connections : HashMap Address ServerConnection) (w : World σ),
      (∃ outside, (connectReplicas net connected replicas errors connections w).2.2 =
        { w with outside }) ∧
      ∀ k c, (connectReplicas net connected replicas errors connections w).2.1.lookup k = some c →
        connections.lookup k = some c ∨
          ∃ r ∈ replicas, r.privateAddress = k ∧ c.address = r.address
  | [], errors, connections, w => ⟨⟨w.outside, rfl⟩, fun k c h => .inl h⟩
  | r :: replicas, errors, connections, w => by
    unfold connectReplicas
    split_ifs with hk
    · obtain ⟨ho, hc⟩ := connectReplicas_spec connected replicas errors connections w
      refine ⟨ho, fun k c h => (hc k c h).imp_right ?_⟩
      rintro ⟨x, hx, h⟩
      exact ⟨x, List.mem_cons_of_mem _ hx, h⟩
    · obtain ⟨o, ho⟩ := newReplicaConnection_outside net r.address w
      rcases hn : w.newReplicaConnection net r.address with ⟨e | c, w₁⟩
      · obtain rfl : w₁ = { w with outside := o } := by rw [hn] at ho; exact ho
        obtain ⟨ho, hc⟩ := connectReplicas_spec connected replicas (errors.insert r.address e)
          connections { w with outside := o }
        refine ⟨ho, fun k c h => (hc k c h).imp_right ?_⟩
        rintro ⟨x, hx, h⟩
        exact ⟨x, List.mem_cons_of_mem _ hx, h⟩
      · obtain rfl : w₁ = { w with outside := o } := by rw [hn] at ho; exact ho
        obtain ⟨ho, hc⟩ := connectReplicas_spec connected replicas errors
          (connections.insert r.privateAddress c) { w with outside := o }
        refine ⟨ho, fun k d h => ?_⟩
        rcases hc k d h with h | ⟨x, hx, h⟩
        · by_cases hkr : k = r.privateAddress
          · rw [hkr, AList.lookup_insert] at h
            obtain rfl := Option.some.inj h
            exact .inr ⟨r, List.mem_cons_self, hkr.symm, newReplicaConnection_address hn⟩
          · rw [AList.lookup_insert_ne hkr] at h
            exact .inl h
        · exact .inr ⟨x, List.mem_cons_of_mem _ hx, h⟩

variable (net) in
/-- Addresses that are connected already get no new connection. -/
theorem connectReplicas_connected {connected : List Address} {k : Address} (hk : k ∈ connected) :
    ∀ (replicas : List AvailableServer) (errors : ConnectionErrors)
      (connections : HashMap Address ServerConnection) (w : World σ),
      (connectReplicas net connected replicas errors connections w).2.1.lookup k =
        connections.lookup k
  | [], errors, connections, w => rfl
  | r :: replicas, errors, connections, w => by
    unfold connectReplicas
    split_ifs with hr
    · exact connectReplicas_connected hk replicas errors connections w
    · have hne : k ≠ r.privateAddress := fun h => hr (h ▸ hk)
      split
      · rw [connectReplicas_connected hk replicas, AList.lookup_insert_ne hne]
      · exact connectReplicas_connected hk replicas _ _ _

theorem lookup_retain {κ ν : Type} [DecidableEq κ] {m : HashMap κ ν} {keep : κ → Bool} {k : κ}
    {v : ν} : (ServerManager.retain m keep).lookup k = some v ↔
      m.lookup k = some v ∧ keep k = true := by
  rw [← Option.mem_def, ← Option.mem_def, AList.mem_lookup_iff, AList.mem_lookup_iff]
  exact List.mem_filter

variable (net) in
/-- What the connections are after a refresh: old ones of known replicas and new ones to them. -/
theorem refreshReplicaConnections_spec (w : World σ) :
    ∃ outside replicaConnections,
      (w.refreshReplicaConnections net).2 =
        { w with outside, manager := { w.manager with replicaConnections } } ∧
      ∀ k c, replicaConnections.lookup k = some c →
        (w.manager.replicaConnections.lookup k = some c ∧
          ∃ r ∈ w.manager.replicas.iter, r.privateAddress = k) ∨
        ∃ r ∈ w.manager.replicas.iter, r.privateAddress = k ∧ c.address = r.address := by
  obtain ⟨⟨o, ho⟩, hc⟩ := connectReplicas_spec net w.manager.replicaConnections.keys
    w.manager.replicas.iter ∅ ∅ w
  unfold refreshReplicaConnections
  rcases hr : connectReplicas net w.manager.replicaConnections.keys w.manager.replicas.iter ∅ ∅ w
    with ⟨errors, connections, w₁⟩
  rw [hr] at ho hc
  obtain rfl : w₁ = { w with outside := o } := ho
  refine ⟨o, connections ∪ ServerManager.retain w.manager.replicaConnections
    fun a => a ∈ w.manager.replicas.iter.map AvailableServer.privateAddress, ?_, fun k c h => ?_⟩
  · simp only [hr]
    split_ifs <;> rfl
  · rcases AList.mem_lookup_union.mp h with h | ⟨-, h⟩
    · rcases hc k c h with h | h
      · cases h
      · exact .inr h
    · obtain ⟨h, hk⟩ := lookup_retain.mp h
      obtain ⟨r, hr, hrk⟩ := List.mem_map.mp (of_decide_eq_true hk)
      exact .inl ⟨h, r, hr, hrk⟩

variable (net) in
/-- A refresh keeps the connections of known replicas. -/
theorem refreshReplicaConnections_keeps {w : World σ} {k : Address} {c : ServerConnection}
    (h : w.manager.replicaConnections.lookup k = some c)
    (hknown : ∃ r ∈ w.manager.replicas.iter, r.privateAddress = k) :
    (w.refreshReplicaConnections net).2.manager.replicaConnections.lookup k = some c := by
  have hmem : k ∈ w.manager.replicaConnections.keys :=
    AList.mem_keys.mp (AList.lookup_isSome.mp (h ▸ rfl))
  have hnew := connectReplicas_connected net hmem w.manager.replicas.iter ∅ ∅ w
  obtain ⟨⟨o, ho⟩, -⟩ := connectReplicas_spec net w.manager.replicaConnections.keys
    w.manager.replicas.iter ∅ ∅ w
  unfold refreshReplicaConnections
  rcases hr : connectReplicas net w.manager.replicaConnections.keys w.manager.replicas.iter ∅ ∅ w
    with ⟨errors, connections, w₁⟩
  rw [hr] at ho hnew
  obtain rfl : w₁ = { w with outside := o } := ho
  have hretained : (connections ∪ ServerManager.retain w.manager.replicaConnections
      fun a => a ∈ w.manager.replicas.iter.map AvailableServer.privateAddress).lookup k = some c :=
    AList.mem_lookup_union.mpr (.inr ⟨AList.lookup_eq_none.mp hnew,
      lookup_retain.mpr ⟨h, decide_eq_true (List.mem_map.mpr hknown)⟩⟩)
  simp only [hr]
  split_ifs <;> exact hretained

variable (net) in
theorem refreshReplicaConnections_replicas (w : World σ) :
    (w.refreshReplicaConnections net).2.manager.replicas = w.manager.replicas := by
  obtain ⟨o, connections, h, -⟩ := refreshReplicaConnections_spec net w
  rw [h]

/-- A refresh that succeeds leaves a connection, and so there is a known replica. -/
theorem refreshReplicaConnections_ok {w w' : World σ}
    (h : w.refreshReplicaConnections net = (.ok (), w')) : w'.manager.replicas.iter ≠ [] := by
  obtain ⟨o, connections, hw', hc⟩ := refreshReplicaConnections_spec net w
  rw [h] at hw'
  obtain rfl : w' = { w with outside := o, manager := { w.manager with
    replicaConnections := connections } } := hw'
  have hne : connections.entries ≠ [] := by
    unfold refreshReplicaConnections at h
    dsimp only at h
    split_ifs at h with hempty
    · cases h
    · have hconn := congrArg (fun res => res.2.manager.replicaConnections) h
      dsimp only at hconn
      rw [← hconn]
      simpa using hempty
  obtain ⟨⟨k, c⟩, hmem⟩ := List.exists_mem_of_ne_nil _ hne
  rcases hc k c (AList.mem_lookup_iff.mpr hmem) with ⟨-, r, hr, -⟩ | ⟨r, hr, -⟩
  · exact List.ne_nil_of_mem hr
  · exact List.ne_nil_of_mem hr

/-! ## Tasks on replicas -/

variable {task : WorldTask σ ρ}

/-- A task that only changes what the operations may change. -/
def KeepsSound (net : Network σ) (D : Address → Address → Prop) (t : AddressTranslation)
    (task : WorldTask σ ρ) : Prop :=
  ∀ c (w : World σ), w.Sound t → Changes net D w (task c w).2

theorem Task.lift_eq {task : Task σ ρ} {c : ServerConnection} {w w' : World σ} {res : Result ρ}
    (h : task.lift c w = (res, w')) : task c w.outside.state = (res, w'.outside.state) := by
  unfold Task.lift at h
  obtain ⟨rfl, rfl⟩ := Prod.mk.inj h
  rfl

variable (net D t) in
theorem keepsSound_lift (task : Task σ ρ) : KeepsSound net D t task.lift :=
  fun _ w _ => .single (.outside w _)

variable (net) in
theorem recordNewReplicaConnection_spec {publicAddress privateAddress : Address}
    (hD : D publicAddress privateAddress) (w : World σ) :
    Changes net D w (w.recordNewReplicaConnection net publicAddress privateAddress).2 ∧
      ∀ c, (w.recordNewReplicaConnection net publicAddress privateAddress).1 = .ok c →
        (w.recordNewReplicaConnection net publicAddress privateAddress).2.manager.replicaConnections.lookup
          privateAddress = some c := by
  obtain ⟨o, ho⟩ := newReplicaConnection_outside net publicAddress w
  unfold recordNewReplicaConnection
  rcases hn : w.newReplicaConnection net publicAddress with ⟨e | c, w₁⟩
  · obtain rfl : w₁ = { w with outside := o } := by rw [hn] at ho; exact ho
    exact ⟨.single (.outside w o), nofun⟩
  · obtain rfl : w₁ = { w with outside := o } := by rw [hn] at ho; exact ho
    refine ⟨.tail (.single (.outside w o)) (.connect _ _ fun k d h => ?_), ?_⟩
    · by_cases hk : k = privateAddress
      · rw [hk, AList.lookup_insert] at h
        obtain rfl := Option.some.inj h
        rw [newReplicaConnection_address hn, hk]
        exact .inr hD
      · rw [AList.lookup_insert_ne hk] at h
        exact .inl h
    · rintro d ⟨⟩
      exact AList.lookup_insert _

theorem runTask_changes {publicAddress privateAddress : Address}
    (hD : D publicAddress privateAddress) (hT : KeepsSound net D t task) {w : World σ}
    (hw : w.Sound t) {c : ServerConnection}
    (hc : w.manager.replicaConnections.lookup privateAddress = some c) :
    Changes net D w (runTask publicAddress privateAddress task c w).2 := by
  have hrun : Change net D w _ := .run w publicAddress privateAddress c hD hc
  exact .head hrun (hT c _ (hrun.sound hw))

theorem executeOn_changes {publicAddress privateAddress : Address}
    (hD : D publicAddress privateAddress) (hT : KeepsSound net D t task) {w : World σ}
    (hw : w.Sound t) : Changes net D w (w.executeOn net publicAddress privateAddress task).2 := by
  unfold executeOn
  cases hc : w.manager.replicaConnections.lookup privateAddress with
  | some c => exact runTask_changes hD hT hw hc
  | none =>
    obtain ⟨hch, hrec⟩ := recordNewReplicaConnection_spec net hD w
    rcases hn : w.recordNewReplicaConnection net publicAddress privateAddress with ⟨e | c, w₁⟩
    · rw [hn] at hch
      exact hch
    · rw [hn] at hch hrec
      exact hch.trans (runTask_changes hD hT (hch.sound hw) (hrec c rfl))

theorem fetchServersFromConnection_ok {c : ServerConnection} {w w' : World σ}
    {replicas : List Server}
    (h : (fetchServersFromConnection net t).lift c w = (.ok replicas, w')) :
    ∃ reports : List ServerProto,
      ServerManager.translateReplicas (reports.map Server.fromProto) t c = replicas ∧
      w'.manager = w.manager := by
  unfold Task.lift fetchServersFromConnection ServerConnection.serversAll at h
  rcases hs : net.serversAll c w.outside.state with ⟨e | reports, state⟩
  · rw [hs] at h
    cases h
  · rw [hs] at h
    cases h
    exact ⟨reports, rfl, rfl⟩

/-! ## Where the results come from -/

theorem executeOn_ok {publicAddress privateAddress : Address} {w w' : World σ} {v : ρ}
    (h : w.executeOn net publicAddress privateAddress task = (.ok v, w')) :
    ∃ c w₀, task c w₀ = (.ok v, w') := by
  unfold executeOn at h
  split at h
  · exact ⟨_, _, h⟩
  · split at h
    · cases h
    · exact ⟨_, _, h⟩

theorem executeOnAny_ok {w' : World σ} {v : ρ} :
    ∀ {replicas : List AvailableServer} {errors : ConnectionErrors} {w : World σ},
      executeOnAny net task replicas errors w = (.ok v, w') → ∃ c w₀, task c w₀ = (.ok v, w')
  | [], errors, w, h => by cases h
  | r :: replicas, errors, w, h => by
    unfold executeOnAny at h
    split at h
    · exact executeOnAny_ok h
    · exact executeOn_ok h

theorem mem_of_readPrimaryReplica {m : ServerManager} {r : AvailableServer}
    (h : m.readPrimaryReplica = some r) : r ∈ m.replicas.iter :=
  (mem_of_findPrimaryReplica h).1

theorem mem_of_seekPrimaryReplica {c : ServerConnection} {w w' : World σ} {r : AvailableServer}
    (h : seekPrimaryReplica net c w = (.ok r, w')) : r ∈ w'.manager.replicas.iter := by
  unfold seekPrimaryReplica at h
  split at h
  · cases h
  · rename_i replicas w₁ hf
    simp only at h
    split at h
    · rename_i x hx
      split at h
      · cases h
      · rename_i w₂ hc
        have hrep := refreshReplicaConnections_replicas net (w₁.writeReplicas net replicas)
        obtain ⟨rfl, rfl⟩ : x = r ∧ w₂ = w' := by simpa using h
        rw [hc] at hrep
        rw [hrep]
        exact mem_of_readPrimaryReplica hx
    · cases h

theorem mem_of_seekLoop {sources : List AvailableServer} {different : Option Address}
    {w' : World σ} {r : AvailableServer} :
    ∀ {left : ℕ} {lastError : Option Error} {w : World σ},
      seekLoop net sources different left lastError w = (.ok r, w') →
        r ∈ w'.manager.replicas.iter
  | 0, lastError, w, h => by cases h
  | left + 1, lastError, w, h => by
    unfold seekLoop at h
    split at h
    · rename_i x w₁ ha
      split_ifs at h
      · exact mem_of_seekLoop h
      · obtain ⟨rfl, rfl⟩ : x = r ∧ w₁ = w' := by simpa using h
        obtain ⟨c, w₀, hs⟩ := executeOnAny_ok ha
        exact mem_of_seekPrimaryReplica hs
    · exact mem_of_seekLoop h

theorem mem_of_seekPrimaryIn {sources : HashSet AvailableServer} {retries : ℕ}
    {different : Option Address} {w w' : World σ} {r : AvailableServer}
    (h : w.seekPrimaryIn net sources retries different = (.ok r, w')) :
    r ∈ w'.manager.replicas.iter :=
  mem_of_seekLoop (seekLoop_of_seekPrimaryIn_ok h)

theorem mem_of_getOrSeekPrimaryReplica {retries : ℕ} {w w' : World σ} {r : AvailableServer}
    (h : w.getOrSeekPrimaryReplica net retries = (.ok r, w')) : r ∈ w'.manager.replicas.iter := by
  unfold getOrSeekPrimaryReplica at h
  split at h
  · rename_i x hx
    obtain ⟨rfl, rfl⟩ : x = r ∧ w = w' := by simpa using h
    exact mem_of_readPrimaryReplica hx
  · simp only at h
    split at h
    · rename_i x hx
      split_ifs at h
      · obtain ⟨rfl, rfl⟩ : x = r ∧ w = w' := by simpa using h
        exact HashSet.mem_collect.mp (HashSet.mem_iter.mp (hx ▸ List.mem_singleton_self x))
      · exact mem_of_seekPrimaryIn h
    · exact mem_of_seekPrimaryIn h

theorem mem_of_hintedReplica {m : ServerManager} {error : ConnectionError} {r : AvailableServer}
    (h : hintedReplica m error = some r) : r ∈ m.replicas.iter := by
  unfold hintedReplica at h
  split at h
  · exact List.mem_of_find?_eq_some h
  · cases h

theorem failoverLoop_ok {retries : ℕ} {w' : World σ} {v : ρ} :
    ∀ {left : ℕ} {primary : AvailableServer} {errors : ConnectionErrors} {w : World σ},
      (failoverLoop net task retries left primary errors w).2 = (.ok v, w') →
        ∃ c w₀, task c w₀ = (.ok v, w')
  | 0, primary, errors, w, h => by cases h
  | left + 1, primary, errors, w, h => by
    unfold failoverLoop at h
    dsimp only at h
    split at h
    · rename_i v₁ w₁ ho
      obtain ⟨rfl, rfl⟩ : v₁ = v ∧ w₁ = w' := by simpa using h
      exact executeOn_ok ho
    · split at h
      · exact failoverLoop_ok h
      · split at h
        · exact failoverLoop_ok h
        · cases h
    · cases h

theorem execute_ok {routing : ServerRouting} {w w' : World σ} {v : ρ}
    (h : w.execute net routing task = (.ok v, w')) : ∃ c w₀, task c w₀ = (.ok v, w') := by
  cases routing with
  | auto =>
    unfold execute executeStronglyConsistent at h
    dsimp only at h
    split at h
    · cases h
    · exact failoverLoop_ok h
  | direct a =>
    unfold execute at h
    dsimp only at h
    split_ifs at h
    · cases h
    · exact executeOn_ok h

/-! ## Operations -/

theorem HashSet.translated_collect (h : HashOrder AvailableServer) {w : World σ}
    (hw : w.Sound t) : ∀ r ∈ (HashSet.collect h w.manager.replicas.iter).iter, r.TranslatedBy t :=
  fun r hr => hw.translated r (HashSet.mem_collect.mp hr)

theorem failoverCandidates_translated (h : HashOrder AvailableServer) {w : World σ}
    (hw : w.Sound t) (failed : Address) (error : ConnectionError) :
    ∀ r ∈ (w.manager.failoverCandidates h failed error).iter, r.TranslatedBy t := by
  intro r hr
  unfold ServerManager.failoverCandidates at hr
  simp only at hr
  split at hr
  · exact HashSet.translated_collect h hw r hr
  · have hr := List.mem_filter.mp (HashSet.mem_collect.mp hr)
    exact HashSet.translated_collect h hw r hr.1

section Replicas

variable (hD : ∀ r : AvailableServer, r.TranslatedBy t → D r.address r.privateAddress)
include hD

theorem executeOnAny_changes (hT : KeepsSound net D t task) :
    ∀ (replicas : List AvailableServer) (errors : ConnectionErrors) {w : World σ}, w.Sound t →
      (∀ r ∈ replicas, r.TranslatedBy t) →
      Changes net D w (executeOnAny net task replicas errors w).2
  | [], errors, w, hw, hr => .refl
  | r :: replicas, errors, w, hw, hr => by
    have hon := executeOn_changes (hD r (hr r List.mem_cons_self)) hT hw
    unfold executeOnAny
    split
    · rename_i e w₁ he
      rw [he] at hon
      exact hon.trans (executeOnAny_changes hT replicas _ (hon.sound hw)
        fun x hx => hr x (List.mem_cons_of_mem _ hx))
    · exact hon

variable (net) in
theorem connect_changes {w : World σ} (hw : w.Sound t) :
    Changes net D w (w.refreshReplicaConnections net).2 := by
  obtain ⟨o, connections, h, hc⟩ := refreshReplicaConnections_spec net w
  rw [h]
  refine .tail (.single (.outside w o)) (.connect _ connections fun k c hk => ?_)
  rcases hc k c hk with ⟨hk, -⟩ | ⟨r, hr, hrk, hrc⟩
  · exact .inl hk
  · rw [hrc, ← hrk]
    exact .inr (hD r (hw.translated r hr))

variable (net) in
theorem seekPrimaryReplica_changes : KeepsSound net D t (seekPrimaryReplica net) := by
  intro c w hw
  have hlift := keepsSound_lift net D t
    (fetchServersFromConnection net w.manager.addressTranslation) c w hw
  unfold seekPrimaryReplica
  rcases hf : (fetchServersFromConnection net w.manager.addressTranslation).lift c w
    with ⟨e | replicas, w₁⟩
  · rw [hf] at hlift
    exact hlift
  · rw [hf] at hlift
    obtain ⟨reports, rfl, hm⟩ := fetchServersFromConnection_ok hf
    rw [← hm]
    have hwrite : Changes net D w _ := hlift.tail (.write w₁ reports c)
    have hconn := hwrite.trans (connect_changes net hD (Changes.sound hwrite hw))
    simp only
    split
    · split
      · rename_i h
        rw [h] at hconn
        exact hconn
      · rename_i h
        rw [h] at hconn
        exact hconn
    · exact hwrite

variable (net) in
theorem seekLoop_changes {sources : List AvailableServer} (hs : ∀ r ∈ sources, r.TranslatedBy t)
    (different : Option Address) :
    ∀ (left : ℕ) (lastError : Option Error) {w : World σ}, w.Sound t →
      Changes net D w (seekLoop net sources different left lastError w).2
  | 0, lastError, w, hw => .refl
  | left + 1, lastError, w, hw => by
    have hany := executeOnAny_changes hD (seekPrimaryReplica_changes net hD) sources ∅ hw hs
    unfold seekLoop trySeekPrimaryReplicaIn
    rcases ha : executeOnAny net (seekPrimaryReplica net) sources ∅ w with ⟨e | r, w₁⟩
    · rw [ha] at hany
      exact hany.trans (seekLoop_changes hs different left _ (Changes.sound hany hw))
    · rw [ha] at hany
      simp only
      split_ifs
      · exact hany.trans (seekLoop_changes hs different left _ (Changes.sound hany hw))
      · exact hany

variable (net) in
theorem seekPrimaryIn_changes {sources : HashSet AvailableServer}
    (hs : ∀ r ∈ sources.iter, r.TranslatedBy t) (retries : ℕ) (different : Option Address)
    {w : World σ} (hw : w.Sound t) :
    Changes net D w (w.seekPrimaryIn net sources retries different).2 := by
  rw [seekPrimaryIn_world]
  exact seekLoop_changes net hD hs different (retries + 1) none hw

variable (net) in
theorem getOrSeekPrimaryReplica_changes (retries : ℕ) {w : World σ} (hw : w.Sound t) :
    Changes net D w (w.getOrSeekPrimaryReplica net retries).2 := by
  have hseek := seekPrimaryIn_changes net hD (HashSet.translated_collect (w.hash net) hw)
    retries none hw
  unfold getOrSeekPrimaryReplica
  split
  · exact .refl
  · simp only
    split
    · split_ifs
      · exact .refl
      · exact hseek
    · exact hseek

theorem failoverLoop_changes (hT : KeepsSound net D t task) (retries : ℕ) :
    ∀ (left : ℕ) (primary : AvailableServer) (errors : ConnectionErrors) {w : World σ},
      w.Sound t → primary.TranslatedBy t →
      Changes net D w (failoverLoop net task retries left primary errors w).2.2
  | 0, primary, errors, w, hw, hp => .refl
  | left + 1, primary, errors, w, hw, hp => by
    have hon := executeOn_changes (hD primary hp) hT hw
    unfold failoverLoop
    dsimp only
    rcases ho : w.executeOn net primary.address primary.privateAddress task with ⟨e | v, w₁⟩
    · rw [ho] at hon
      have hw₁ := Changes.sound hon hw
      cases e with
      | connection e =>
        simp only
        split
        · rename_i hinted hh
          exact hon.trans (failoverLoop_changes hT retries left hinted _ hw₁
            (hw₁.translated _ (mem_of_hintedReplica hh)))
        · have hseek := seekPrimaryIn_changes net hD
            (failoverCandidates_translated (w₁.hash net) hw₁ primary.privateAddress e) retries
            (some primary.privateAddress) hw₁
          split
          · rename_i r w₂ hs
            rw [hs] at hseek
            have hw₂ := Changes.sound hseek hw₁
            exact hon.trans (hseek.trans (failoverLoop_changes hT retries left r _ hw₂
              (hw₂.translated _ (mem_of_seekPrimaryIn hs))))
          · rename_i e w₂ hs
            rw [hs] at hseek
            exact hon.trans hseek
      | _ => exact hon
    · rw [ho] at hon
      exact hon

theorem executeStronglyConsistent_changes (hT : KeepsSound net D t task) {w : World σ}
    (hw : w.Sound t) : Changes net D w (w.executeStronglyConsistent net task).2.2 := by
  have hget := getOrSeekPrimaryReplica_changes net hD w.manager.primaryFailoverRetries hw
  unfold executeStronglyConsistent
  simp only
  split
  · rename_i h
    rw [h] at hget
    exact hget
  · rename_i r w₁ h
    rw [h] at hget
    have hw₁ := Changes.sound hget hw
    exact hget.trans (failoverLoop_changes hD hT _ _ r ∅ hw₁
      (hw₁.translated r (mem_of_getOrSeekPrimaryReplica h)))

/-- **An execution is a series of changes**, where a direct route has to be allowed. -/
theorem execute_changes (hT : KeepsSound net D t task) {routing : ServerRouting} {w : World σ}
    (hw : w.Sound t)
    (hdirect : ∀ a, routing = .direct a → (∃ r ∈ w.manager.replicas.iter, r.address = a) →
      D a (directPrivateAddress t a)) :
    Changes net D w (w.execute net routing task).2 := by
  cases routing with
  | auto => exact executeStronglyConsistent_changes hD hT hw
  | direct a =>
    unfold execute
    simp only
    split_ifs with hk
    · exact .refl
    · rw [hw.translation]
      refine executeOn_changes (hdirect a rfl ?_) hT hw
      obtain ⟨r, hr⟩ := Option.ne_none_iff_exists'.mp (Option.isNone_iff_eq_none.not.mp hk)
      exact ⟨r, List.mem_of_find?_eq_some hr, by simpa using List.find?_some hr⟩

/-- **A fetch of the servers is a series of changes**, where a direct route has to be allowed. -/
theorem fetchServers_changes {routing : ServerRouting} {w : World σ} (hw : w.Sound t)
    (hdirect : ∀ a, routing = .direct a → (∃ r ∈ w.manager.replicas.iter, r.address = a) →
      D a (directPrivateAddress t a)) :
    Changes net D w (w.fetchServers net routing).2 := by
  have hex := execute_changes hD (keepsSound_lift net D t
    (fetchServersFromConnection net w.manager.addressTranslation)) hw hdirect
  unfold fetchServers
  rcases he : w.execute net routing
    (fetchServersFromConnection net w.manager.addressTranslation).lift with ⟨e | replicas, w₁⟩
  · rw [he] at hex
    exact hex
  · rw [he] at hex
    cases routing with
    | auto =>
      obtain ⟨c, w₀, hf⟩ := execute_ok he
      obtain ⟨reports, rfl, -⟩ := fetchServersFromConnection_ok hf
      rw [hw.translation, ← (Changes.sound hex hw).translation]
      exact hex.tail (.write w₁ reports c)
    | direct a => exact hex

end Replicas

end World

end TypeDBDriver
