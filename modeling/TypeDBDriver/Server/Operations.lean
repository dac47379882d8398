import TypeDBDriver.Lib.Transition
import TypeDBDriver.Server.Change

/-!
# The server manager as a transition system

* `Op`, `operate`: the operations on a manager, one after the other.
* `managerSystem`: the worlds that they lead to from a world that `ServerManager.new` built.
* `new_changes`: what `new` built came from its first reply by a series of changes.
* **`operate_changes`**: every operation is a series of changes.
* `operated`: the operations executed on a network without a state.
-/

namespace TypeDBDriver

variable {σ : Type}

/-- An operation on a manager. -/
inductive Op (σ : Type) : Type 1
  | execute {ρ : Type} (serverRouting : ServerRouting) (task : Task σ ρ)
  | fetchServers (serverRouting : ServerRouting)
  | fetchPrimaryServer (serverRouting : ServerRouting)
  | refreshReplicas
  | refreshReplicaConnections
  | getOrSeekPrimaryReplica (retries : ℕ)
  | seekPrimaryReplicaIn (sourceReplicas : HashSet AvailableServer) (retries : ℕ)
      (expectDifferentFrom : Option Address)

/-- The routing of an operation; those that take none are routed automatically. -/
def Op.serverRouting : Op σ → ServerRouting
  | execute routing _ | fetchServers routing | fetchPrimaryServer routing => routing
  | _ => .auto

/-- The world after an operation; the primary is sought among known replicas only. -/
def World.operate (net : Network σ) (w : World σ) : Op σ → Option (World σ)
  | .execute routing task => some (w.execute net routing task.lift).2
  | .fetchServers routing => some (w.fetchServers net routing).2
  | .fetchPrimaryServer routing => some (w.fetchPrimaryServer net routing).2
  | .refreshReplicas => some (w.refreshReplicas net).2
  | .refreshReplicaConnections => some (w.refreshReplicaConnections net).2
  | .getOrSeekPrimaryReplica retries => some (w.getOrSeekPrimaryReplica net retries).2
  | .seekPrimaryReplicaIn sources retries different =>
    if ∀ r ∈ sources.iter, r ∈ w.manager.replicas.iter then
      some (w.seekPrimaryIn net sources retries different).2
    else none

/-- The manager from `new` on: with the driver's addresses and retries, in a network's state. -/
def managerSystem (net : Network σ) (addresses : Addresses) (retries : ℕ) (state : σ) :
    Transition.System (World σ) (Op σ) where
  Init w := ServerManager.new net addresses retries state = .ok w
  step := World.operate net

namespace World

variable {net : Network σ} {D : Address → Address → Prop} {t : AddressTranslation}

theorem fetchPrimaryServer_world (routing : ServerRouting) (w : World σ) :
    (w.fetchPrimaryServer net routing).2 = (w.fetchServers net routing).2 := by
  unfold fetchPrimaryServer
  rcases w.fetchServers net routing with ⟨_ | _, _⟩ <;> rfl

theorem refreshReplicas_world (w : World σ) :
    (w.refreshReplicas net).2 = (w.fetchServers net .auto).2 := by
  unfold refreshReplicas
  rcases w.fetchServers net .auto with ⟨_ | _, _⟩ <;> rfl

/-- **An operation is a series of changes**, where a direct route has to be allowed. -/
theorem operate_changes
    (hD : ∀ r : AvailableServer, r.TranslatedBy t → D r.address r.privateAddress) {op : Op σ} {w w' : World σ} (hw : w.Sound t)
    (hdirect : ∀ a, op.serverRouting = .direct a → (∃ r ∈ w.manager.replicas.iter, r.address = a) →
      D a (directPrivateAddress t a))
    (h : w.operate net op = some w') : Changes net D w w' := by
  cases op with
  | execute routing task =>
    obtain rfl := Option.some.inj h
    exact execute_changes hD (keepsSound_lift net D t task) hw hdirect
  | fetchServers routing =>
    obtain rfl := Option.some.inj h
    exact fetchServers_changes hD hw hdirect
  | fetchPrimaryServer routing =>
    obtain rfl := Option.some.inj h
    rw [fetchPrimaryServer_world]
    exact fetchServers_changes hD hw hdirect
  | refreshReplicas =>
    obtain rfl := Option.some.inj h
    rw [refreshReplicas_world]
    exact fetchServers_changes hD hw nofun
  | refreshReplicaConnections =>
    obtain rfl := Option.some.inj h
    exact connect_changes net hD hw
  | getOrSeekPrimaryReplica retries =>
    obtain rfl := Option.some.inj h
    exact getOrSeekPrimaryReplica_changes net hD retries hw
  | seekPrimaryReplicaIn sources retries different =>
    simp only [operate] at h
    split_ifs at h with hs
    obtain rfl := Option.some.inj h
    exact seekPrimaryIn_changes net hD (fun r hr => hw.translated r (hs r hr)) retries
      different hw

end World

namespace ServerManager

variable {net : Network σ}

/-- The first of some addresses that answers, and the servers it lists. -/
def firstAnswer (net : Network σ) : List Address → σ → Option (Address × List ServerProto)
  | [], _ => none
  | address :: rest, state =>
    match net.openConnection address state with
    | (.ok servers, _) => some (address, servers)
    | (.error (.connection _), state) => firstAnswer net rest state
    | (.error _, _) => none

theorem fetchServersFromAddresses_ok {addresses : Addresses} {o' : Outside σ}
    {connections : HashMap Address ServerConnection} {replicas : List Server} :
    ∀ {as : List Address} {errors : List ConnectionError} {o : Outside σ},
      fetchServersFromAddresses net addresses as errors o = (.ok (connections, replicas), o') →
      ∃ c servers, firstAnswer net as o.state = some (c.address, servers) ∧
        connections = AList.singleton c.address c ∧
        replicas = translateReplicas (servers.map Server.fromProto) addresses.addressTranslation c
  | [], errors, o, h => by cases h
  | a :: as, errors, o, h => by
    unfold fetchServersFromAddresses ServerConnection.new at h
    unfold firstAnswer
    rcases ho : net.openConnection a o.state with ⟨e | servers, state⟩
    · rw [ho] at h
      cases e with
      | connection e => exact fetchServersFromAddresses_ok h
      | _ => cases h
    · rw [ho] at h
      cases h
      exact ⟨_, servers, rfl, rfl, rfl⟩

/-- What `new` built: a manager with the connection of the first answer, after one refresh. -/
theorem new_ok {addresses : Addresses} {retries : ℕ} {state : σ} {w : World σ}
    (h : new net addresses retries state = .ok w) :
    ∃ c servers o, firstAnswer net addresses.addresses state = some (c.address, servers) ∧
      w = ((initial net addresses retries (AList.singleton c.address c)
        (translateReplicas (servers.map Server.fromProto) addresses.addressTranslation c)
        o).refreshReplicaConnections net).2 := by
  unfold new at h
  split at h
  · cases h
  · rename_i connections replicas o hf
    obtain ⟨c, servers, hfirst, rfl, rfl⟩ := fetchServersFromAddresses_ok hf
    split at h
    · cases h
    · rename_i w' hr
      obtain rfl : w' = w := by simpa using h
      exact ⟨c, servers, o, hfirst, by rw [hr]⟩

theorem initial_sound {addresses : Addresses} {retries : ℕ}
    {connections : HashMap Address ServerConnection} {servers : List ServerProto}
    {c : ServerConnection} {o : Outside σ} :
    (initial net addresses retries connections
      (translateReplicas (servers.map Server.fromProto) addresses.addressTranslation c)
      o).Sound addresses.addressTranslation where
  translation := rfl
  translated r hr := by
    have hr := mem_filterAvailableReplicas.mp (HashSet.mem_collect.mp hr)
    exact mem_translateReplicas hr

theorem new_sound {addresses : Addresses} {retries : ℕ} {state : σ} {w : World σ}
    (h : new net addresses retries state = .ok w) : w.Sound addresses.addressTranslation := by
  obtain ⟨c, servers, o, -, rfl⟩ := new_ok h
  exact World.Changes.sound (World.connect_changes net (D := fun _ _ => True)
    (fun _ _ => trivial) initial_sound) initial_sound

end ServerManager

/-! ## Executing the model -/

/-- A task that always succeeds. -/
def noTask : Task Unit Unit := fun _ s => (.ok (), s)

/-- The world after some operations on a new manager, each of which passes a test. -/
def operated (net : Network Unit) (addresses : Addresses) (retries : ℕ)
    (c : World Unit → Op Unit → Bool) (ops : List (Op Unit)) : Option (World Unit) :=
  match ServerManager.new net addresses retries () with
  | .ok w => (managerSystem net addresses retries ()).runChecked c w ops
  | .error _ => none

theorem exists_of_operated {net : Network Unit} {addresses : Addresses} {retries : ℕ}
    {C : World Unit → Op Unit → Prop} {c : World Unit → Op Unit → Bool}
    (hc : ∀ w op, c w op = true → C w op) {ops : List (Op Unit)} {p : World Unit → Bool}
    (h : (operated net addresses retries c ops).any p = true) :
    ∃ w, (managerSystem net addresses retries ()).Reaches C w ∧ p w = true := by
  unfold operated at h
  split at h
  · rename_i w₀ hnew
    exact Transition.exists_reaches hc hnew h
  · cases h

end TypeDBDriver
