import TypeDBDriver.Server.Operations

/-!
# Which server a request reaches

* `AddressedRight t`: the connections kept for the known replicas, and those that tasks were run
  on, were opened to the addresses of the replicas meant.
* `BootAddressed`, `DirectAddressed`: the conditions on the first answer and on a direct route.
* **`new_addressedRight_iff`**: `new` builds such a manager exactly when the first one holds.
* **`addressedRight_of_reaches`**: under both conditions every request reaches its server.
-/

namespace TypeDBDriver

open ServerManager

variable {σ : Type}

/-- Requests reach the servers they are addressed to. -/
structure AddressedRight (t : AddressTranslation) (w : World σ) : Prop where
  /-- a connection kept for a known replica was opened to its network address -/
  connections : ∀ r ∈ w.manager.replicas.iter, ∀ c,
    w.manager.replicaConnections.lookup r.privateAddress = some c →
      c.address = t.networkAddress r.privateAddress
  /-- a task meant for an address was run on a connection to it, and that was the network address
  of the replica meant -/
  runs : ∀ run ∈ w.taskRuns, run.connection.address = run.publicAddress ∧
    run.publicAddress = t.networkAddress run.privateAddress

/-- The first configured address that answers is its own network address, or is not the private
address of a server that it lists. -/
def BootAddressed (net : Network σ) (addresses : Addresses) (state : σ) : Prop :=
  ∀ c servers, firstAnswer net addresses.addresses state = some (c.address, servers) →
    addresses.addressTranslation.networkAddress c.address = c.address ∨
    ∀ r, .available r ∈ translateReplicas (servers.map Server.fromProto)
      addresses.addressTranslation c → r.privateAddress ≠ c.address

/-- A direct route to a known replica's address leads back to that address when it is translated to
a private address and that one to a public address. -/
def DirectAddressed (t : AddressTranslation) (w : World σ) (op : Op σ) : Prop :=
  ∀ a, op.serverRouting = .direct a → (∃ r ∈ w.manager.replicas.iter, r.address = a) →
    t.networkAddress (World.directPrivateAddress t a) = a

/-! ## The invariant -/

/-- Every connection is kept under a private address whose network address it was opened to. -/
structure Routed (t : AddressTranslation) (w : World σ) : Prop where
  connections : ∀ k c, w.manager.replicaConnections.lookup k = some c →
    c.address = t.networkAddress k
  runs : ∀ run ∈ w.taskRuns, run.connection.address = run.publicAddress ∧
    run.publicAddress = t.networkAddress run.privateAddress

theorem translateReplicas_congr {c c' : ServerConnection} (h : c.address = c'.address)
    {replicas : List Server} {t : AddressTranslation} :
    translateReplicas replicas t c = translateReplicas replicas t c' := by
  unfold translateReplicas
  rw [h]

variable {net : Network σ} {t : AddressTranslation} {addresses : Addresses} {state : σ}
  {retries : ℕ}

theorem Routed.addressedRight {w : World σ} (h : Routed t w) : AddressedRight t w :=
  ⟨fun _ _ c hc => h.connections _ c hc, h.runs⟩

theorem World.Change.routed {w w' : World σ}
    (h : Change net (fun a k => a = t.networkAddress k) w w') (hw : Routed t w) : Routed t w' := by
  cases h with
  | outside | write => exact ⟨hw.connections, hw.runs⟩
  | connect connections allowed =>
    refine ⟨fun k c hk => ?_, hw.runs⟩
    rcases allowed k c hk with hk | hk
    · exact hw.connections k c hk
    · exact hk
  | run publicAddress privateAddress c allowed recorded =>
    refine ⟨hw.connections, fun run hrun => ?_⟩
    rcases List.mem_append.mp hrun with hrun | hrun
    · exact hw.runs run hrun
    · obtain rfl := List.mem_singleton.mp hrun
      exact ⟨(hw.connections _ c recorded).trans allowed.symm, allowed⟩

theorem World.Changes.routed {w w' : World σ}
    (h : Changes net (fun a k => a = t.networkAddress k) w w') (hw : Routed t w) :
    Routed t w' := by
  induction h with
  | refl => exact hw
  | tail _ h ih => exact h.routed ih

/-! ## The manager that `new` builds -/

/-- The connections after `new`: the first one, if its address is known as a private address, and
new ones to the replicas. -/
theorem new_connections {w : World σ} (h : new net addresses retries state = .ok w) :
    ∃ c servers, firstAnswer net addresses.addresses state = some (c.address, servers) ∧
      (∀ r, r ∈ w.manager.replicas.iter ↔ .available r ∈
        translateReplicas (servers.map Server.fromProto) addresses.addressTranslation c) ∧
      w.taskRuns = [] ∧
      ∀ k d, w.manager.replicaConnections.lookup k = some d →
        (k = c.address ∧ d = c ∧ ∃ r ∈ w.manager.replicas.iter, r.privateAddress = k) ∨
        ∃ r ∈ w.manager.replicas.iter, r.privateAddress = k ∧ d.address = r.address := by
  obtain ⟨c, servers, o, hfirst, rfl⟩ := new_ok h
  obtain ⟨o', connections, hr, hc⟩ := World.refreshReplicaConnections_spec net (initial net
    addresses retries (AList.singleton c.address c)
    (translateReplicas (servers.map Server.fromProto) addresses.addressTranslation c) o)
  rw [hr]
  refine ⟨c, servers, hfirst, fun r => ?_, rfl, fun k d hk => ?_⟩
  · exact HashSet.mem_collect.trans mem_filterAvailableReplicas
  · rcases hc k d hk with ⟨hk, hknown⟩ | hnew
    · have hentry : (⟨k, d⟩ : (_ : Address) × ServerConnection) ∈
          [(⟨c.address, c⟩ : (_ : Address) × ServerConnection)] := AList.mem_lookup_iff.mp hk
      obtain ⟨rfl, rfl⟩ : k = c.address ∧ d = c := by simpa using hentry
      exact .inl ⟨rfl, rfl, hknown⟩
    · exact .inr hnew

/-- The first connection is kept when its address is a known private address. -/
theorem new_keeps_first {w : World σ} (h : new net addresses retries state = .ok w) {a : Address}
    {servers : List ServerProto} (hfirst : firstAnswer net addresses.addresses state =
      some (a, servers)) (hknown : ∃ r ∈ w.manager.replicas.iter, r.privateAddress = a) :
    ∃ c, c.address = a ∧ w.manager.replicaConnections.lookup a = some c := by
  obtain ⟨c, servers', o, hfirst', rfl⟩ := new_ok h
  obtain ⟨rfl, rfl⟩ : c.address = a ∧ servers' = servers := by
    rw [hfirst] at hfirst'
    simpa [eq_comm] using hfirst'
  rw [World.refreshReplicaConnections_replicas] at hknown
  refine ⟨c, rfl, World.refreshReplicaConnections_keeps net ?_ hknown⟩
  exact AList.mem_lookup_iff.mpr (List.mem_singleton_self _)

theorem new_routed {w : World σ} (h : new net addresses retries state = .ok w)
    (hboot : BootAddressed net addresses state) : Routed addresses.addressTranslation w := by
  obtain ⟨c, servers, hfirst, hknown, hruns, hconn⟩ := new_connections h
  refine ⟨fun k d hk => ?_, fun run hrun => ?_⟩
  · rcases hconn k d hk with ⟨rfl, rfl, r, hr, hrk⟩ | ⟨r, hr, rfl, hrd⟩
    · rcases hboot d servers hfirst with hb | hb
      · exact hb.symm
      · exact absurd hrk (hb r ((hknown r).mp hr))
    · exact hrd.trans ((new_sound h).translated r hr).address
  · rw [hruns] at hrun
    cases hrun

/-- **What `new` builds is addressed right exactly when the first answer is.** -/
theorem new_addressedRight_iff {w : World σ} (h : new net addresses retries state = .ok w) :
    AddressedRight addresses.addressTranslation w ↔ BootAddressed net addresses state := by
  obtain ⟨c, servers, hfirst, hknown, -, -⟩ := new_connections h
  constructor
  · intro hw c' servers' hfirst'
    obtain ⟨hc, rfl⟩ : c'.address = c.address ∧ servers' = servers := by
      rw [hfirst] at hfirst'
      simpa [eq_comm] using hfirst'
    by_cases hex : ∃ r ∈ w.manager.replicas.iter, r.privateAddress = c'.address
    · obtain ⟨d, hd, hlookup⟩ := new_keeps_first h hfirst' hex
      obtain ⟨r, hr, hrk⟩ := hex
      rw [← hrk] at hlookup
      have := hw.connections r hr d hlookup
      rw [hd, hrk] at this
      exact .inl this.symm
    · refine .inr fun r hr hrk => hex ⟨r, ?_, hrk⟩
      rw [hknown, translateReplicas_congr hc.symm]
      exact hr
  · exact fun hboot => (new_routed h hboot).addressedRight

/-! ## Runs -/

theorem operate_routed {op : Op σ} {w w' : World σ} (hw : w.Sound t ∧ Routed t w)
    (hdirect : DirectAddressed t w op) (h : w.operate net op = some w') :
    w'.Sound t ∧ Routed t w' := by
  have hch := World.operate_changes (D := fun a k => a = t.networkAddress k)
    (fun r hr => hr.address) hw.1 (fun a ha hr => (hdirect a ha hr).symm) h
  exact ⟨World.Changes.sound hch hw.1, hch.routed hw.2⟩

/-- **Requests reach the servers they are addressed to** in every run of operations that starts
with a right first answer and takes direct routes that lead back to their address. -/
theorem addressedRight_of_reaches (hboot : BootAddressed net addresses state) {w : World σ}
    (h : (managerSystem net addresses retries state).Reaches
      (DirectAddressed addresses.addressTranslation) w) :
    AddressedRight addresses.addressTranslation w := by
  have hinv : w.Sound addresses.addressTranslation ∧ Routed addresses.addressTranslation w :=
    Transition.Reaches.invariant
      (fun w => w.Sound addresses.addressTranslation ∧ Routed addresses.addressTranslation w)
      (fun w hw => ⟨new_sound hw, new_routed hw hboot⟩)
      (fun w op w' hw hdirect hstep => operate_routed hw hdirect hstep) h
  exact hinv.2.addressedRight

/-! ## A chain of translations -/

def addressA : Address := { authority := "a:1729" }
def addressB : Address := { authority := "b:1729" }
def addressC : Address := { authority := "c:1729" }

/-- `b` is the private address of the server at `a`, and the public one of the server at `c`. -/
def chainAddresses : Addresses :=
  .translated (List.toAList [⟨addressA, addressB⟩, ⟨addressB, addressC⟩])

/-- Two servers, of which the first is the primary; nothing answers at `dead`. -/
def chainNetwork (dead : Option Address) : Network Unit where
  openConnection a _ :=
    if some a = dead then (.error (.connection .connectionRefusedNetworking), ())
    else (.ok chainServers, ())
  serversAll _ _ := (.ok chainServers, ())
  hashOrder _ := ⟨id, List.Perm.refl⟩
where
  chainServers : List ServerProto :=
    [⟨some addressB, some ⟨0, some .primary, some 1⟩⟩,
      ⟨some addressC, some ⟨1, some .secondary, some 1⟩⟩]

theorem chain_bootAddressed : BootAddressed (chainNetwork none) chainAddresses () := by
  intro c servers h
  have ha : firstAnswer (chainNetwork none) chainAddresses.addresses () =
    some (addressA, chainNetwork.chainServers) := by decide
  rw [ha] at h
  obtain ⟨hc, -⟩ := Prod.mk.inj (Option.some.inj h)
  rw [← hc]
  exact .inl (by decide)

/-- `DirectAddressed`, as a test. -/
def directAddressed (t : AddressTranslation) (_ : World Unit) (op : Op Unit) : Bool :=
  match op.serverRouting with
  | .auto => true
  | .direct a => decide (t.networkAddress (World.directPrivateAddress t a) = a)

theorem directAddressed_spec (w : World Unit) (op : Op Unit) (h : directAddressed t w op = true) :
    DirectAddressed t w op := by
  intro a ha _
  unfold directAddressed at h
  rw [ha] at h
  exact of_decide_eq_true h

/-- With all servers up, a task for the primary and one sent to `c`'s server get there. -/
theorem addressedRight_chain : ∃ w, w.taskRuns.length = 2 ∧
    (managerSystem (chainNetwork none) chainAddresses 0 ()).Reachable w ∧
      AddressedRight chainAddresses.addressTranslation w := by
  have hrun : (operated (chainNetwork none) chainAddresses 0
      (directAddressed chainAddresses.addressTranslation)
      [.execute .auto noTask, .execute (.direct addressB) noTask]).any
      (fun w => decide (w.taskRuns.length = 2)) = true := by decide
  obtain ⟨w, hw, hlen⟩ := exists_of_operated directAddressed_spec hrun
  exact ⟨w, of_decide_eq_true hlen, Transition.Reaches.mono (fun _ _ _ => trivial) hw,
    addressedRight_of_reaches chain_bootAddressed hw⟩

/-- With the server at `a` down when the driver starts, what is meant for it reaches `c`'s. -/
theorem not_addressedRight_chain : ¬ ∀ (net : Network Unit) (addresses : Addresses) (retries : ℕ)
    (state : Unit) (w : World Unit), (managerSystem net addresses retries state).Reachable w →
      AddressedRight addresses.addressTranslation w := by
  intro h
  have hrun : (operated (chainNetwork (some addressA)) chainAddresses 0 (fun _ _ => true)
      [.execute .auto noTask]).any (fun w => w.taskRuns.any fun run =>
        decide (run.connection.address ≠ run.publicAddress)) = true := by decide
  obtain ⟨w, hw, hany⟩ := exists_of_operated (fun _ _ _ => trivial) hrun
  obtain ⟨run, hmem, hne⟩ := List.any_eq_true.mp hany
  exact of_decide_eq_true hne ((h _ _ _ _ w hw).runs run hmem).1

end TypeDBDriver
