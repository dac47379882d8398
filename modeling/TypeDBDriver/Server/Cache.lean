import TypeDBDriver.Server.Operations

/-!
# The cached replica set

* `Cached`: the cached set is what the last server list that was written into it says.
* `new_replicas_ne_nil`: `new` succeeds with known replicas only.
* **`replicas_ne_nil_iff`**: later the set is non-empty exactly when the last server list that was
  written into it lists a server.
* **`operate_replicas_nil`**: once it is empty, no operation fills it again.
-/

namespace TypeDBDriver

open ServerManager

variable {σ : Type} {net : Network σ} {addresses : Addresses} {retries : ℕ} {state : σ}

theorem filterAvailableReplicas_translateReplicas {servers : List ServerProto}
    {t : AddressTranslation} {c : ServerConnection} :
    filterAvailableReplicas (translateReplicas (servers.map Server.fromProto) t c) = [] ↔
      ∀ proto ∈ servers, proto.knownAs c = none := by
  rw [List.eq_nil_iff_forall_not_mem]
  simp only [mem_filterAvailableReplicas, mem_translateReplicas_iff,
    Option.eq_none_iff_forall_ne_some]
  constructor
  · intro h proto hp k hk
    exact h _ ⟨proto, hp, k, hk, rfl⟩
  · rintro h r ⟨proto, hp, k, hk, -⟩
    exact h proto hp k hk

/-- The cached set is what the last server list written into it says. -/
def Cached (t : AddressTranslation) (w : World σ) : Prop :=
  ∃ (servers : List ServerProto) (c : ServerConnection),
    w.cachedReplies.getLast? = some (translateReplicas (servers.map Server.fromProto) t c) ∧
    (w.manager.replicas.iter = [] ↔ ∀ proto ∈ servers, proto.knownAs c = none)

theorem World.Change.cached {D : Address → Address → Prop} {t : AddressTranslation}
    {w w' : World σ} (h : Change net D w w') (hs : w.Sound t) (hw : Cached t w) : Cached t w' := by
  cases h with
  | outside | connect | run => exact hw
  | write servers c =>
    refine ⟨servers, c, ?_, ?_⟩
    · rw [hs.translation]
      exact List.getLast?_concat
    · rw [← filterAvailableReplicas_translateReplicas]
      exact HashSet.collect_iter_eq_nil

theorem World.Changes.cached {D : Address → Address → Prop} {t : AddressTranslation}
    {w w' : World σ} (h : Changes net D w w') (hs : w.Sound t) (hw : Cached t w) :
    Cached t w' := by
  induction h with
  | refl => exact hw
  | tail hch h ih => exact h.cached (Changes.sound hch hs) ih

theorem new_cached {w : World σ} (h : new net addresses retries state = .ok w) :
    Cached addresses.addressTranslation w := by
  obtain ⟨c, servers, o, -, rfl⟩ := new_ok h
  refine World.Changes.cached (World.connect_changes net (D := fun _ _ => True)
    (fun _ _ => trivial) initial_sound) initial_sound ⟨servers, c, rfl, ?_⟩
  rw [← filterAvailableReplicas_translateReplicas]
  exact HashSet.collect_iter_eq_nil

theorem ServerProto.knownAs_eq_none {proto : ServerProto} {c : ServerConnection} :
    proto.knownAs c = none ↔ ¬ (proto.address.isSome ∨ proto.replicationStatus = none) := by
  obtain ⟨address, status⟩ := proto
  cases address <;> cases status <;> simp [knownAs]

/-! ## When the set is empty -/

/-- `new` fails rather than start without a known replica. -/
theorem new_replicas_ne_nil {w : World σ} (h : new net addresses retries state = .ok w) :
    w.manager.replicas.iter ≠ [] := by
  unfold new at h
  split at h
  · cases h
  · split at h
    · cases h
    · rename_i w' hr
      obtain rfl : w' = w := by simpa using h
      exact World.refreshReplicaConnections_ok hr

/-- **The cached replicas**, in every state that any operations and any replies lead to: they are
non-empty exactly when the last server list written into them lists a server with an address, or
one that has no replication status and is known under the address it was asked at. -/
theorem replicas_ne_nil_iff {w : World σ}
    (h : (managerSystem net addresses retries state).Reachable w) :
    ∃ (servers : List ServerProto) (c : ServerConnection),
      w.cachedReplies.getLast? = some (translateReplicas (servers.map Server.fromProto)
        addresses.addressTranslation c) ∧
      (w.manager.replicas.iter ≠ [] ↔
        ∃ proto ∈ servers, proto.address.isSome ∨ proto.replicationStatus = none) := by
  have hinv := Transition.Reaches.invariant
    (fun w => w.Sound addresses.addressTranslation ∧ Cached addresses.addressTranslation w)
    (fun w hw => ⟨new_sound hw, new_cached hw⟩)
    (fun w op w' hw _ hstep => by
      have hch := World.operate_changes (D := fun _ _ => True) (fun _ _ => trivial) hw.1
        (fun _ _ _ => trivial) hstep
      exact ⟨World.Changes.sound hch hw.1, hch.cached hw.1 hw.2⟩) h
  obtain ⟨servers, c, hlast, hiff⟩ := hinv.2
  refine ⟨servers, c, hlast, ?_⟩
  rw [ne_eq, hiff]
  simp only [ServerProto.knownAs_eq_none, not_forall, not_not, exists_prop]

/-! ## An empty set stays empty -/

namespace World

variable (net) in
theorem seekPrimaryIn_nil {sources : HashSet AvailableServer} (hs : sources.iter = [])
    (retries : ℕ) (different : Option Address) (w : World σ) :
    ∃ e, w.seekPrimaryIn net sources retries different = (.error e, w) := by
  have hloop : ∀ (left : ℕ) (lastError : Option Error),
      ∃ e, seekLoop net sources.iter different left lastError w = (.error e, w) := by
    intro left
    induction left with
    | zero => exact fun lastError => ⟨lastError, rfl⟩
    | succ left ih =>
      intro lastError
      unfold seekLoop trySeekPrimaryReplicaIn
      rw [hs] at ih ⊢
      exact ih _
  obtain ⟨e, he⟩ := hloop (retries + 1) none
  have hworld := seekPrimaryIn_world net sources retries different w
  rw [he] at hworld
  rcases hseek : w.seekPrimaryIn net sources retries different with ⟨e' | r, w'⟩
  · rw [hseek] at hworld
    obtain rfl : w' = w := hworld
    exact ⟨e', rfl⟩
  · have hok := seekLoop_of_seekPrimaryIn_ok hseek
    rw [he] at hok
    cases hok

variable (net) in
theorem getOrSeekPrimaryReplica_nil {w : World σ} (hw : w.manager.replicas.iter = [])
    (retries : ℕ) : ∃ e, w.getOrSeekPrimaryReplica net retries = (.error e, w) := by
  have hnone : w.manager.readPrimaryReplica = none := by rw [readPrimaryReplica, hw]; rfl
  have hcollect : (HashSet.collect (w.hash net) w.manager.replicas.iter).iter = [] :=
    HashSet.collect_iter_eq_nil.mpr hw
  unfold getOrSeekPrimaryReplica
  simp only [hnone, hcollect]
  exact seekPrimaryIn_nil net hcollect retries none w

variable (net) in
/-- **Without known replicas every execution fails**, and no task is run. -/
theorem execute_replicas_nil {ρ : Type} {w : World σ} (hw : w.manager.replicas.iter = [])
    (routing : ServerRouting) (task : WorldTask σ ρ) :
    ∃ e, w.execute net routing task = (.error e, w) := by
  cases routing with
  | auto =>
    obtain ⟨e, he⟩ := getOrSeekPrimaryReplica_nil net hw w.manager.primaryFailoverRetries
    unfold execute executeStronglyConsistent
    simp only [he]
    exact ⟨e, rfl⟩
  | direct a =>
    unfold execute
    simp only [hw]
    exact ⟨_, rfl⟩

theorem fetchServers_replicas_nil {w : World σ} (hw : w.manager.replicas.iter = [])
    (routing : ServerRouting) : (w.fetchServers net routing).2 = w := by
  obtain ⟨e, he⟩ := execute_replicas_nil net hw routing
    (fetchServersFromConnection net w.manager.addressTranslation).lift
  unfold fetchServers
  rw [he]

/-- **Once the cached set is empty, no operation fills it again**, whatever the servers reply. -/
theorem operate_replicas_nil {w w' : World σ} (hw : w.manager.replicas.iter = []) {op : Op σ}
    (h : w.operate net op = some w') : w'.manager.replicas.iter = [] := by
  cases op with
  | execute routing task =>
    obtain rfl := Option.some.inj h
    obtain ⟨e, he⟩ := execute_replicas_nil net hw routing task.lift
    rw [he]
    exact hw
  | fetchServers routing =>
    obtain rfl := Option.some.inj h
    rw [fetchServers_replicas_nil hw]
    exact hw
  | fetchPrimaryServer routing =>
    obtain rfl := Option.some.inj h
    rw [fetchPrimaryServer_world, fetchServers_replicas_nil hw]
    exact hw
  | refreshReplicas =>
    obtain rfl := Option.some.inj h
    rw [refreshReplicas_world, fetchServers_replicas_nil hw]
    exact hw
  | refreshReplicaConnections =>
    obtain rfl := Option.some.inj h
    rw [refreshReplicaConnections_replicas]
    exact hw
  | getOrSeekPrimaryReplica retries =>
    obtain rfl := Option.some.inj h
    obtain ⟨e, he⟩ := getOrSeekPrimaryReplica_nil net hw retries
    rw [he]
    exact hw
  | seekPrimaryReplicaIn sources retries different =>
    simp only [operate] at h
    split_ifs at h with hs
    obtain rfl := Option.some.inj h
    have hnil : sources.iter = [] := by
      rw [List.eq_nil_iff_forall_not_mem]
      intro r hr
      have := hs r hr
      rw [hw] at this
      cases this
    obtain ⟨e, he⟩ := seekPrimaryIn_nil net hnil retries different w
    rw [he]
    exact hw

end World

/-! ## A reply that empties the set -/

/-- A server that lists itself when a connection is opened, and `later` when it is asked. -/
def standaloneNetwork (address : Address) (later : List ServerProto) : Network Unit where
  openConnection _ _ := (.ok [⟨some address, none⟩], ())
  serversAll _ _ := (.ok later, ())
  hashOrder _ := ⟨id, List.Perm.refl⟩

def localAddress : Address := { authority := "localhost:1729" }

/-- A standalone server that is asked for the servers twice. -/
theorem replicas_ne_nil_iff_standalone : ∃ w : World Unit, w.cachedReplies.length = 3 ∧
    ∃ (servers : List ServerProto) (c : ServerConnection),
      w.cachedReplies.getLast? = some (translateReplicas (servers.map Server.fromProto)
        (Addresses.direct [localAddress]).addressTranslation c) ∧
      (w.manager.replicas.iter ≠ [] ↔
        ∃ proto ∈ servers, proto.address.isSome ∨ proto.replicationStatus = none) := by
  have hrun : (operated (standaloneNetwork localAddress [⟨none, none⟩]) (.direct [localAddress]) 0
      (fun _ _ => true) [.fetchServers .auto, .refreshReplicas]).any
      (fun w => decide (w.cachedReplies.length = 3)) = true := by decide
  obtain ⟨w, hw, hlen⟩ := exists_of_operated (fun _ _ _ => trivial) hrun
  exact ⟨w, of_decide_eq_true hlen, replicas_ne_nil_iff hw⟩

/-- A fetch of the servers that is answered with no server empties the cached set. -/
theorem not_replicas_ne_nil : ¬ ∀ (net : Network Unit) (addresses : Addresses) (retries : ℕ)
    (state : Unit) (w : World Unit), (managerSystem net addresses retries state).Reachable w →
      w.manager.replicas.iter ≠ [] := by
  intro h
  have hrun : (operated (standaloneNetwork localAddress []) (.direct [localAddress]) 0
      (fun _ _ => true) [.fetchServers .auto]).any
      (fun w => w.manager.replicas.iter.isEmpty) = true := by decide
  obtain ⟨w, hw, hnil⟩ := exists_of_operated (fun _ _ _ => trivial) hrun
  exact h _ _ _ _ w hw (List.isEmpty_iff.mp hnil)

end TypeDBDriver
