import TypeDBDriver.Server.Manager

/-!
# What an execution does outside the manager

A rule for the state of the network: what the network's own steps keep, and what a task
establishes when it succeeds and keeps when it fails, holds after the task was executed, however
often it was run.

* `Network.Keeps I`: opening connections and asking for servers keep `I`.
* `Task.Meets I Q`: from `I` the task establishes `Q` when it succeeds, and keeps `I` otherwise.
* **`execute_auto_meets`**: so does its execution.
-/

namespace TypeDBDriver

variable {σ ρ : Type} {net : Network σ} {I : σ → Prop}

/-- The network's own steps keep `I`. -/
structure Network.Keeps (net : Network σ) (I : σ → Prop) : Prop where
  openConnection : ∀ a s, I s → I (net.openConnection a s).2
  serversAll : ∀ c s, I s → I (net.serversAll c s).2

/-- The outcome of a computation that establishes `Q` when it succeeds, and `I` when it fails. -/
def Outcome (I : σ → Prop) (Q : ρ → σ → Prop) : Result ρ → σ → Prop
  | .ok v, s => Q v s
  | .error _, s => I s

/-- From `I` the task establishes `Q` when it succeeds, and keeps `I` otherwise. -/
def Task.Meets (task : Task σ ρ) (I : σ → Prop) (Q : ρ → σ → Prop) : Prop :=
  ∀ c s, I s → Outcome I Q (task c s).1 (task c s).2

/-- The same for what runs on a world. -/
def WorldTask.Meets (task : WorldTask σ ρ) (I : σ → Prop) (Q : ρ → σ → Prop) : Prop :=
  ∀ c (w : World σ), I w.outside.state → Outcome I Q (task c w).1 (task c w).2.outside.state

theorem Task.Meets.lift {task : Task σ ρ} {Q : ρ → σ → Prop} (h : task.Meets I Q) :
    WorldTask.Meets task.lift I Q :=
  fun c w hw => h c w.outside.state hw

theorem Outcome.keeps {res : Result ρ} {s : σ} (h : Outcome I (fun _ => I) res s) : I s := by
  cases res <;> exact h

namespace World

variable (hnet : net.Keeps I)
include hnet

theorem newReplicaConnection_keeps (a : Address) {w : World σ} (hw : I w.outside.state) :
    I (w.newReplicaConnection net a).2.outside.state := by
  have hopen := hnet.openConnection a _ hw
  unfold newReplicaConnection ServerConnection.new
  rcases h : net.openConnection a w.outside.state with ⟨_ | _, s⟩ <;> rw [h] at hopen <;> exact hopen

theorem connectReplicas_keeps (connected : List Address) :
    ∀ (replicas : List AvailableServer) (errors : ConnectionErrors)
      (connections : HashMap Address ServerConnection) {w : World σ}, I w.outside.state →
      I (connectReplicas net connected replicas errors connections w).2.2.outside.state
  | [], errors, connections, w, hw => hw
  | r :: replicas, errors, connections, w, hw => by
    have hnew := newReplicaConnection_keeps hnet r.address hw
    unfold connectReplicas
    split_ifs
    · exact connectReplicas_keeps connected replicas errors connections hw
    · split <;> rename_i h <;> rw [h] at hnew
      · exact connectReplicas_keeps connected replicas _ _ hnew
      · exact connectReplicas_keeps connected replicas _ _ hnew

theorem refresh_keeps (w : World σ) (hw : I w.outside.state) :
    I (w.refreshReplicaConnections net).2.outside.state := by
  have hconn := connectReplicas_keeps hnet w.manager.replicaConnections.keys
    w.manager.replicas.iter ∅ ∅ hw
  unfold refreshReplicaConnections
  dsimp only
  split_ifs <;> exact hconn

variable {task : WorldTask σ ρ} {Q : ρ → σ → Prop}

theorem executeOn_meets (publicAddress privateAddress : Address) (htask : task.Meets I Q)
    {w : World σ} (hw : I w.outside.state) :
    Outcome I Q (w.executeOn net publicAddress privateAddress task).1
      (w.executeOn net publicAddress privateAddress task).2.outside.state := by
  have hnew := newReplicaConnection_keeps hnet publicAddress hw
  unfold executeOn recordNewReplicaConnection
  split
  · exact htask _ _ hw
  · rcases h : w.newReplicaConnection net publicAddress with ⟨e | c, w₁⟩ <;> rw [h] at hnew
    · exact hnew
    · exact htask _ _ hnew

theorem executeOnAny_meets (htask : task.Meets I Q) :
    ∀ (replicas : List AvailableServer) (errors : ConnectionErrors) {w : World σ},
      I w.outside.state → Outcome I Q (executeOnAny net task replicas errors w).1
        (executeOnAny net task replicas errors w).2.outside.state
  | [], errors, w, hw => hw
  | r :: replicas, errors, w, hw => by
    have hon := executeOn_meets hnet r.address r.privateAddress htask hw
    unfold executeOnAny
    split
    · rename_i h
      rw [h] at hon
      exact executeOnAny_meets htask replicas _ hon
    · exact hon

omit task Q in
theorem fetchServers_keeps (t : AddressTranslation) :
    Task.Meets (fetchServersFromConnection net t) I fun _ => I := by
  intro c s hs
  have hall := hnet.serversAll c s hs
  unfold fetchServersFromConnection ServerConnection.serversAll
  rcases h : net.serversAll c s with ⟨e | servers, s'⟩ <;> rw [h] at hall <;> exact hall

omit task Q in
theorem seekPrimaryReplica_meets : WorldTask.Meets (seekPrimaryReplica net) I fun _ => I := by
  intro c w hw
  have hfetch := (fetchServers_keeps hnet w.manager.addressTranslation).lift c w hw
  unfold seekPrimaryReplica
  rcases hf : (fetchServersFromConnection net w.manager.addressTranslation).lift c w
    with ⟨e | replicas, w₁⟩
  · rw [hf] at hfetch
    exact hfetch
  · rw [hf] at hfetch
    have hwrite : I (w₁.writeReplicas net replicas).outside.state := hfetch
    have href := refresh_keeps hnet _ hwrite
    dsimp only
    split
    · split <;> rename_i hr <;> rw [hr] at href <;> exact href
    · exact hwrite

omit task Q in
theorem seekLoop_keeps (sources : List AvailableServer) (different : Option Address) :
    ∀ (left : ℕ) (lastError : Option Error) {w : World σ}, I w.outside.state →
      I (seekLoop net sources different left lastError w).2.outside.state
  | 0, lastError, w, hw => hw
  | left + 1, lastError, w, hw => by
    have hany := (executeOnAny_meets hnet (seekPrimaryReplica_meets hnet) sources ∅ hw).keeps
    unfold seekLoop trySeekPrimaryReplicaIn
    rcases ha : executeOnAny net (seekPrimaryReplica net) sources ∅ w with ⟨e | r, w₁⟩ <;>
      rw [ha] at hany
    · exact seekLoop_keeps sources different left _ hany
    · dsimp only
      split_ifs
      · exact seekLoop_keeps sources different left _ hany
      · exact hany

omit task Q in
theorem seekPrimaryIn_keeps (sources : HashSet AvailableServer) (retries : ℕ)
    (different : Option Address) {w : World σ} (hw : I w.outside.state) :
    I (w.seekPrimaryIn net sources retries different).2.outside.state := by
  rw [seekPrimaryIn_world]
  exact seekLoop_keeps hnet sources.iter different (retries + 1) none hw

omit task Q in
theorem getOrSeekPrimaryReplica_keeps (retries : ℕ) {w : World σ} (hw : I w.outside.state) :
    I (w.getOrSeekPrimaryReplica net retries).2.outside.state := by
  have hseek := seekPrimaryIn_keeps hnet
    (HashSet.collect (w.hash net) w.manager.replicas.iter) retries none hw
  unfold getOrSeekPrimaryReplica
  split
  · exact hw
  · dsimp only
    split
    · split_ifs
      · exact hw
      · exact hseek
    · exact hseek

theorem failoverLoop_meets (htask : task.Meets I Q) (retries : ℕ) :
    ∀ (left : ℕ) (primary : AvailableServer) (errors : ConnectionErrors) {w : World σ},
      I w.outside.state →
      Outcome I Q (failoverLoop net task retries left primary errors w).2.1
        (failoverLoop net task retries left primary errors w).2.2.outside.state
  | 0, primary, errors, w, hw => hw
  | left + 1, primary, errors, w, hw => by
    have hon := executeOn_meets hnet primary.address primary.privateAddress htask hw
    unfold failoverLoop
    dsimp only
    split
    · rename_i h
      rw [h] at hon
      exact hon
    · rename_i error w₁ h
      rw [h] at hon
      split
      · exact failoverLoop_meets htask retries left _ _ hon
      · have hseek := seekPrimaryIn_keeps hnet (w₁.manager.failoverCandidates (w₁.hash net)
          primary.privateAddress error) retries (some primary.privateAddress) hon
        split <;> rename_i hs <;> rw [hs] at hseek
        · exact failoverLoop_meets htask retries left _ _ hseek
        · exact hseek
    · rename_i h
      rw [h] at hon
      exact hon

/-- **The rule for an automatically routed execution.** -/
theorem execute_auto_meets (htask : task.Meets I Q) {w : World σ} (hw : I w.outside.state) :
    Outcome I Q (w.execute net .auto task).1 (w.execute net .auto task).2.outside.state := by
  have hget := getOrSeekPrimaryReplica_keeps hnet w.manager.primaryFailoverRetries hw
  unfold execute executeStronglyConsistent
  dsimp only
  split <;> rename_i h <;> rw [h] at hget
  · exact hget
  · exact failoverLoop_meets hnet htask _ _ _ ∅ hget

end World

end TypeDBDriver
