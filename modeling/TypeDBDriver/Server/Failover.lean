import TypeDBDriver.Server.Seeking

/-!
# The failover loop of strongly consistent execution

* `FailoverTrace`: the histories of runs and seeks that the loop can produce, one constructor for
  each way a pass can go.
* `failoverLoop_trace`: the loop produces one of them, by induction on the passes left.
* `Executed`: the events are what happens from one world to another; `failoverLoop_executed`.
* `EventTasks`, `Executed.taskRuns`: the tasks that the events have run.
* **`executeStronglyConsistent_discipline`**: bounded runs, none after a success or after an error
  that is not about the connection, and the rules for hints and for the replicas to ask.
-/

namespace TypeDBDriver

variable {σ ρ : Type}

/-- The results of the runs among some events, in order. -/
def runResults (events : List (FailoverEvent ρ)) : List (Result ρ) :=
  events.filterMap fun
    | .run _ _ result => some result
    | .seek _ _ => none

/-- `FailoverTrace left primary events result`: with `left` passes to go and `primary` as the next
replica to try, the loop can do `events` and return `result`. -/
inductive FailoverTrace :
    ℕ → AvailableServer → List (FailoverEvent ρ) → Result ρ → Prop
  /-- no pass is left -/
  | exhausted (primary : AvailableServer) (e : Error) : FailoverTrace 0 primary [] (.error e)
  /-- the task succeeds -/
  | succeeded (left : ℕ) (primary : AvailableServer) (known : List AvailableServer) (v : ρ) :
    FailoverTrace (left + 1) primary [.run primary known (.ok v)] (.ok v)
  /-- the task fails for another reason than the connection -/
  | failed (left : ℕ) (primary : AvailableServer) (known : List AvailableServer) (e : Error)
      (other : e.isConnection = false) :
    FailoverTrace (left + 1) primary [.run primary known (.error e)] (.error e)
  /-- the error names a known replica -/
  | hinted {left : ℕ} {primary hinted : AvailableServer} {known : List AvailableServer}
      {hint : Address} {events : List (FailoverEvent ρ)} {res : Result ρ}
      (mem : hinted ∈ known) (private_eq : hinted.privateAddress = hint)
      (next : FailoverTrace left hinted events res) :
    FailoverTrace (left + 1) primary
      (.run primary known (.error (.connection (.clusterServerNotPrimary (some hint)))) :: events)
      res
  /-- the new primary is sought and found -/
  | sought {left : ℕ} {primary replica : AvailableServer} {known sources : List AvailableServer}
      {error : ConnectionError} {events : List (FailoverEvent ρ)} {res : Result ρ}
      (unhinted : ∀ hint, error = .clusterServerNotPrimary (some hint) →
        ∀ r ∈ known, r.privateAddress ≠ hint)
      (alive : ∀ hint, error = .clusterServerNotPrimary hint → primary ∈ sources)
      (dead : (∀ hint, error ≠ .clusterServerNotPrimary hint) →
        ∀ r ∈ sources, r.privateAddress ≠ primary.privateAddress)
      (next : FailoverTrace left replica events res) :
    FailoverTrace (left + 1) primary
      (.run primary known (.error (.connection error)) :: .seek sources (.ok replica) :: events) res
  /-- the new primary is sought and not found -/
  | lost (left : ℕ) {primary : AvailableServer} {known sources : List AvailableServer}
      {error : ConnectionError} (e e' : Error)
      (unhinted : ∀ hint, error = .clusterServerNotPrimary (some hint) →
        ∀ r ∈ known, r.privateAddress ≠ hint)
      (alive : ∀ hint, error = .clusterServerNotPrimary hint → primary ∈ sources)
      (dead : (∀ hint, error ≠ .clusterServerNotPrimary hint) →
        ∀ r ∈ sources, r.privateAddress ≠ primary.privateAddress) :
    FailoverTrace (left + 1) primary
      [.run primary known (.error (.connection error)), .seek sources (.error e)] (.error e')

/-! ## The loop produces a trace -/

namespace World

variable (net : Network σ)

theorem runTask_lift_replicas (publicAddress privateAddress : Address) (task : Task σ ρ)
    (c : ServerConnection) (w : World σ) :
    (runTask publicAddress privateAddress task.lift c w).2.manager = w.manager := rfl

/-- A user's task, and connecting for it, leave the known replicas alone. -/
theorem executeOn_lift_replicas (publicAddress privateAddress : Address) (task : Task σ ρ)
    (w : World σ) :
    (w.executeOn net publicAddress privateAddress task.lift).2.manager.replicas =
      w.manager.replicas := by
  unfold executeOn
  split
  · rw [runTask_lift_replicas]
  · obtain ⟨o, ho⟩ := newReplicaConnection_outside net publicAddress w
    unfold recordNewReplicaConnection
    rcases hn : w.newReplicaConnection net publicAddress with ⟨e | c, w₁⟩
    · obtain rfl : w₁ = { w with outside := o } := by rw [hn] at ho; exact ho
      rfl
    · obtain rfl : w₁ = { w with outside := o } := by rw [hn] at ho; exact ho
      rw [runTask_lift_replicas]

theorem hintedReplica_eq_none {m : ServerManager} {error : ConnectionError}
    (h : hintedReplica m error = none) (hint : Address)
    (he : error = .clusterServerNotPrimary (some hint)) :
    ∀ r ∈ m.replicas.iter, r.privateAddress ≠ hint := by
  subst he
  simpa [hintedReplica, ServerManager.findReplicaByPrivateAddress] using h

theorem hintedReplica_eq_some {m : ServerManager} {error : ConnectionError} {r : AvailableServer}
    (h : hintedReplica m error = some r) :
    error = .clusterServerNotPrimary (some r.privateAddress) := by
  unfold hintedReplica at h
  split at h
  · have := List.find?_some h
    rw [of_decide_eq_true this]
  · cases h

theorem failoverCandidates_alive {m : ServerManager} {h : HashOrder AvailableServer}
    {failed : Address} {r : AvailableServer} (hr : r ∈ m.replicas.iter) (hint : Option Address) :
    r ∈ (m.failoverCandidates h failed (.clusterServerNotPrimary hint)).iter :=
  HashSet.mem_collect.mpr hr

theorem failoverCandidates_dead {m : ServerManager} {h : HashOrder AvailableServer}
    {failed : Address} {error : ConnectionError}
    (he : ∀ hint, error ≠ .clusterServerNotPrimary hint) :
    ∀ r ∈ (m.failoverCandidates h failed error).iter, r.privateAddress ≠ failed := by
  intro r hr
  unfold ServerManager.failoverCandidates at hr
  dsimp only at hr
  split at hr
  · exact absurd rfl (he _)
  · have := (List.mem_filter.mp (HashSet.mem_collect.mp hr)).2
    simpa using this

theorem failoverLoop_trace (task : Task σ ρ) (retries : ℕ) :
    ∀ (left : ℕ) (primary : AvailableServer) (errors : ConnectionErrors) (w : World σ),
      primary ∈ w.manager.replicas.iter →
      FailoverTrace left primary (failoverLoop net task.lift retries left primary errors w).1
        (failoverLoop net task.lift retries left primary errors w).2.1
  | 0, primary, errors, w, hp => .exhausted primary _
  | left + 1, primary, errors, w, hp => by
    have hrep := executeOn_lift_replicas net primary.address primary.privateAddress task w
    unfold failoverLoop
    dsimp only
    rcases ho : w.executeOn net primary.address primary.privateAddress task.lift with ⟨e | v, w₁⟩
    · rw [ho] at hrep
      have hp₁ : primary ∈ w₁.manager.replicas.iter := by rw [hrep]; exact hp
      by_cases hc : e.isConnection = true
      · obtain ⟨error, rfl⟩ := Error.isConnection_iff.mp hc
        dsimp only
        split
        · rename_i hinted hh
          rw [hintedReplica_eq_some hh]
          exact .hinted (mem_of_hintedReplica hh) rfl
            (failoverLoop_trace task retries left hinted _ w₁ (mem_of_hintedReplica hh))
        · rename_i hh
          have halive : ∀ hint, error = .clusterServerNotPrimary hint →
              primary ∈ (w₁.manager.failoverCandidates (w₁.hash net)
                primary.privateAddress error).iter := by
            rintro hint rfl
            exact failoverCandidates_alive hp₁ hint
          split
          · rename_i replica w₂ hs
            exact .sought (hintedReplica_eq_none hh) halive failoverCandidates_dead
              (failoverLoop_trace task retries left replica _ w₂ (mem_of_seekPrimaryIn hs))
          · exact .lost left _ _ (hintedReplica_eq_none hh) halive failoverCandidates_dead
      · cases e with
        | connection => exact absurd rfl hc
        | _ => exact .failed left primary _ _ rfl
    · exact .succeeded left primary _ v

end World

/-! ## What a trace obeys -/

/-- The rules of strongly consistent execution. -/
structure FailoverDiscipline (retries : ℕ) (events : List (FailoverEvent ρ)) (res : Result ρ) :
    Prop where
  /-- the task is run at most once more than there are retries -/
  runs_le : (runResults events).length ≤ retries + 1
  /-- nothing follows a run that succeeded -/
  ok_last : ∀ pre replica known v post,
    events = pre ++ .run replica known (.ok v) :: post → post = []
  /-- a value is returned exactly when the last run returned it -/
  ok_iff : ∀ v, res = .ok v ↔ (runResults events).getLast? = some (.ok v)
  /-- nothing follows the first error that is not about the connection, and it is returned -/
  other_error : ∀ pre replica known e post,
    events = pre ++ .run replica known (.error e) :: post → e.isConnection = false →
      post = [] ∧ res = .error e
  /-- after a hint that names a known replica, that replica is next -/
  hinted : ∀ pre replica known hint post,
    events = pre ++ .run replica known
      (.error (.connection (.clusterServerNotPrimary (some hint)))) :: post →
    (∃ r ∈ known, r.privateAddress = hint) →
      post = [] ∨ ∃ r ∈ known, r.privateAddress = hint ∧
        ∃ known' result post', post = .run r known' result :: post'
  /-- without such a hint, the replica that is not the primary is asked as well -/
  alive : ∀ pre replica known hint post,
    events = pre ++ .run replica known
      (.error (.connection (.clusterServerNotPrimary hint))) :: post →
    (∀ a, hint = some a → ∀ r ∈ known, r.privateAddress ≠ a) →
      ∃ sources found post', post = .seek sources found :: post' ∧ replica ∈ sources
  /-- after any other connection error, the replica that failed is not asked -/
  dead : ∀ pre replica known error post,
    events = pre ++ .run replica known (.error (.connection error)) :: post →
    (∀ hint, error ≠ .clusterServerNotPrimary hint) →
      ∃ sources found post', post = .seek sources found :: post' ∧
        ∀ r ∈ sources, r.privateAddress ≠ replica.privateAddress

namespace FailoverTrace

variable {left : ℕ} {primary : AvailableServer} {events : List (FailoverEvent ρ)} {res : Result ρ}

theorem runs_le (h : FailoverTrace left primary events res) :
    (runResults events).length ≤ left := by
  induction h with
  | exhausted => exact Nat.le_refl 0
  | succeeded left | failed left | lost left => simp [runResults]
  | hinted _ _ _ ih => simpa [runResults] using ih
  | sought _ _ _ _ ih => simpa [runResults] using ih

theorem starts (h : FailoverTrace left primary events res) :
    events = [] ∨ ∃ known result post, events = .run primary known result :: post := by
  cases h with
  | exhausted => exact .inl rfl
  | _ => exact .inr ⟨_, _, _, rfl⟩

theorem ok_iff (h : FailoverTrace left primary events res) (v : ρ) :
    res = .ok v ↔ (runResults events).getLast? = some (.ok v) := by
  induction h with
  | exhausted => simp [runResults]
  | succeeded => simp [runResults]
  | failed => simp [runResults]
  | lost => simp [runResults]
  | @hinted _ _ _ _ _ events _ _ _ _ ih =>
    rw [ih]
    simp only [runResults, List.filterMap_cons]
    cases List.filterMap _ events <;> simp
  | @sought _ _ _ _ _ _ events _ _ _ _ _ ih =>
    rw [ih]
    simp only [runResults, List.filterMap_cons]
    cases List.filterMap _ events <;> simp

/-- What a trace does from one of its runs on is a trace again. -/
theorem suffix (h : FailoverTrace left primary events res) {replica : AvailableServer}
    {known : List AvailableServer} {result : Result ρ} {post : List (FailoverEvent ρ)} :
    ∀ {pre : List (FailoverEvent ρ)}, events = pre ++ .run replica known result :: post →
      ∃ left, FailoverTrace left replica (.run replica known result :: post) res := by
  induction h with
  | exhausted => intro pre he; simp at he
  | succeeded left primary _ v =>
    intro pre he
    obtain ⟨rfl, h⟩ | h := List.append_eq_cons_iff.mp he.symm
    · cases h
      exact ⟨_, .succeeded left replica known v⟩
    · simp at h
  | failed left primary _ e other =>
    intro pre he
    obtain ⟨rfl, h⟩ | h := List.append_eq_cons_iff.mp he.symm
    · cases h
      exact ⟨_, .failed left replica known e other⟩
    · simp at h
  | hinted mem private_eq next ih =>
    intro pre he
    obtain ⟨rfl, h⟩ | ⟨pre, rfl, h⟩ := List.append_eq_cons_iff.mp he.symm
    · cases h
      exact ⟨_, .hinted mem private_eq next⟩
    · exact ih h
  | sought unhinted alive dead next ih =>
    intro pre he
    obtain ⟨rfl, h⟩ | ⟨pre, rfl, h⟩ := List.append_eq_cons_iff.mp he.symm
    · cases h
      exact ⟨_, .sought unhinted alive dead next⟩
    · obtain ⟨rfl, h⟩ | ⟨pre, rfl, h'⟩ := List.append_eq_cons_iff.mp h.symm
      · cases h
      · exact ih h'
  | lost left e e' unhinted alive dead =>
    intro pre he
    obtain ⟨rfl, h⟩ | ⟨pre, rfl, h⟩ := List.append_eq_cons_iff.mp he.symm
    · cases h
      exact ⟨_, .lost left e e' unhinted alive dead⟩
    · obtain ⟨rfl, h⟩ | ⟨pre, rfl, h⟩ := List.append_eq_cons_iff.mp h.symm
      · cases h
      · simp at h

theorem discipline {retries : ℕ} (h : FailoverTrace (retries + 1) primary events res) :
    FailoverDiscipline retries events res where
  runs_le := h.runs_le
  ok_last pre replica known v post he := by
    obtain ⟨_, h⟩ := h.suffix he
    cases h
    rfl
  ok_iff := h.ok_iff
  other_error pre replica known e post he hother := by
    obtain ⟨_, h⟩ := h.suffix he
    cases h with
    | failed => exact ⟨rfl, rfl⟩
    | hinted | sought | lost => cases hother
  hinted pre replica known hint post he hknown := by
    obtain ⟨_, h⟩ := h.suffix he
    obtain ⟨r, hr, hrh⟩ := hknown
    cases h with
    | failed _ _ _ _ other => cases other
    | hinted mem private_eq next =>
      rcases next.starts with h | ⟨known', result, post', h⟩
      · exact .inl h
      · exact .inr ⟨_, mem, private_eq, known', result, post', h⟩
    | sought unhinted => exact absurd hrh (unhinted hint rfl r hr)
    | lost _ _ _ unhinted => exact absurd hrh (unhinted hint rfl r hr)
  alive pre replica known hint post he hunknown := by
    obtain ⟨_, h⟩ := h.suffix he
    cases h with
    | failed _ _ _ _ other => cases other
    | hinted mem private_eq next => exact absurd private_eq (hunknown _ rfl _ mem)
    | sought _ alive => exact ⟨_, _, _, rfl, alive hint rfl⟩
    | lost _ _ _ _ alive => exact ⟨_, _, _, rfl, alive hint rfl⟩
  dead pre replica known error post he hother := by
    obtain ⟨_, h⟩ := h.suffix he
    cases h with
    | failed _ _ _ _ other => cases other
    | hinted => exact absurd rfl (hother _)
    | sought _ _ dead => exact ⟨_, _, _, rfl, dead hother⟩
    | lost _ _ _ _ _ dead => exact ⟨_, _, _, rfl, dead hother⟩

end FailoverTrace

/-! ## The events are what happens -/

/-- From one world to another, a run is one `executeOn` on its replica, with the replicas known
after it, and a seek is one `seekPrimaryReplicaIn` among its sources. -/
inductive Executed (net : Network σ) (task : WorldTask σ ρ) (retries : ℕ) :
    List (FailoverEvent ρ) → World σ → World σ → Prop
  | done (w : World σ) : Executed net task retries [] w w
  | run {replica : AvailableServer} {result : Result ρ} {events : List (FailoverEvent ρ)}
      {w w₁ w' : World σ}
      (executed : w.executeOn net replica.address replica.privateAddress task = (result, w₁))
      (next : Executed net task retries events w₁ w') :
    Executed net task retries (.run replica w₁.manager.replicas.iter result :: events) w w'
  | seek {sources : HashSet AvailableServer} {different : Option Address}
      {result : Result AvailableServer} {events : List (FailoverEvent ρ)} {w w₁ w' : World σ}
      (sought : w.seekPrimaryReplicaIn net sources retries different = (some result, w₁))
      (next : Executed net task retries events w₁ w') :
    Executed net task retries (.seek sources.iter result :: events) w w'

/-- The tasks of an event: of a run, one on its replica, or none when the connection to it cannot
be opened; of a seek, those that ask its sources. -/
def EventTasks : FailoverEvent ρ → List TaskRun → Prop
  | .run replica _ result, runs =>
    runs.map TaskRun.target = [replica.target] ∨ runs = [] ∧ ∃ e, result = .error e
  | .seek sources _, runs => ∀ run ∈ runs, run.target ∈ sources.map AvailableServer.target

namespace World

variable (net : Network σ)

theorem failoverLoop_executed (task : WorldTask σ ρ) (retries : ℕ) :
    ∀ (left : ℕ) (primary : AvailableServer) (errors : ConnectionErrors) (w : World σ),
      Executed net task retries (failoverLoop net task retries left primary errors w).1 w
        (failoverLoop net task retries left primary errors w).2.2
  | 0, primary, errors, w => .done w
  | left + 1, primary, errors, w => by
    unfold failoverLoop
    dsimp only
    rcases ho : w.executeOn net primary.address primary.privateAddress task with ⟨e | v, w₁⟩
    · cases e with
      | connection error =>
        dsimp only
        split
        · exact .run ho (failoverLoop_executed task retries left _ _ w₁)
        · have hseek := seekPrimaryReplicaIn_eq net
            (w₁.manager.failoverCandidates (w₁.hash net) primary.privateAddress error) retries
            (some primary.privateAddress) w₁
          split <;> rename_i hs <;> rw [hs] at hseek
          · exact .run ho (.seek hseek (failoverLoop_executed task retries left _ _ _))
          · exact .run ho (.seek hseek (.done _))
      | _ => exact .run ho (.done w₁)
    · exact .run ho (.done w₁)

/-- One task is run, unless there is no connection to run it on. -/
theorem executeOn_tasks (task : Task σ ρ) {replica : AvailableServer} {result : Result ρ}
    {w w₁ : World σ}
    (h : w.executeOn net replica.address replica.privateAddress task.lift = (result, w₁)) :
    ∃ runs, EventTasks (.run replica w₁.manager.replicas.iter result) runs ∧
      w₁.taskRuns = w.taskRuns ++ runs := by
  have hrun : ∀ {c : ServerConnection} {w₀ : World σ}, w₀.taskRuns = w.taskRuns →
      runTask replica.address replica.privateAddress task.lift c w₀ = (result, w₁) →
      ∃ runs, EventTasks (.run replica w₁.manager.replicas.iter result) runs ∧
        w₁.taskRuns = w.taskRuns ++ runs := by
    intro c w₀ hw₀ h
    have hw₁ := congrArg (fun res => res.2.taskRuns) h
    refine ⟨[⟨replica.address, replica.privateAddress, c⟩], .inl rfl, ?_⟩
    rw [← hw₀]
    exact hw₁.symm
  unfold executeOn at h
  split at h
  · exact hrun rfl h
  · obtain ⟨hruns, -⟩ :=
      recordNewReplicaConnection_asked net replica.address replica.privateAddress w
    split at h
    · rename_i e w₀ hn
      rw [hn] at hruns
      obtain ⟨rfl, rfl⟩ := Prod.mk.inj h
      exact ⟨[], .inr ⟨rfl, e, rfl⟩, by rw [List.append_nil]; exact hruns⟩
    · rename_i c w₀ hn
      rw [hn] at hruns
      exact hrun hruns h

/-- A seek runs tasks on its sources only. -/
theorem seekPrimaryReplicaIn_tasks {sources : HashSet AvailableServer} {retries : ℕ}
    {different : Option Address} {result : Result AvailableServer} {w w₁ : World σ}
    (h : w.seekPrimaryReplicaIn net sources retries different = (some result, w₁)) :
    ∃ runs, EventTasks (.seek sources.iter result : FailoverEvent ρ) runs ∧
      w₁.taskRuns = w.taskRuns ++ runs := by
  have hasked := seekLoop_asked net sources.iter different (retries + 1) none w
  rw [← seekPrimaryIn_world] at hasked
  rw [seekPrimaryReplicaIn_eq] at h
  obtain rfl := (Prod.mk.inj h).2
  obtain ⟨runs, hruns, hsub⟩ := hasked.runs
  refine ⟨runs, fun run hrun => ?_, hruns⟩
  obtain ⟨replica, hreplica, htarget⟩ := List.mem_map.mp (hsub.subset (List.mem_map_of_mem hrun))
  obtain ⟨round, hround, hmem⟩ := List.mem_flatMap.mp hreplica
  have hsources := (seekRounds_isPrefix net sources.iter different _ w round hround).subset hmem
  exact List.mem_map.mpr ⟨replica, hsources, htarget⟩

end World

/-- The tasks of a first event, and those of the others after it. -/
theorem EventTasks.cons {event : FailoverEvent ρ} {events : List (FailoverEvent ρ)}
    {tasks : List TaskRun} {w w₁ w' : World σ} (h : EventTasks event tasks)
    (hw₁ : w₁.taskRuns = w.taskRuns ++ tasks)
    (hrest : ∃ runs, List.Forall₂ EventTasks events runs ∧
      w'.taskRuns = w₁.taskRuns ++ runs.flatten) :
    ∃ runs, List.Forall₂ EventTasks (event :: events) runs ∧
      w'.taskRuns = w.taskRuns ++ runs.flatten := by
  obtain ⟨runs, hruns, hw'⟩ := hrest
  refine ⟨tasks :: runs, .cons h hruns, ?_⟩
  rw [hw', hw₁, List.flatten_cons, List.append_assoc]

/-- **The tasks that have been run are those of the events**, in their order. -/
theorem Executed.taskRuns {net : Network σ} {task : Task σ ρ} {retries : ℕ}
    {events : List (FailoverEvent ρ)} {w w' : World σ}
    (h : Executed net task.lift retries events w w') :
    ∃ runs, List.Forall₂ EventTasks events runs ∧ w'.taskRuns = w.taskRuns ++ runs.flatten := by
  induction h with
  | done w => exact ⟨[], .nil, (List.append_nil _).symm⟩
  | run executed next ih =>
    obtain ⟨tasks, htasks, hw₁⟩ := World.executeOn_tasks net task executed
    exact htasks.cons hw₁ ih
  | seek sought next ih =>
    obtain ⟨tasks, htasks, hw₁⟩ := World.seekPrimaryReplicaIn_tasks net sought
    exact htasks.cons hw₁ ih

theorem failoverDiscipline_nil (retries : ℕ) (e : Error) :
    FailoverDiscipline retries ([] : List (FailoverEvent ρ)) (.error e) where
  runs_le := Nat.zero_le _
  ok_last _ _ _ _ _ he := by simp at he
  ok_iff v := by simp [runResults]
  other_error _ _ _ _ _ he := by simp at he
  hinted _ _ _ _ _ he := by simp at he
  alive _ _ _ _ _ he := by simp at he
  dead _ _ _ _ _ he := by simp at he

/-- The events and the result of an execution obey the rules. -/
theorem World.failoverDiscipline (net : Network σ) (task : Task σ ρ) (w : World σ) :
    FailoverDiscipline w.manager.primaryFailoverRetries
      (w.executeStronglyConsistent net task.lift).1
      (w.executeStronglyConsistent net task.lift).2.1 := by
  unfold executeStronglyConsistent
  dsimp only
  split
  · exact failoverDiscipline_nil _ _
  · rename_i primary w₁ h
    exact (failoverLoop_trace net task _ _ primary ∅ w₁
      (mem_of_getOrSeekPrimaryReplica h)).discipline

/-- Its events are what happens once the first primary is known. -/
theorem World.executeStronglyConsistent_executed (net : Network σ) (task : WorldTask σ ρ)
    (w : World σ) :
    Executed net task w.manager.primaryFailoverRetries (w.executeStronglyConsistent net task).1
      (w.getOrSeekPrimaryReplica net w.manager.primaryFailoverRetries).2
      (w.executeStronglyConsistent net task).2.2 := by
  unfold executeStronglyConsistent
  dsimp only
  split
  · rename_i h
    rw [h]
    exact .done _
  · rename_i h
    rw [h]
    exact failoverLoop_executed net task _ _ _ _ _

/-- **Strongly consistent execution**, for every network, every task and every world it starts
in: the events of the failover loop and the result obey the discipline, the events are what happens
after the first primary is known, and the tasks that have been run are those of the events. -/
theorem World.executeStronglyConsistent_discipline (net : Network σ) (task : Task σ ρ)
    (w : World σ) :
    FailoverDiscipline w.manager.primaryFailoverRetries
      (w.executeStronglyConsistent net task.lift).1
      (w.executeStronglyConsistent net task.lift).2.1 ∧
    Executed net task.lift w.manager.primaryFailoverRetries
      (w.executeStronglyConsistent net task.lift).1
      (w.getOrSeekPrimaryReplica net w.manager.primaryFailoverRetries).2
      (w.executeStronglyConsistent net task.lift).2.2 ∧
    ∃ runs, List.Forall₂ EventTasks (w.executeStronglyConsistent net task.lift).1 runs ∧
      (w.executeStronglyConsistent net task.lift).2.2.taskRuns =
        (w.getOrSeekPrimaryReplica net w.manager.primaryFailoverRetries).2.taskRuns ++
          runs.flatten :=
  ⟨w.failoverDiscipline net task, w.executeStronglyConsistent_executed net task.lift,
    (w.executeStronglyConsistent_executed net task.lift).taskRuns⟩

end TypeDBDriver
