import TypeDBDriver.Server.Change

/-!
# Seeking the primary

* `NewestPrimary`: a primary of a list such that no primary of the list has a greater term.
* `askedSources`, `Round`, `seekRounds`: the sources that are asked in a round, and the rounds of
  `seekPrimaryReplicaIn`.
* `Asked`: what asking some sources does to the records of the world; `executeOn_asked`,
  `executeOnAny_asked`, `seekLoop_asked`.
* `Found`: a replica is the newest primary of the list fetched last; `seekPrimaryReplica_ok`.
* `seekLoop_ok`: where the primary comes from, by induction on the rounds left.
* **`seekPrimaryReplicaIn_sought`**: a seek is bounded, does not panic, and finds the newest primary.
-/

namespace TypeDBDriver

variable {σ ρ : Type}

/-- `r` is a primary of the list, and none of its primaries has a greater term. -/
structure NewestPrimary (servers : List Server) (r : AvailableServer) : Prop where
  mem : r ∈ filterAvailableReplicas servers
  primary : r.isPrimary = true
  newest : ∀ s ∈ filterAvailableReplicas servers, s.isPrimary = true →
    s.term.getD 0 ≤ r.term.getD 0

/-- A pass over the sources, and what comes of it. -/
structure Round where
  asked : List AvailableServer
  result : Result AvailableServer

/-- The addresses that a task is directed to. -/
def TaskRun.target (run : TaskRun) : Address × Address := (run.publicAddress, run.privateAddress)

def AvailableServer.target (r : AvailableServer) : Address × Address := (r.address, r.privateAddress)

namespace World

/-- The sources that `trySeekPrimaryReplicaIn` asks: up to the first that does not fail to
connect. -/
def askedSources (net : Network σ) : List AvailableServer → World σ → List AvailableServer
  | [], _ => []
  | replica :: replicas, w =>
    replica ::
      match w.executeOn net replica.address replica.privateAddress (seekPrimaryReplica net) with
      | (.error (.connection _), w) => askedSources net replicas w
      | _ => []

/-- The rounds of `seekLoop`, with the number of those left. -/
def seekRounds (net : Network σ) (sources : List AvailableServer)
    (expectDifferentFrom : Option Address) : ℕ → World σ → List Round
  | 0, _ => []
  | left + 1, w =>
    let asked := askedSources net sources w
    match trySeekPrimaryReplicaIn net sources w with
    | (.ok replica, w) =>
      ⟨asked, .ok replica⟩ ::
        if expectDifferentFrom = some replica.privateAddress ∧ 0 < left then
          seekRounds net sources expectDifferentFrom left w
        else []
    | (.error err, w) =>
      ⟨asked, .error err⟩ :: seekRounds net sources expectDifferentFrom left w

/-! ## What is asked -/

/-- Some sources were asked, each at most once, and lists of servers were fetched. -/
structure Asked (sources : List AvailableServer) (w w' : World σ) : Prop where
  runs : ∃ runs, w'.taskRuns = w.taskRuns ++ runs ∧
    List.Sublist (runs.map TaskRun.target) (sources.map AvailableServer.target)
  lists : ∃ lists, w'.cachedReplies = w.cachedReplies ++ lists

namespace Asked

variable {w w₁ w₂ : World σ} {sources sources' : List AvailableServer}

theorem trans (h : Asked sources w w₁) (h' : Asked sources' w₁ w₂) :
    Asked (sources ++ sources') w w₂ := by
  obtain ⟨⟨runs, hruns, hsub⟩, lists, hlists⟩ := h
  obtain ⟨⟨runs', hruns', hsub'⟩, lists', hlists'⟩ := h'
  refine ⟨⟨runs ++ runs', ?_, ?_⟩, lists ++ lists', ?_⟩
  · rw [hruns', hruns, List.append_assoc]
  · rw [List.map_append, List.map_append]
    exact hsub.append hsub'
  · rw [hlists', hlists, List.append_assoc]

/-- Nothing was run. -/
theorem of_eq (hruns : w₁.taskRuns = w.taskRuns)
    (hlists : ∃ lists, w₁.cachedReplies = w.cachedReplies ++ lists) : Asked sources w w₁ :=
  ⟨⟨[], by rw [hruns, List.append_nil], List.nil_sublist _⟩, hlists⟩

end Asked

variable (net : Network σ)

/-- A refresh of the connections fetches nothing and runs nothing. -/
theorem refreshReplicaConnections_asked (w : World σ) :
    Asked [] w (w.refreshReplicaConnections net).2 := by
  obtain ⟨o, connections, h, -⟩ := refreshReplicaConnections_spec net w
  rw [h]
  exact .of_eq rfl ⟨[], (List.append_nil _).symm⟩

/-- A new connection fetches nothing and runs nothing. -/
theorem recordNewReplicaConnection_asked (publicAddress privateAddress : Address) (w : World σ) :
    (w.recordNewReplicaConnection net publicAddress privateAddress).2.taskRuns = w.taskRuns ∧
      (w.recordNewReplicaConnection net publicAddress privateAddress).2.cachedReplies =
        w.cachedReplies := by
  obtain ⟨o, ho⟩ := newReplicaConnection_outside net publicAddress w
  unfold recordNewReplicaConnection
  rcases hn : w.newReplicaConnection net publicAddress with ⟨e | c, w₁⟩
  · obtain rfl : w₁ = { w with outside := o } := by rw [hn] at ho; exact ho
    exact ⟨rfl, rfl⟩
  · obtain rfl : w₁ = { w with outside := o } := by rw [hn] at ho; exact ho
    exact ⟨rfl, rfl⟩

/-- Asking one server runs at most one task on it, and writes what that task writes. -/
theorem executeOn_asked {task : WorldTask σ ρ} (htask : ∀ c w, Asked [] w (task c w).2)
    (r : AvailableServer) (w : World σ) :
    Asked [r] w (w.executeOn net r.address r.privateAddress task).2 := by
  have hrun : ∀ c w, Asked [r] w (runTask r.address r.privateAddress task c w).2 := fun c w => by
    have hstart : Asked [r] w
        { w with taskRuns := w.taskRuns ++ [⟨r.address, r.privateAddress, c⟩] } :=
      ⟨⟨_, rfl, List.Sublist.refl _⟩, [], (List.append_nil _).symm⟩
    exact hstart.trans (htask c _)
  unfold executeOn
  split
  · exact hrun _ w
  · obtain ⟨hruns, hlists⟩ := recordNewReplicaConnection_asked net r.address r.privateAddress w
    split
    · rename_i h
      rw [h] at hruns hlists
      exact .of_eq hruns ⟨[], by rw [hlists, List.append_nil]⟩
    · rename_i c w₁ h
      rw [h] at hruns hlists
      have hopen : Asked [] w w₁ := .of_eq hruns ⟨[], by rw [hlists, List.append_nil]⟩
      exact hopen.trans (hrun c w₁)

/-! ## What is found -/

/-- The cached primary is the newest one of the list just written. -/
theorem newestPrimary_of_writeReplicas {servers : List Server} {w : World σ} {r : AvailableServer}
    (h : (w.writeReplicas net servers).manager.readPrimaryReplica = some r) :
    NewestPrimary servers r where
  mem := HashSet.mem_collect.mp (mem_of_findPrimaryReplica h).1
  primary := (mem_of_findPrimaryReplica h).2
  newest _ hs hprimary := le_of_findPrimaryReplica h (HashSet.mem_collect.mpr hs) hprimary

/-- Lists were fetched, and `r` is the newest primary of the last of them. -/
def Found (r : AvailableServer) (w w' : World σ) : Prop :=
  ∃ lists servers, w'.cachedReplies = w.cachedReplies ++ lists ++ [servers] ∧
    NewestPrimary servers r

theorem Asked.found {w w₁ w₂ : World σ} {sources : List AvailableServer} {r : AvailableServer}
    (h : Asked sources w w₁) (hr : Found r w₁ w₂) : Found r w w₂ := by
  obtain ⟨lists, hlists⟩ := h.lists
  obtain ⟨lists', servers, hlast, hnewest⟩ := hr
  refine ⟨lists ++ lists', servers, ?_, hnewest⟩
  rw [hlast, hlists, List.append_assoc w.cachedReplies]

theorem fetchServersFromConnection_world {t : AddressTranslation} {c : ServerConnection}
    {w w' : World σ} {res : Result (List Server)}
    (h : (fetchServersFromConnection net t).lift c w = (res, w')) :
    ∃ outside, w' = { w with outside } := by
  unfold Task.lift at h
  obtain ⟨-, rfl⟩ := Prod.mk.inj h
  exact ⟨_, rfl⟩

theorem seekPrimaryReplica_asked (c : ServerConnection) (w : World σ) :
    Asked [] w (seekPrimaryReplica net c w).2 := by
  unfold seekPrimaryReplica
  rcases hf : (fetchServersFromConnection net w.manager.addressTranslation).lift c w with ⟨res, w₁⟩
  obtain ⟨o, rfl⟩ := fetchServersFromConnection_world net hf
  cases res with
  | error e => exact .of_eq rfl ⟨[], (List.append_nil _).symm⟩
  | ok servers =>
    have hwrite : Asked [] w (World.writeReplicas net servers { w with outside := o }) :=
      .of_eq rfl ⟨[servers], rfl⟩
    have hrefresh := hwrite.trans (refreshReplicaConnections_asked net
      (World.writeReplicas net servers { w with outside := o }))
    dsimp only
    split
    · split
      · rename_i h
        rw [h] at hrefresh
        exact hrefresh
      · rename_i h
        rw [h] at hrefresh
        exact hrefresh
    · exact hwrite

/-- A primary that is found is the newest one of the list fetched last. -/
theorem seekPrimaryReplica_ok {c : ServerConnection} {w w' : World σ} {r : AvailableServer}
    (h : seekPrimaryReplica net c w = (.ok r, w')) : Found r w w' := by
  unfold seekPrimaryReplica at h
  split at h
  · cases h
  · rename_i servers w₁ hf
    dsimp only at h
    split at h
    · rename_i x hx
      split at h
      · cases h
      · rename_i w₂ hc
        obtain ⟨o, connections, hw₂, -⟩ := refreshReplicaConnections_spec net
          (w₁.writeReplicas net servers)
        rw [hc] at hw₂
        obtain ⟨hxr, rfl⟩ := Prod.mk.inj h
        obtain rfl := Except.ok.inj hxr
        obtain ⟨o', rfl⟩ := fetchServersFromConnection_world net hf
        refine ⟨[], servers, ?_, newestPrimary_of_writeReplicas net hx⟩
        rw [show w₂ = _ from hw₂, List.append_nil]
        rfl
    · cases h

theorem executeOn_found {r s : AvailableServer} {w w' : World σ}
    (h : w.executeOn net s.address s.privateAddress (seekPrimaryReplica net) = (.ok r, w')) :
    Found r w w' := by
  have hrun : ∀ {c w}, runTask s.address s.privateAddress (seekPrimaryReplica net) c w =
      (.ok r, w') → Found r w w' := seekPrimaryReplica_ok net
  unfold executeOn at h
  split at h
  · exact hrun h
  · obtain ⟨hruns, hlists⟩ := recordNewReplicaConnection_asked net s.address s.privateAddress w
    split at h
    · cases h
    · rename_i w₁ hn
      rw [hn] at hruns hlists
      have hopen : Asked [] w w₁ := .of_eq hruns ⟨[], by rw [hlists, List.append_nil]⟩
      exact hopen.found (hrun h)

/-! ## A round -/

theorem askedSources_isPrefix : ∀ (sources : List AvailableServer) (w : World σ),
    askedSources net sources w <+: sources
  | [], w => List.prefix_refl _
  | r :: sources, w => by
    unfold askedSources
    refine (List.prefix_cons_inj r).mpr ?_
    split
    · exact askedSources_isPrefix sources _
    · exact List.nil_prefix

theorem executeOnAny_asked : ∀ (sources : List AvailableServer) (errors : ConnectionErrors)
    (w : World σ), Asked (askedSources net sources w) w
      (executeOnAny net (seekPrimaryReplica net) sources errors w).2
  | [], errors, w => .of_eq rfl ⟨[], (List.append_nil _).symm⟩
  | r :: sources, errors, w => by
    have hone := executeOn_asked net (seekPrimaryReplica_asked net) r w
    unfold executeOnAny askedSources
    rcases he : w.executeOn net r.address r.privateAddress (seekPrimaryReplica net) with ⟨res, w₁⟩
    rw [he] at hone
    cases res with
    | ok _ => exact hone
    | error e =>
      cases e with
      | connection e => exact hone.trans (executeOnAny_asked sources _ w₁)
      | _ => exact hone

theorem executeOnAny_found {r : AvailableServer} {w' : World σ} :
    ∀ {sources : List AvailableServer} {errors : ConnectionErrors} {w : World σ},
      executeOnAny net (seekPrimaryReplica net) sources errors w = (.ok r, w') → Found r w w'
  | [], errors, w, h => by cases h
  | s :: sources, errors, w, h => by
    have hone := executeOn_asked net (seekPrimaryReplica_asked net) s w
    unfold executeOnAny at h
    split at h
    · rename_i he
      rw [he] at hone
      exact hone.found (executeOnAny_found h)
    · exact executeOn_found net h

/-! ## The rounds -/

variable (sources : List AvailableServer) (expectDifferentFrom : Option Address)

/-- One round, and what the rest of the rounds is. -/
theorem seekRounds_succ (left : ℕ) (w : World σ) :
    seekRounds net sources expectDifferentFrom (left + 1) w =
      ⟨askedSources net sources w, (trySeekPrimaryReplicaIn net sources w).1⟩ ::
        match trySeekPrimaryReplicaIn net sources w with
        | (.ok replica, w) =>
          if expectDifferentFrom = some replica.privateAddress ∧ 0 < left then
            seekRounds net sources expectDifferentFrom left w
          else []
        | (.error _, w) => seekRounds net sources expectDifferentFrom left w := by
  rw [seekRounds]
  rcases trySeekPrimaryReplicaIn net sources w with ⟨_ | _, w₁⟩ <;> rfl

theorem seekRounds_length_le : ∀ (left : ℕ) (w : World σ),
    (seekRounds net sources expectDifferentFrom left w).length ≤ left
  | 0, w => le_refl 0
  | left + 1, w => by
    rw [seekRounds_succ, List.length_cons, Nat.succ_le_succ_iff]
    split
    · split_ifs
      · exact seekRounds_length_le left _
      · exact Nat.zero_le left
    · exact seekRounds_length_le left _

theorem seekRounds_isPrefix : ∀ (left : ℕ) (w : World σ),
    ∀ round ∈ seekRounds net sources expectDifferentFrom left w, round.asked <+: sources
  | 0, w => nofun
  | left + 1, w => by
    rw [seekRounds_succ]
    refine List.forall_mem_cons.mpr ⟨askedSources_isPrefix net sources w, ?_⟩
    split
    · split_ifs
      · exact seekRounds_isPrefix left _
      · nofun
    · exact seekRounds_isPrefix left _

/-- The loop asks what its rounds ask. -/
theorem seekLoop_asked : ∀ (left : ℕ) (lastError : Option Error) (w : World σ),
    Asked ((seekRounds net sources expectDifferentFrom left w).flatMap Round.asked) w
      (seekLoop net sources expectDifferentFrom left lastError w).2
  | 0, lastError, w => .of_eq rfl ⟨[], (List.append_nil _).symm⟩
  | left + 1, lastError, w => by
    have hround : Asked _ w (trySeekPrimaryReplicaIn net sources w).2 :=
      executeOnAny_asked net sources ∅ w
    rw [seekRounds_succ, List.flatMap_cons]
    unfold seekLoop
    rcases ht : trySeekPrimaryReplicaIn net sources w with ⟨e | r, w₁⟩
    · rw [ht] at hround
      exact hround.trans (seekLoop_asked left _ w₁)
    · rw [ht] at hround
      dsimp only
      split_ifs
      · exact hround.trans (seekLoop_asked left _ w₁)
      · rw [List.flatMap_nil, List.append_nil]
        exact hround

theorem result_getLast?_cons {round : Round} {rounds : List Round} {res : Result AvailableServer}
    (h : rounds.getLast?.map Round.result = some res) :
    (round :: rounds).getLast?.map Round.result = some res := by
  obtain ⟨last, hlast, rfl⟩ := Option.map_eq_some_iff.mp h
  rw [List.getLast?_cons, hlast]
  rfl

/-- The primary that the loop ends with is found in its last round, and it is the expected one only
where all rounds were needed. -/
theorem seekLoop_ok {r : AvailableServer} {w' : World σ} :
    ∀ {left : ℕ} {lastError : Option Error} {w : World σ},
      seekLoop net sources expectDifferentFrom left lastError w = (.ok r, w') →
        Found r w w' ∧
        (seekRounds net sources expectDifferentFrom left w).getLast?.map Round.result =
          some (.ok r) ∧
        (expectDifferentFrom = some r.privateAddress →
          (seekRounds net sources expectDifferentFrom left w).length = left)
  | 0, lastError, w, h => by cases h
  | left + 1, lastError, w, h => by
    have hround : Asked _ w (trySeekPrimaryReplicaIn net sources w).2 :=
      executeOnAny_asked net sources ∅ w
    rw [seekRounds_succ]
    unfold seekLoop at h
    rcases ht : trySeekPrimaryReplicaIn net sources w with ⟨e | x, w₁⟩
    · rw [ht] at h hround
      obtain ⟨hfound, hlast, hlen⟩ := seekLoop_ok h
      exact ⟨hround.found hfound, result_getLast?_cons hlast, fun he => congrArg (· + 1) (hlen he)⟩
    · rw [ht] at h hround
      dsimp only at h ⊢
      split_ifs at h ⊢ with hstale
      · obtain ⟨hfound, hlast, hlen⟩ := seekLoop_ok h
        exact ⟨hround.found hfound, result_getLast?_cons hlast,
          fun he => congrArg (· + 1) (hlen he)⟩
      · obtain ⟨hx, rfl⟩ := Prod.mk.inj h
        obtain rfl := Except.ok.inj hx
        refine ⟨executeOnAny_found net ht, rfl, fun he => ?_⟩
        have hleft : left = 0 := Nat.eq_zero_of_not_pos fun hpos => hstale ⟨he, hpos⟩
        rw [hleft]
        rfl

/-- How a seek from `w` went: its rounds, and what it returned in `w'`. -/
structure Sought (sources : HashSet AvailableServer) (retries : ℕ)
    (expectDifferentFrom : Option Address) (w : World σ) (rounds : List Round)
    (res : Result AvailableServer) (w' : World σ) : Prop where
  bounded : rounds.length ≤ retries + 1
  /-- a round asks the sources in their order, each at most once -/
  once : ∀ round ∈ rounds, round.asked <+: sources.iter ∧ round.asked.Nodup
  /-- the tasks that were run are those of the rounds -/
  asked : Asked (rounds.flatMap Round.asked) w w'
  found : ∀ r, res = .ok r → Found r w w'
  last : ∀ r, res = .ok r → rounds.getLast?.map Round.result = some (.ok r)
  /-- a stale primary is returned by the last of all rounds only -/
  stale : ∀ r, res = .ok r → expectDifferentFrom = some r.privateAddress →
    rounds.length = retries + 1

/-- **A seek is bounded, does not unwrap a missing error, and finds the newest primary.** -/
theorem seekPrimaryReplicaIn_sought (sources : HashSet AvailableServer) (retries : ℕ)
    (expectDifferentFrom : Option Address) (w : World σ) :
    ∃ res w', w.seekPrimaryReplicaIn net sources retries expectDifferentFrom = (some res, w') ∧
      Sought sources retries expectDifferentFrom w
        (seekRounds net sources.iter expectDifferentFrom (retries + 1) w) res w' := by
  have hok : ∀ r, (w.seekPrimaryIn net sources retries expectDifferentFrom).1 = .ok r →
      seekLoop net sources.iter expectDifferentFrom (retries + 1) none w =
        (.ok r, (w.seekPrimaryIn net sources retries expectDifferentFrom).2) :=
    fun r hr => seekLoop_of_seekPrimaryIn_ok (Prod.ext hr rfl)
  refine ⟨_, _, seekPrimaryReplicaIn_eq net sources retries expectDifferentFrom w,
    seekRounds_length_le net sources.iter expectDifferentFrom _ w, fun round hround => ?_, ?_,
    fun r hr => (seekLoop_ok net sources.iter expectDifferentFrom (hok r hr)).1,
    fun r hr => (seekLoop_ok net sources.iter expectDifferentFrom (hok r hr)).2.1,
    fun r hr => (seekLoop_ok net sources.iter expectDifferentFrom (hok r hr)).2.2⟩
  · have hround_le := seekRounds_isPrefix net sources.iter expectDifferentFrom _ w round hround
    exact ⟨hround_le, sources.nodup.sublist hround_le.sublist⟩
  · rw [seekPrimaryIn_world]
    exact seekLoop_asked net sources.iter expectDifferentFrom (retries + 1) none w

end World

end TypeDBDriver
