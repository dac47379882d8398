import TypeDBDriver.Transaction.Frames
import TypeDBDriver.Transaction.Registry

/-!
# Rejected requests

A request is rejected when its call is refused, when its sink is dropped before the server has
answered it, or when its reader asks for more in vain.

* `State.sinkCalls`, `State.lost`: the calls that sinks lead to, and those whose sinks a step drops.
* `State.endError`: what such a call is told.
* `State.rejected`: the errors with which a step rejects requests.
* `State.exitsNext`, `State.listenerEnds`: the steps with which the dispatch loop and the listener
  drop what they hold.
* **`dispatchLoop_keepsSinks`**, **`listenLoop_lost`**: unless one of these two ends with sinks in
  its hands, a step drops sinks only to tell the error that closed the transaction.
-/

namespace TypeDBDriver.Transaction.State

variable {ρ π α : Type} {decode : π → Decode Error α} {encodedLen : Req ρ → ℕ}

/-! ## Lost sinks -/

/-- The calls that a sink leads to: one in the queue, or in a map that a party still holds. -/
def sinkCalls (s : State ρ π α) : List ℕ :=
  s.requestSource.filterMap Multiplexer.queuedCall ++
    if s.collectorExists then s.callbacks.entries.map fun e => e.2.call else []

/-- The calls whose sinks a step drops. -/
def lost (s t : State ρ π α) : List ℕ := s.sinkCalls.filter fun call => !t.sinkExists call

/-- The error with which the promise or the stream of a call ends, if any, once its sink is gone. -/
def endError (s : State ρ π α) (call : ℕ) : Option Error :=
  match (s.channels call).sent.getLast?, (s.channels call).sink with
  | some (.result (.error error)), _ => some error
  | none, some (.oneShot _) => some (.internal .recvError)
  | _, _ => none

/-- The next that the reader of a call takes asks for more. -/
def nextIsCont (s : State ρ π α) (call : ℕ) : Bool :=
  match (s.channels call).sent[(s.channels call).taken]? with
  | some (.cont _) => true
  | _ => false

/-- What a reader yields in place of a request for more. -/
def continueErrors (s t : State ρ π α) : Action ρ π → List (Option Error)
  | .read call =>
    if s.nextIsCont call then
      ((t.channels call).yielded.drop (s.channels call).yielded.length).map fun
        | .error error => some error
        | .ok _ => none
    else []
  | _ => []

/-- The errors with which requests are rejected in a step, `none` for a stream that just ends. -/
def rejected (s t : State ρ π α) (a : Action ρ π) : List (Option Error) :=
  (t.refused.drop s.refused.length).map (fun r => some r.2) ++ (s.lost t).map t.endError ++
    s.continueErrors t a

/-- The next step of the dispatch loop is its last one. -/
def exitsNext (s : State ρ π α) : Bool :=
  match s.dispatch with
  | .top => s.shutdownSignals ≠ 0
  | .draining => s.poisoned && s.requestSource.head?.any fun r => r.2.isSome
  | _ => false

/-- The next step of the listener, which has closed the transaction, is its last one. -/
def listenerEnds (s : State ρ π α) : Bool :=
  match s.listener with
  | .invoking _ rest => s.handlerQueue.isEmpty && (rest.isEmpty || !s.handlerAlive)
  | _ => false

variable {s t : State ρ π α}

theorem sinkExists_iff {call : ℕ} :
    s.sinkExists call = true ↔
      (∃ r ∈ s.requestSource, ∃ sink, r.2 = some sink ∧ sink.call = call) ∨
        s.collectorExists = true ∧ ∃ e ∈ s.callbacks.entries, e.2.call = call := by
  simp only [sinkExists, Bool.or_eq_true, Bool.and_eq_true, List.any_eq_true, decide_eq_true_eq,
    Option.any_eq_true]

theorem mem_sinkCalls {call : ℕ} : call ∈ s.sinkCalls ↔ s.sinkExists call = true := by
  rw [sinkExists_iff, sinkCalls, List.mem_append, List.mem_filterMap]
  refine or_congr ?_ ?_
  · simp only [Multiplexer.queuedCall, Option.map_eq_some_iff]
  · split_ifs with h <;> simp [h]

theorem mem_lost {call : ℕ} :
    call ∈ s.lost t ↔ s.sinkExists call = true ∧ t.sinkExists call = false := by
  rw [lost, List.mem_filter, mem_sinkCalls, Bool.not_eq_true']

/-- Every sink of `s` is there in `t`. -/
def KeepsSinks (s t : State ρ π α) : Prop :=
  ∀ call, s.sinkExists call = true → t.sinkExists call = true

theorem KeepsSinks.lost (h : s.KeepsSinks t) : s.lost t = [] := by
  refine List.eq_nil_iff_forall_not_mem.mpr fun call hcall => ?_
  obtain ⟨hs, ht⟩ := mem_lost.mp hcall
  rw [h call hs] at ht
  cases ht

/-- A step that takes nothing from the queue and the map, and leaves someone to hold the map. -/
theorem KeepsSinks.of_subset (hqueue : ∀ r ∈ s.requestSource, r.2.isSome → r ∈ t.requestSource)
    (hmap : s.collectorExists = true → s.callbacks.entries = [] ∨
      t.collectorExists = true ∧ ∀ e ∈ s.callbacks.entries, e ∈ t.callbacks.entries) :
    s.KeepsSinks t := by
  intro call hcall
  rw [sinkExists_iff] at hcall ⊢
  rcases hcall with ⟨r, hr, sink, hsink, hcall⟩ | ⟨hexists, e, he, hcall⟩
  · exact .inl ⟨r, hqueue r hr (by rw [hsink]; rfl), sink, hsink, hcall⟩
  · rcases hmap hexists with hempty | ⟨hexists', hentries⟩
    · rw [hempty] at he
      cases he
    · exact .inr ⟨hexists', e, hentries e he, hcall⟩

/-- A step aside drops no sink. -/
theorem Aside.keepsSinks (h : s.Aside t) : s.KeepsSinks t := by
  intro call hcall
  rw [sinkExists, collectorExists] at hcall ⊢
  rw [h.requestSource, h.dispatch, h.listener, h.callbacks]
  exact hcall

/-! ## Callers and readers -/

theorem submit_keepsSinks {index : ℕ} (h : s.submit index = some t) : s.KeepsSinks t := by
  unfold submit at h
  split at h
  · cases h
  · dsimp only at h
    split_ifs at h
    · obtain rfl := Option.some.inj h
      exact fun _ h => h
    · obtain rfl := Option.some.inj h
      exact .of_subset (fun r hr _ => List.mem_append_left _ hr) fun h => .inr ⟨h, fun e he => he⟩

theorem read_keepsSinks {call : ℕ} (h : s.read call = some t) : s.KeepsSinks t := by
  unfold read at h
  dsimp only at h
  split at h
  · cases h
  split at h
  · obtain rfl := Option.some.inj h
    exact fun _ h => h
  · split_ifs at h
    · obtain rfl := Option.some.inj h
      exact fun _ h => h
    · obtain rfl := Option.some.inj h
      exact .of_subset (fun r hr _ => List.mem_append_left _ hr) fun h => .inr ⟨h, fun e he => he⟩
  · split_ifs at h
    obtain rfl := Option.some.inj h
    exact fun _ h => h

/-- A request for more that is sent yields nothing. -/
theorem read_continue {call : ℕ} (h : s.read call = some t) (hcont : s.nextIsCont call = true)
    (hexited : s.dispatch.isExited = false) :
    (t.channels call).yielded = (s.channels call).yielded := by
  unfold read at h
  dsimp only at h
  split at h
  · cases h
  split at h
  next response hnext => simp [nextIsCont, hnext] at hcont
  next requestId hnext =>
    rw [if_neg (by rw [hexited]; exact Bool.false_ne_true)] at h
    obtain rfl := Option.some.inj h
    simp only [Function.update_self]
  next hnext => simp [nextIsCont, hnext] at hcont

/-! ## The dispatch loop -/

/-- The end of the dispatch loop drops no sink if none is queued and no one else's map is. -/
theorem exitDispatch_keepsSinks {u : State ρ π α}
    (hqueue : u.requestSource.all fun r => r.2.isNone)
    (hmap : u.listener.isAlive || u.callbacks.entries.isEmpty) :
    u.KeepsSinks u.exitDispatch := by
  refine .of_subset (fun r hr hsome => ?_) fun _ => ?_
  · have hnone := List.all_eq_true.mp hqueue r hr
    rw [Option.isNone_iff_eq_none] at hnone
    rw [hnone] at hsome
    cases hsome
  · rcases Bool.or_eq_true_iff.mp hmap with halive | hempty
    · exact .inr ⟨halive, fun e he => he⟩
    · exact .inl (List.isEmpty_iff.mp hempty)

/-- A callback is registered under a new id. -/
theorem mem_entries_register (hm : s.multiplexer.Sound) {requestId : RequestID}
    {sink : ResponseSink} (hfresh : requestId ∉ s.requestIds) :
    ∀ e ∈ s.callbacks.entries, e ∈ (s.callbacks.insert requestId sink).entries := by
  intro e he
  have hlookup : s.callbacks.lookup e.1 = some e.2 := AList.mem_lookup_iff.mpr he
  obtain ⟨r, hr, hid, -⟩ := hm.callbacks e.1 e.2 hlookup
  have hne : e.1 ≠ requestId := by
    rintro rfl
    exact hfresh (List.mem_map.mpr ⟨r, hr, hid⟩)
  refine AList.mem_lookup_iff.mp ?_
  rw [AList.lookup_insert_ne hne]
  exact hlookup

theorem dispatchLoop_keepsSinks {generated : RequestID} (hm : s.multiplexer.Sound)
    (h : s.dispatchLoop encodedLen generated = some t)
    (hexit : s.exitsNext = true → (s.requestSource.all fun r => r.2.isNone) = true ∧
      (s.listener.isAlive || s.callbacks.entries.isEmpty) = true) :
    s.KeepsSinks t := by
  unfold dispatchLoop at h
  split at h
  next hphase =>
    split_ifs at h with hsignals
    · obtain rfl := Option.some.inj h
      exact .of_subset (fun r hr _ => hr) fun _ => .inr ⟨rfl, fun e he => he⟩
    · obtain rfl := Option.some.inj h
      obtain ⟨hqueue, hmap⟩ := hexit (by simp [exitsNext, hphase, hsignals])
      exact exitDispatch_keepsSinks hqueue hmap
  next hphase =>
    split at h
    next hqueue =>
      obtain rfl := Option.some.inj h
      exact .of_subset (fun r hr _ => hr) fun _ => .inr ⟨rfl, fun e he => he⟩
    next request rest hqueue =>
      obtain rfl := Option.some.inj h
      refine .of_subset (fun r hr hsome => ?_) fun _ => .inr ⟨rfl, fun e he => he⟩
      rw [hqueue] at hr
      rcases List.mem_cons.mp hr with rfl | hr
      · cases hsome
      · exact hr
    next request sink rest hqueue =>
      dsimp only at h
      split_ifs at h with hid hpoisoned hblocked
      · obtain rfl := Option.some.inj h
        obtain ⟨hnone, hmap⟩ := hexit (by simp [exitsNext, hphase, hqueue, hpoisoned])
        exact exitDispatch_keepsSinks hnone hmap
      · obtain rfl := Option.some.inj h
        intro call hcall
        rw [sinkExists_iff] at hcall ⊢
        have hregistered : ∃ e ∈ (s.callbacks.insert (request.intoProto generated).reqId
            sink).entries, e.2 = sink :=
          ⟨⟨_, sink⟩, AList.mem_lookup_iff.mp (AList.lookup_insert _), rfl⟩
        -- the sink goes from the queue to the map
        rcases hcall with ⟨r, hr, sink', hsink, hcall⟩ | ⟨-, e, he, hcall⟩
        · rw [hqueue] at hr
          rcases List.mem_cons.mp hr with rfl | hr
          · obtain ⟨e, he, hsink'⟩ := hregistered
            obtain rfl := Option.some.inj hsink
            exact .inr ⟨rfl, e, he, hsink' ▸ hcall⟩
          · exact .inl ⟨r, hr, sink', hsink, hcall⟩
        · exact .inr ⟨rfl, e, mem_entries_register hm hid e he, hcall⟩
  next request hphase =>
    split_ifs at h
    · obtain rfl := Option.some.inj h
      exact .of_subset (fun r hr _ => hr) fun _ => .inr ⟨rfl, fun e he => he⟩
    · obtain rfl := Option.some.inj h
      exact .of_subset (fun r hr _ => hr) fun _ => .inr ⟨rfl, fun e he => he⟩
  next => cases h

/-! ## The listener -/

/-- The calls whose callbacks are drained are told the error. -/
theorem lost_drain (hm : s.multiplexer.Sound) {error : Error}
    (hqueue : t.requestSource = s.requestSource)
    (hchannels : t.channels = (s.drain (some error)).channels) :
    ∀ call ∈ s.lost t, t.endError call = some error := by
  intro call hcall
  obtain ⟨hs, ht⟩ := mem_lost.mp hcall
  rcases sinkExists_iff.mp hs with hqueued | ⟨-, e, he, rfl⟩
  · rw [sinkExists_iff.mpr (.inl (hqueue ▸ hqueued))] at ht
    cases ht
  · have hchannel : t.channels e.2.call =
        s.channels.send e.2.call (.result (.error error)) e.2.call := by
      rw [hchannels]
      exact Channels.foldl_finish_of_mem (ResponseCollector.closing (some error))
        s.callbacks.entries s.channels hm.entries_nodup e he
    rw [endError, hchannel, Channels.send_self]
    simp only [List.getLast?_concat]

/-- The end of the listener, or of the runtime under it, drops no sink if it is not the last one to
hold the map, or the map is empty. -/
theorem stopListener_keepsSinks {u : State ρ π α} {phase : ListenPhase}
    (hqueue : u.requestSource = s.requestSource) (hmap : u.callbacks = s.callbacks)
    (hdispatch : u.dispatch = s.dispatch)
    (h : (!s.dispatch.isExited || s.callbacks.entries.isEmpty) = true) :
    s.KeepsSinks (u.stopListener phase) := by
  refine .of_subset (fun r hr _ => hqueue.symm ▸ hr) fun _ => ?_
  rcases Bool.or_eq_true_iff.mp h with hdispatching | hempty
  · refine .inr ⟨?_, fun e he => ?_⟩
    · show (!u.dispatch.isExited || _) = true
      rw [hdispatch, hdispatching]
      rfl
    · show e ∈ u.callbacks.entries
      rw [hmap]
      exact he
  · exact .inl (List.isEmpty_iff.mp hempty)

/-- A listener that has closed the transaction for an error drops sinks only to tell it. -/
theorem listenLoop_lost (hm : s.multiplexer.Sound) (h : s.listenLoop decode = some t)
    {error : Error} (hlistening : s.listener ≠ .listening)
    (hdrains : ∀ e, s.listener = .errorRecorded e → e = some error)
    (hends : s.listenerEnds = true →
      (!s.dispatch.isExited || s.callbacks.entries.isEmpty) = true) :
    ∀ call ∈ s.lost t, t.endError call = some error := by
  have hkeeps : s.KeepsSinks t → ∀ call ∈ s.lost t, t.endError call = some error := by
    intro hkeeps call hcall
    rw [hkeeps.lost] at hcall
    cases hcall
  unfold listenLoop at h
  split at h
  next hphase => exact absurd hphase hlistening
  next e hphase =>
    obtain rfl := Option.some.inj h
    exact hkeeps (.of_subset (fun r hr _ => hr) fun _ => .inr ⟨Bool.or_true _, fun e he => he⟩)
  next e hphase =>
    obtain rfl := Option.some.inj h
    exact hkeeps (.of_subset (fun r hr _ => hr) fun _ => .inr ⟨Bool.or_true _, fun e he => he⟩)
  next e hphase =>
    obtain rfl := Option.some.inj h
    obtain rfl := hdrains e hphase
    exact lost_drain hm rfl rfl
  next e hphase =>
    obtain rfl := Option.some.inj h
    exact hkeeps (.of_subset (fun r hr _ => hr) fun _ => .inr ⟨Bool.or_true _, fun e he => he⟩)
  next e rest hphase =>
    split at h
    · cases h
    next registration rest' hqueue =>
      split_ifs at h with halive
      · obtain rfl := Option.some.inj h
        exact hkeeps
          (.of_subset (fun r hr _ => hr) fun _ => .inr ⟨Bool.or_true _, fun e he => he⟩)
      · obtain rfl := Option.some.inj h
        exact hkeeps (stopListener_keepsSinks rfl rfl rfl
          (hends (by simp [listenerEnds, hphase, hqueue, halive])))
    next hqueue =>
      obtain rfl := Option.some.inj h
      exact hkeeps (stopListener_keepsSinks rfl rfl rfl
        (hends (by simp [listenerEnds, hphase, hqueue])))
  next => cases h

end TypeDBDriver.Transaction.State
