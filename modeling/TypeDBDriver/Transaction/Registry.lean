import TypeDBDriver.Transaction.Multiplexer
import Mathlib.Data.List.Perm.Subperm

/-!
# Calls, request ids and callbacks

* `Multiplexer.calls`: the calls whose sinks exist or existed; `calls_effect`: no step makes a
  second sink for one.
* `Multiplexer.Sound`: calls and request ids are told apart, and every callback is a registered one;
  **`Multiplexer.Sound.effect`**, `sound_of_reaches`.
* `Sound.eq_of_call`, `Sound.lookup_iff`: what a callback found under an id is.
-/

namespace TypeDBDriver.Transaction

open Transition (System)

variable {ρ π α : Type} {decode : π → Decode Error α} {encodedLen : Req ρ → ℕ}

/-- The sink that `TransactionStream` makes for a request. -/
def ReqBody.sink (call : ℕ) : ReqBody ρ → ResponseSink
  | commitReq | rollbackReq => .oneShot call
  | _ => .streamed call

@[simp] theorem TransactionRequest.sink_call (request : TransactionRequest ρ) (call : ℕ) :
    (request.sink call).call = call := by
  cases request <;> rfl

theorem TransactionRequest.intoProto_sink (request : TransactionRequest ρ) (generated : RequestID)
    (call : ℕ) : (request.intoProto generated).req.sink call = request.sink call := by
  cases request <;> rfl

theorem TransactionRequest.intoProto_ne_streamReq {request : TransactionRequest ρ}
    (h : ∀ requestId, request ≠ .stream requestId) (generated : RequestID) :
    (request.intoProto generated).req ≠ .streamReq := by
  cases request with
  | stream requestId => exact absurd rfl (h requestId)
  | _ => exact nofun

/-! ## What is sent over a channel -/

namespace Channels

variable (channels : Channels α)

@[simp] theorem send_self (call : ℕ) (response : StreamResponse α) :
    channels.send call response call =
      { channels call with sent := (channels call).sent ++ [response] } :=
  Function.update_self ..

theorem send_of_ne {call call' : ℕ} (h : call' ≠ call) (response : StreamResponse α) :
    channels.send call response call' = channels call' :=
  Function.update_of_ne h ..

/-- A step of a reader sends nothing. -/
theorem sent_update {call : ℕ} {channel : Channel α} (h : channel.sent = (channels call).sent)
    (call' : ℕ) : (Function.update channels call channel call').sent = (channels call').sent := by
  by_cases hc : call' = call
  · rw [hc, Function.update_self, h]
  · rw [Function.update_of_ne hc]

theorem foldl_finish_of_ne (response : Result (TransactionResponse α)) {call : ℕ} :
    ∀ (entries : List (Sigma fun _ : RequestID => ResponseSink)) (channels : Channels α),
      (∀ e ∈ entries, e.2.call ≠ call) →
      entries.foldl (fun channels e => e.2.finish response channels) channels call =
        channels call
  | [], _, _ => rfl
  | e :: entries, channels, h => by
    rw [List.foldl_cons, foldl_finish_of_ne response entries _ fun e' he' =>
      h e' (List.mem_cons_of_mem _ he')]
    exact channels.send_of_ne (h e (List.mem_cons_self ..)).symm _

/-- Every callback is ended once. -/
theorem foldl_finish_of_mem (response : Result (TransactionResponse α)) :
    ∀ (entries : List (Sigma fun _ : RequestID => ResponseSink)) (channels : Channels α),
      (entries.map fun e => e.2.call).Nodup → ∀ e ∈ entries,
      entries.foldl (fun channels e => e.2.finish response channels) channels e.2.call =
        channels.send e.2.call (.result response) e.2.call
  | e :: entries, channels, hnodup, e', he' => by
    obtain ⟨hnotMem, hnodup⟩ := List.nodup_cons.mp hnodup
    have hne : ∀ e'' ∈ entries, e''.2.call ≠ e.2.call := fun e'' he'' hcall =>
      hnotMem (List.mem_map.mpr ⟨e'', he'', hcall⟩)
    rw [List.foldl_cons]
    obtain rfl | he' := List.mem_cons.mp he'
    · rw [foldl_finish_of_ne response entries _ hne]
      rfl
    · rw [foldl_finish_of_mem response entries _ hnodup e' he', send_self, send_self,
        ResponseSink.finish, channels.send_of_ne (hne e' he')]

end Channels

namespace Multiplexer

/-! ## One sink for a call -/

/-- The call of a queued request's sink. -/
def queuedCall (r : TransactionRequest ρ × Option ResponseSink) : Option ℕ :=
  r.2.map ResponseSink.call

/-- The calls that have a sink, had one, or may get one. -/
def calls (m : Multiplexer ρ π α) : List ℕ :=
  m.admitted.map Prod.fst ++ m.requestSource.filterMap queuedCall ++
    m.registered.map fun r => r.2.call

/-- A reply changes callbacks, channels and the stage only. -/
theorem deliver_frame (m : Multiplexer ρ π α) (requestId : RequestID) (reply : Reply α) :
    ∃ callbacks channels stage,
      m.deliver requestId reply = { m with callbacks, channels, stage } := by
  have h := m.deliver_delivery requestId reply
  generalize m.deliver requestId reply = m' at h ⊢
  cases h <;> exact ⟨_, _, _, rfl⟩

theorem collect_frame (decode : π → Decode Error α) (m : Multiplexer ρ π α) (message : Message π) :
    ∃ callbacks channels stage,
      m.collect decode message = { m with callbacks, channels, stage } := by
  cases message with
  | none => exact ⟨_, _, _, rfl⟩
  | some body => exact m.deliver_frame _ _

/-- A message closes nothing. -/
theorem collect_stage (decode : π → Decode Error α) (m : Multiplexer ρ π α) (message : Message π) :
    (m.collect decode message).stage = m.stage ∨ (m.collect decode message).stage = .blocked ∨
      (m.collect decode message).stage = .gone := by
  cases message with
  | none => exact .inl rfl
  | some body =>
    have h := m.collect_delivery decode body
    generalize m.collect decode (some body) = m' at h ⊢
    generalize body.reply decode = reply at h
    cases h with
    | blocked => exact .inr (.inl rfl)
    | died | panicked => exact .inr (.inr rfl)
    | _ => exact .inl rfl

/-- A message leaves a channel as it is, or its reply is sent there. -/
theorem channel_collect (decode : π → Decode Error α) (m : Multiplexer ρ π α) (body : ServerBody π)
    (call : ℕ) :
    (m.collect decode (some body)).channels call = m.channels call ∨
      ∃ response streamed last, body.reply decode = .send response streamed last ∧
        (m.collect decode (some body)).channels call =
          { m.channels call with sent := (m.channels call).sent ++ [response] } := by
  have hd := m.collect_delivery decode body
  generalize m.collect decode (some body) = m' at hd ⊢
  generalize body.reply decode = reply at hd ⊢
  cases hd with
  | sent sink response streamed last =>
    by_cases hcall : call = sink.call
    · subst hcall
      exact .inr ⟨response, streamed, last, rfl, m.channels.send_self _ _⟩
    · exact .inl (m.channels.send_of_ne hcall response)
  | _ => exact .inl rfl

theorem calls_effect {label : Label π} {m m' : Multiplexer ρ π α}
    (h : Effect decode label m m') :
    List.Subperm m'.calls m.calls ∧ m'.nextCall = m.nextCall ∨
      List.Subperm m'.calls (m.nextCall :: m.calls) ∧ m'.nextCall = m.nextCall + 1 := by
  cases h with
  | accept _ request h =>
    refine .inr ⟨List.Perm.subperm ?_, rfl⟩
    simp only [calls, List.map_append, List.append_assoc]
    exact List.perm_middle
  | refuse => exact .inr ⟨(List.sublist_cons_self _ _).subperm, rfl⟩
  | withdraw _ index =>
    refine .inl ⟨List.Sublist.subperm ?_, rfl⟩
    exact (((List.eraseIdx_sublist _ _).map _).append_right _).append_right _
  | submit _ index call request h =>
    obtain ⟨hlt, hget⟩ := List.getElem?_eq_some_iff.mp h
    have hperm := (List.getElem_cons_eraseIdx_perm hlt).map Prod.fst
    rw [hget, List.map_cons] at hperm
    have hsource : (m.requestSource ++ [(request, some (request.sink call))]).filterMap queuedCall =
        m.requestSource.filterMap queuedCall ++ [call] := by
      simp [List.filterMap_append, queuedCall]
    refine .inl ⟨List.Perm.subperm ?_, rfl⟩
    simp only [calls, hsource]
    refine List.Perm.append_right _ (List.Perm.trans ?_ (hperm.append_right _))
    rw [← List.append_assoc]
    exact List.perm_append_singleton _ _
  | dequeue _ request rest generated h =>
    refine .inl ⟨List.Perm.subperm (List.Perm.of_eq ?_), rfl⟩
    simp only [calls, h]
    rfl
  | register _ request sink rest generated h hfresh =>
    refine .inl ⟨List.Perm.subperm ?_, rfl⟩
    have hsource : m.requestSource.filterMap queuedCall =
        sink.call :: rest.filterMap queuedCall := by
      rw [h]
      rfl
    simp only [calls, hsource, List.map_append, List.append_assoc]
    refine List.Perm.append_left _ ?_
    rw [← List.append_assoc]
    exact List.perm_append_singleton _ _
  | exit =>
    refine .inl ⟨List.Sublist.subperm ?_, rfl⟩
    exact ((List.nil_sublist _).append_left _).append_right _
  | askMore _ call requestId hend h =>
    refine .inl ⟨List.Perm.subperm (List.Perm.of_eq ?_), rfl⟩
    simp [calls, queuedCall, List.filterMap_append]
  | handle _ message rest h hstage =>
    obtain ⟨callbacks, channels, stage, hcollect⟩ := collect_frame decode
      { m with inFlight := rest, collected := m.collected ++ [message] } message
    rw [hcollect]
    exact .inl ⟨List.Subperm.refl _, rfl⟩
  | _ => exact .inl ⟨List.Subperm.refl _, rfl⟩

/-! ## What is registered -/

structure Sound (m : Multiplexer ρ π α) : Prop where
  calls_nodup : m.calls.Nodup
  calls_lt : ∀ call ∈ m.calls, call < m.nextCall
  admitted : ∀ r ∈ m.admitted, ∀ requestId, r.2 ≠ .stream requestId
  /-- only requests that continue a stream are queued without a sink -/
  continuing : ∀ request, (request, none) ∈ m.requestSource →
    ∃ requestId, request = .stream requestId
  queued : ∀ request sink, (request, some sink) ∈ m.requestSource →
    (∀ requestId, request ≠ .stream requestId) ∧ sink = request.sink sink.call
  registered : ∀ r ∈ m.registered, r.1.req ≠ .streamReq ∧ r.2 = r.1.req.sink r.2.call
  ids_nodup : m.requestIds.Nodup
  callbacks : ∀ requestId, ∀ sink ∈ m.callbacks.lookup requestId,
    ∃ r ∈ m.registered, r.1.reqId = requestId ∧ r.2 = sink
  /-- nothing is sent to a call whose request is not registered -/
  quiet : ∀ call, (∀ r ∈ m.registered, r.2.call ≠ call) → (m.channels call).sent = []

namespace Sound

variable {m m' : Multiplexer ρ π α}

theorem eq_of_call (hm : m.Sound) {r r' : Req ρ × ResponseSink} (hr : r ∈ m.registered)
    (hr' : r' ∈ m.registered) (h : r.2.call = r'.2.call) : r = r' := by
  have hnodup : (m.registered.map fun r => r.2.call).Nodup :=
    hm.calls_nodup.sublist (List.sublist_append_right _ _)
  exact List.inj_on_of_nodup_map hnodup hr hr' h

theorem eq_of_id (hm : m.Sound) {r r' : Req ρ × ResponseSink} (hr : r ∈ m.registered)
    (hr' : r' ∈ m.registered) (h : r.1.reqId = r'.1.reqId) : r = r' :=
  List.inj_on_of_nodup_map hm.ids_nodup hr hr' h

/-- What is found under a registered id is the sink that was registered. -/
theorem eq_of_lookup (hm : m.Sound) {r : Req ρ × ResponseSink} (hr : r ∈ m.registered)
    {sink : ResponseSink} (h : m.callbacks.lookup r.1.reqId = some sink) : sink = r.2 := by
  obtain ⟨r', hr', hid, rfl⟩ := hm.callbacks _ _ h
  rw [hm.eq_of_id hr' hr hid]

/-- The sinks under different ids lead to different calls. -/
theorem call_ne (hm : m.Sound) {r : Req ρ × ResponseSink} (hr : r ∈ m.registered)
    {requestId : RequestID} {sink : ResponseSink} (h : m.callbacks.lookup requestId = some sink)
    (hne : requestId ≠ r.1.reqId) : r.2.call ≠ sink.call := by
  obtain ⟨r', hr', hid, rfl⟩ := hm.callbacks _ _ h
  intro hcall
  exact hne (by rw [← hid, hm.eq_of_call hr hr' hcall])

theorem calls_effect (hm : m.Sound) {label : Label π} (h : Effect decode label m m') :
    m'.calls.Nodup ∧ ∀ call ∈ m'.calls, call < m'.nextCall := by
  obtain ⟨hsub, hnext⟩ | ⟨hsub, hnext⟩ := Multiplexer.calls_effect h
  · obtain ⟨l, hperm, hl⟩ := hsub
    refine ⟨hperm.nodup_iff.mp (hm.calls_nodup.sublist hl), fun call hcall => ?_⟩
    rw [hnext]
    exact hm.calls_lt _ (hl.subset (hperm.mem_iff.mpr hcall))
  · have hnodup : (m.nextCall :: m.calls).Nodup :=
      List.nodup_cons.mpr ⟨fun hn => lt_irrefl _ (hm.calls_lt _ hn), hm.calls_nodup⟩
    obtain ⟨l, hperm, hl⟩ := hsub
    refine ⟨hperm.nodup_iff.mp (hnodup.sublist hl), fun call hcall => ?_⟩
    rw [hnext]
    obtain rfl | hmem := List.mem_cons.mp (hl.subset (hperm.mem_iff.mpr hcall))
    · exact Nat.lt_succ_self _
    · exact Nat.lt_succ_of_lt (hm.calls_lt _ hmem)

theorem deliver (hm : m.Sound) (requestId : RequestID) (reply : Reply α) :
    (m.deliver requestId reply).Sound := by
  have h := m.deliver_delivery requestId reply
  have hc : (m.deliver requestId reply).calls = m.calls := by
    obtain ⟨callbacks, channels, stage, hdeliver⟩ := m.deliver_frame requestId reply
    rw [hdeliver]
    rfl
  generalize m.deliver requestId reply = m' at h ⊢
  have herase : ∀ id, ∀ sink ∈ (m.callbacks.erase requestId).lookup id,
      ∃ r ∈ m.registered, r.1.reqId = id ∧ r.2 = sink := by
    intro id sink hsink
    by_cases hid : id = requestId
    · rw [hid, AList.lookup_erase] at hsink
      cases hsink
    · rw [AList.lookup_erase_ne hid] at hsink
      exact hm.callbacks id sink hsink
  cases h with
  | removed => exact { hm with callbacks := herase }
  | unknown | blocked | died | panicked => exact { hm with }
  | sent sink response streamed last h hs =>
    obtain ⟨r, hr, -, rfl⟩ := hm.callbacks _ _ h
    refine { hm with callbacks := ?_, quiet := fun call hcall => ?_ }
    · cases last with
      | true => exact herase
      | false => exact hm.callbacks
    · show (m.channels.send r.2.call response call).sent = []
      rw [m.channels.send_of_ne (hcall r hr).symm]
      exact hm.quiet call hcall

theorem collect (hm : m.Sound) (message : Message π) : (m.collect decode message).Sound := by
  cases message with
  | none => exact hm
  | some body => exact hm.deliver _ _

/-- The callbacks in the map lead to different calls. -/
theorem entries_nodup (hm : m.Sound) : (m.callbacks.entries.map fun e => e.2.call).Nodup := by
  have hentries : m.callbacks.entries.Nodup := m.callbacks.nodupKeys.nodup
  refine List.Nodup.map_on (fun e he e' he' hcall => ?_) hentries
  obtain ⟨r, hr, hid, hsink⟩ := hm.callbacks e.1 e.2 (AList.mem_lookup_iff.mpr he)
  obtain ⟨r', hr', hid', hsink'⟩ := hm.callbacks e'.1 e'.2 (AList.mem_lookup_iff.mpr he')
  have : r = r' := hm.eq_of_call hr hr' (by rw [hsink, hsink', hcall])
  subst this
  exact Sigma.ext (hid.symm.trans hid') (heq_of_eq (hsink.symm.trans hsink'))

/-- What the end of all callbacks sends to a registered request. -/
theorem drain_channel (hm : m.Sound) (error : Option Error) {r : Req ρ × ResponseSink}
    (hr : r ∈ m.registered) :
    (m.drain error).channels r.2.call =
      if m.callbacks.lookup r.1.reqId = some r.2 then
        m.channels.send r.2.call (.result (ResponseCollector.closing error)) r.2.call
      else m.channels r.2.call := by
  split_ifs with h
  · exact Channels.foldl_finish_of_mem _ _ _ hm.entries_nodup ⟨_, _⟩ (AList.mem_lookup_iff.mp h)
  · refine Channels.foldl_finish_of_ne _ _ _ fun e he hcall => h ?_
    have hlookup := AList.mem_lookup_iff.mpr he
    obtain ⟨r', hr', hid, hsink⟩ := hm.callbacks e.1 e.2 hlookup
    rw [hm.eq_of_call hr hr' (by rw [hsink, hcall]), hid, hsink]
    exact hlookup

theorem drain_channel_of_ne (hm : m.Sound) (error : Option Error) {call : ℕ}
    (hcall : ∀ r ∈ m.registered, r.2.call ≠ call) :
    (m.drain error).channels call = m.channels call := by
  refine Channels.foldl_finish_of_ne _ _ _ fun e he => ?_
  obtain ⟨r, hr, -, hsink⟩ := hm.callbacks e.1 e.2 (AList.mem_lookup_iff.mpr he)
  rw [← hsink]
  exact hcall r hr

theorem drain (hm : m.Sound) (error : Option Error) : (m.drain error).Sound := by
  refine { hm with callbacks := fun id sink hsink => ?_, quiet := fun call hcall => ?_ }
  · cases hsink
  · exact (congrArg Channel.sent (hm.drain_channel_of_ne error hcall)).trans (hm.quiet call hcall)

theorem quiet_update (hm : m.Sound) {call : ℕ} {channel : Channel α}
    (h : channel.sent = (m.channels call).sent) (call' : ℕ)
    (hcall : ∀ r ∈ m.registered, r.2.call ≠ call') :
    (Function.update m.channels call channel call').sent = [] :=
  (m.channels.sent_update h call').trans (hm.quiet call' hcall)

theorem read (hm : m.Sound) {call : ℕ} {channel : Channel α}
    (h : channel.sent = (m.channels call).sent) : (m.setChannel call channel).Sound :=
  { hm with quiet := fun call' hcall => hm.quiet_update h call' hcall }

theorem submit (decode : π → Decode Error α) (hm : m.Sound) {index call : ℕ}
    {request : TransactionRequest ρ} (h : m.admitted[index]? = some (call, request)) :
    Sound { m with
      admitted := m.admitted.eraseIdx index
      requestSource := m.requestSource ++ [(request, some (request.sink call))]
      channels := Function.update m.channels call
        { m.channels call with sink := some (request.sink call) } } := by
  have he : Effect decode .other m _ := .submit m index call request h
  obtain ⟨hnodup, hlt⟩ := hm.calls_effect he
  refine {
    hm with
    calls_nodup := hnodup
    calls_lt := hlt
    admitted := fun r hr => hm.admitted r (List.mem_of_mem_eraseIdx hr)
    continuing := fun request' hr => ?_
    queued := fun request' sink hr => ?_
    quiet := fun call' hcall => hm.quiet_update (by rfl) call' hcall }
  · obtain hr | hr := List.mem_append.mp hr
    · exact hm.continuing request' hr
    · cases List.mem_singleton.mp hr
  · obtain hr | hr := List.mem_append.mp hr
    · exact hm.queued request' sink hr
    · cases List.mem_singleton.mp hr
      exact ⟨hm.admitted _ (List.mem_of_getElem? h), by rw [TransactionRequest.sink_call]⟩

theorem register (decode : π → Decode Error α) (hm : m.Sound) {request : TransactionRequest ρ}
    {sink : ResponseSink} {rest : List (TransactionRequest ρ × Option ResponseSink)}
    {generated : RequestID} (h : m.requestSource = (request, some sink) :: rest)
    (hfresh : (request.intoProto generated).reqId ∉ m.requestIds) :
    Sound { m with
      requestSource := rest
      dispatched := m.dispatched ++ [request.intoProto generated]
      callbacks := m.callbacks.insert (request.intoProto generated).reqId sink
      registered := m.registered ++ [(request.intoProto generated, sink)] } := by
  have he : Effect decode .other m _ := .register m request sink rest generated h hfresh
  obtain ⟨hnodup, hlt⟩ := hm.calls_effect he
  have hrest : ∀ r ∈ rest, r ∈ m.requestSource := fun r hr => h ▸ List.mem_cons_of_mem _ hr
  obtain ⟨hns, hsink⟩ := hm.queued request sink (h ▸ List.mem_cons_self ..)
  refine {
    hm with
    calls_nodup := hnodup
    calls_lt := hlt
    continuing := fun request' hr => hm.continuing request' (hrest _ hr)
    queued := fun request' sink' hr => hm.queued request' sink' (hrest _ hr)
    registered := fun r hr => ?_
    ids_nodup := ?_
    callbacks := fun id sink' hsink' => ?_
    quiet := fun call hcall => hm.quiet call fun r hr => hcall r (List.mem_append_left _ hr) }
  · obtain hr | hr := List.mem_append.mp hr
    · exact hm.registered r hr
    · rw [List.mem_singleton.mp hr]
      refine ⟨TransactionRequest.intoProto_ne_streamReq hns generated, ?_⟩
      rw [TransactionRequest.intoProto_sink]
      exact hsink
  · show (List.map _ (m.registered ++ [(request.intoProto generated, sink)])).Nodup
    rw [List.map_append, List.nodup_append]
    refine ⟨hm.ids_nodup, List.nodup_singleton _, fun id hid id' hid' heq => hfresh ?_⟩
    have hid' : id' = (request.intoProto generated).reqId := List.mem_singleton.mp hid'
    rw [← hid', ← heq]
    exact hid
  · by_cases hid : id = (request.intoProto generated).reqId
    · rw [hid, AList.lookup_insert] at hsink'
      obtain rfl := Option.some.inj hsink'
      exact ⟨_, List.mem_append_right _ (List.mem_singleton_self _), hid.symm, rfl⟩
    · rw [AList.lookup_insert_ne hid] at hsink'
      obtain ⟨r, hr, hreq⟩ := hm.callbacks id sink' hsink'
      exact ⟨r, List.mem_append_left _ hr, hreq⟩

/-- Nothing was sent to a call whose request is only now registered. -/
theorem quiet_of_register (decode : π → Decode Error α) (hm : m.Sound) {request : TransactionRequest ρ}
    {sink : ResponseSink} {rest : List (TransactionRequest ρ × Option ResponseSink)}
    {generated : RequestID} (h : m.requestSource = (request, some sink) :: rest)
    (hfresh : (request.intoProto generated).reqId ∉ m.requestIds) :
    (m.channels sink.call).sent = [] := by
  refine hm.quiet sink.call fun r hr hcall => ?_
  have hnodup := (hm.register decode h hfresh).calls_nodup.sublist (List.sublist_append_right _ _)
  rw [List.map_append, List.nodup_append] at hnodup
  exact hnodup.2.2 r.2.call (List.mem_map_of_mem hr) sink.call (List.mem_singleton_self _) hcall

/-- **Every step keeps what is known of calls, request ids and callbacks.** -/
theorem effect (hm : m.Sound) {label : Label π} (h : Effect decode label m m') : m'.Sound := by
  obtain ⟨hnodup, hlt⟩ := hm.calls_effect h
  cases h with
  | skip | send | close | stop | panic => exact { hm with }
  | refuse => exact { hm with calls_lt := hlt }
  | accept _ request hns =>
    refine { hm with calls_nodup := hnodup, calls_lt := hlt, admitted := fun r hr => ?_ }
    obtain hr | hr := List.mem_append.mp hr
    · exact hm.admitted r hr
    · rw [List.mem_singleton.mp hr]
      exact hns
  | withdraw =>
    exact {
      hm with
      calls_nodup := hnodup
      calls_lt := hlt
      admitted := fun r hr => hm.admitted r (List.mem_of_mem_eraseIdx hr) }
  | submit _ index call request h => exact hm.submit decode h
  | take | askMoreFailed => exact hm.read rfl
  | atEnd _ call =>
    refine hm.read ?_
    unfold Channel.atEnd
    split <;> rfl
  | askMore _ call requestId =>
    refine {
      hm with
      calls_nodup := hnodup
      calls_lt := hlt
      continuing := fun request hr => ?_
      queued := fun request sink hr => ?_
      quiet := fun call' hcall => hm.quiet_update (by rfl) call' hcall }
    · obtain hr | hr := List.mem_append.mp hr
      · exact hm.continuing request hr
      · cases List.mem_singleton.mp hr
        exact ⟨_, rfl⟩
    · obtain hr | hr := List.mem_append.mp hr
      · exact hm.queued request sink hr
      · cases List.mem_singleton.mp hr
  | dequeue _ request rest generated h =>
    have hrest : ∀ r ∈ rest, r ∈ m.requestSource := fun r hr => h ▸ List.mem_cons_of_mem _ hr
    exact {
      hm with
      calls_nodup := hnodup
      calls_lt := hlt
      continuing := fun request' hr => hm.continuing request' (hrest _ hr)
      queued := fun request' sink hr => hm.queued request' sink (hrest _ hr) }
  | register _ request sink rest generated h hfresh => exact hm.register decode h hfresh
  | exit =>
    exact { hm with calls_nodup := hnodup, calls_lt := hlt, continuing := nofun, queued := nofun }
  | handle _ message rest =>
    have hm' : Sound { m with inFlight := rest, collected := m.collected ++ [message] } :=
      { hm with }
    exact hm'.collect message
  | drain _ error => exact hm.drain error

end Sound

end Multiplexer

theorem sound_initial : (initial : State ρ π α).multiplexer.Sound where
  calls_nodup := List.nodup_nil
  calls_lt := nofun
  admitted := nofun
  continuing := nofun
  queued := nofun
  registered := nofun
  ids_nodup := List.nodup_nil
  callbacks := nofun
  quiet _ _ := rfl

theorem sound_of_reaches {C : State ρ π α → Action ρ π → Prop} {s : State ρ π α}
    (hs : (transaction decode encodedLen).Reaches C s) : s.multiplexer.Sound := by
  refine Transition.Reaches.invariant (fun s => s.multiplexer.Sound) ?_ ?_ hs
  · rintro s rfl
    exact sound_initial
  · exact fun s a t hm _ ht => hm.effect (step_effect ht)

end TypeDBDriver.Transaction
