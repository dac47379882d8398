import TypeDBDriver.Transaction.Multiplexing

/-!
# Truncated answers

An answer stream that ends without an error item should have been ended by the server's `Done`.

* `answering`: a query has got an answer stream, and no error item so far.
* `State.NotTruncated`: an answer stream that has ended so was ended by `Done`.
* `State.Keeps`: a step that drops no sink of such a stream without a word.
* `Multiplexer.Accounted`: the invariant; **`Accounted.effect`**.
* **`notTruncated_of_reaches`**: in runs of such steps no answer is truncated.
* `not_forall_notTruncated`: a response part without a state truncates an answer.
-/

namespace TypeDBDriver.Transaction

open Transition (System)

variable {ρ π α : Type} {decode : π → Decode Error α} {encodedLen : Req ρ → ℕ}

/-! ## Answer streams -/

section Answering

variable [DebugText (TransactionResponse α)] [DebugText (QueryResponse α)]

/-- The answer is a stream of rows or documents without an error item. -/
def isCleanStream : Option (Result (QueryAnswer α)) → Bool
  | some (.ok (.conceptRowStream _ answers)) => answers.all Except.isOk
  | some (.ok (.conceptDocumentStream _ answers)) => answers.all Except.isOk
  | _ => false

/-- A query whose stream has yielded `responses` has got an answer stream without an error item. -/
def answering (responses : List (Result (TransactionResponse α))) : Bool :=
  isCleanStream (query responses true)

/-- A response that any stream turns into an error. -/
def isFailure : Result (TransactionResponse α) → Bool
  | .ok (.query (.error _)) => true
  | .ok (.query _) => false
  | _ => true

omit [DebugText (QueryResponse α)] in
theorem requireQuery_of_isFailure {response : Result (TransactionResponse α)}
    (h : isFailure response = true) : (∃ err, requireQuery response = .error err) ∨
      ∃ error, requireQuery response = .ok (.error error) := by
  rcases response with err | _ | _ | _ | ⟨_ | _ | _ | _ | _ | error⟩ | _ | _
  case ok.query.error => exact .inr ⟨error, rfl⟩
  case ok.query.ok | ok.query.conceptRowsHeader | ok.query.conceptDocumentsHeader |
    ok.query.streamConceptRows | ok.query.streamConceptDocuments => cases h
  all_goals exact .inl ⟨_, rfl⟩

omit [DebugText (QueryResponse α)] in
/-- One failure among the responses of a stream is an error item. -/
theorem flatMap_not_all_isOk {answers : Result (QueryResponse α) → List (Result (α × α))}
    (herr : ∀ err, answers (.error err) = [.error err])
    (herror : ∀ error, answers (.ok (.error error)) = [.error (.server error)])
    {responses : List (Result (TransactionResponse α))} {response : Result (TransactionResponse α)}
    (hmem : response ∈ responses) (hf : isFailure response = true) :
    ((responses.map requireQuery).flatMap answers).all Except.isOk = false := by
  rw [List.all_eq_false]
  have hmap := List.mem_map_of_mem (f := requireQuery) hmem
  obtain ⟨err, hreq⟩ | ⟨error, hreq⟩ := requireQuery_of_isFailure hf
  · refine ⟨.error err, List.mem_flatMap.mpr ⟨_, hmap, ?_⟩, nofun⟩
    rw [hreq, herr]
    exact List.mem_singleton_self _
  · refine ⟨.error (.server error), List.mem_flatMap.mpr ⟨_, hmap, ?_⟩, nofun⟩
    rw [hreq, herror]
    exact List.mem_singleton_self _

theorem answering_of_isFailure {responses : List (Result (TransactionResponse α))}
    {response : Result (TransactionResponse α)} (hmem : response ∈ responses)
    (hf : isFailure response = true) : answering responses = false := by
  cases responses with
  | nil => cases hmem
  | cons head rest =>
    unfold answering query
    rw [List.map_cons]
    rcases hhead : requireQuery head with err | _ | header | header | _ | _ | error
    case ok.conceptRowsHeader | ok.conceptDocumentsHeader =>
      obtain rfl | hmem := List.mem_cons.mp hmem
      · obtain ⟨err, hreq⟩ | ⟨error, hreq⟩ := requireQuery_of_isFailure hf
        · rw [hreq] at hhead
          cases hhead
        · rw [hreq] at hhead
          cases hhead
      · exact flatMap_not_all_isOk (fun _ => rfl) (fun _ => rfl) hmem hf
    all_goals rfl

omit [DebugText (TransactionResponse α)] [DebugText (QueryResponse α)] in
theorem isFailure_closing (error : Option Error) :
    isFailure (ResponseCollector.closing error : Result (TransactionResponse α)) = true := by
  cases error <;> rfl

end Answering

/-- The results among what was sent over a channel. -/
def results (sent : List (StreamResponse α)) : List (Result (TransactionResponse α)) :=
  sent.filterMap StreamResponse.result?

theorem mem_results {sent : List (StreamResponse α)} {response : Result (TransactionResponse α)}
    (h : .result response ∈ sent) : response ∈ results sent :=
  List.mem_filterMap.mpr ⟨_, h, rfl⟩

/-! ## What a reader has -/

/-- The reader of a channel has what it took, or an error. -/
def Channel.ReadOk (channel : Channel α) : Prop :=
  channel.taken ≤ channel.sent.length ∧
    (channel.yielded = results (channel.sent.take channel.taken) ∨
      ∃ err, .error err ∈ channel.yielded)

namespace Channel.ReadOk

variable {channel : Channel α}

theorem results_take_succ {sent : List (StreamResponse α)} {taken : ℕ} {response : StreamResponse α}
    (h : sent[taken]? = some response) :
    results (sent.take (taken + 1)) = results (sent.take taken) ++ response.result?.toList := by
  rw [List.take_add_one, h, results, List.filterMap_append, results]
  cases response <;> rfl

theorem send (h : channel.ReadOk) (response : StreamResponse α) :
    ReadOk { channel with sent := channel.sent ++ [response] } := by
  refine ⟨?_, ?_⟩
  · show channel.taken ≤ (channel.sent ++ [response]).length
    rw [List.length_append]
    exact Nat.le_add_right_of_le h.1
  · show channel.yielded = results ((channel.sent ++ [response]).take channel.taken) ∨ _
    rw [List.take_append_of_le_length h.1]
    exact h.2

/-- The reader takes a response, and yields its result if it is one. -/
theorem take (h : channel.ReadOk) {response : StreamResponse α}
    (hnext : channel.sent[channel.taken]? = some response) :
    ReadOk { channel with
      taken := channel.taken + 1, yielded := channel.yielded ++ response.result?.toList } := by
  obtain ⟨hlt, -⟩ := List.getElem?_eq_some_iff.mp hnext
  refine ⟨hlt, ?_⟩
  obtain h | ⟨err, herr⟩ := h.2
  · exact .inl (by rw [results_take_succ hnext, h])
  · exact .inr ⟨err, List.mem_append_left _ herr⟩

/-- The reader takes a response and yields an error. -/
theorem fail {response : StreamResponse α}
    (hnext : channel.sent[channel.taken]? = some response) (err : Error) :
    ReadOk { channel with
      taken := channel.taken + 1, yielded := channel.yielded ++ [.error err] } :=
  ⟨(List.getElem?_eq_some_iff.mp hnext).1,
    .inr ⟨err, List.mem_append_right _ (List.mem_singleton_self _)⟩⟩

theorem atEnd (h : channel.ReadOk) : channel.atEnd.ReadOk := by
  unfold Channel.atEnd
  split
  · exact ⟨h.1, .inr ⟨_, List.mem_append_right _ (List.mem_singleton_self _)⟩⟩
  · exact h

section

variable [DebugText (TransactionResponse α)] [DebugText (QueryResponse α)]

/-- What the reader has without an error is what was sent. -/
theorem yielded_eq (h : channel.ReadOk) (ha : answering channel.yielded = true) :
    channel.yielded = results (channel.sent.take channel.taken) := by
  obtain h | ⟨err, herr⟩ := h.2
  · exact h
  · rw [answering_of_isFailure herr rfl] at ha
    cases ha

theorem answering_sent (h : channel.ReadOk) (ha : answering channel.yielded = true)
    (hnext : channel.sent[channel.taken]? = none) : answering (results channel.sent) = true := by
  rw [h.yielded_eq ha, List.take_of_length_le (List.getElem?_eq_none_iff.mp hnext)] at ha
  exact ha

end

end Channel.ReadOk

/-! ## Steps that drop no answer stream -/

/-- A response part without a body, or with a stream signal without a state. -/
def ServerBody.isIncomplete : ServerBody π → Bool
  | .resPart ⟨_, none⟩ => true
  | .resPart ⟨_, some (.streamRes none)⟩ => true
  | _ => false

def Reply.isStreamed : Reply α → Bool
  | .send _ streamed _ => streamed
  | _ => false

/-- `Done` for a request -/
def doneMessage (requestId : RequestID) : Message π :=
  some (.resPart ⟨requestId, some (.streamRes (some .done))⟩)

theorem ServerBody.eq_done_of_remove {body : ServerBody π} (h : body.reply decode = .remove)
    (hi : body.isIncomplete = false) : some body = doneMessage body.reqId := by
  rcases body with r | ⟨requestId, _ | queryRes | _ | _ | _ | error⟩
  case res =>
    simp only [reply] at h
    split at h <;> cases h
  case resPart.some.queryRes =>
    simp only [reply] at h
    split at h <;> cases h
  case resPart.some.streamRes.some.done => rfl
  case resPart.none | resPart.some.streamRes.none => cases hi
  all_goals cases h

/-- The last response to a request, other than `Done`, is an error item for a query. -/
theorem ServerBody.isFailure_of_last {body : ServerBody π} {response : StreamResponse α}
    {streamed : Bool} (h : body.reply decode = .send response streamed true) :
    ∃ result, response = .result result ∧ isFailure result = true := by
  rcases body with r | ⟨requestId, _ | queryRes | _ | _ | _ | error⟩
  case res =>
    simp only [reply] at h
    split at h
    · cases h
    · cases h
      exact ⟨_, rfl, rfl⟩
    · cases h
    next response hquery _ =>
      cases h
      refine ⟨_, rfl, ?_⟩
      cases response with
      | query inner => exact absurd rfl (hquery inner)
      | _ => rfl
  case resPart.some.queryRes =>
    simp only [reply] at h
    split at h <;> cases h
  case resPart.some.streamRes.some.error =>
    cases h
    exact ⟨_, rfl, rfl⟩
  all_goals cases h

/-- A response that is not the last one is streamed. -/
theorem ServerBody.streamed_of_not_last {body : ServerBody π} {response : StreamResponse α}
    {streamed : Bool} (h : body.reply decode = .send response streamed false) :
    streamed = true := by
  rcases body with r | ⟨requestId, _ | queryRes | _ | _ | _ | error⟩
  case res =>
    simp only [reply] at h
    split at h <;> cases h
    rfl
  case resPart.some.queryRes =>
    simp only [reply] at h
    split at h <;> cases h
    rfl
  all_goals
    cases h
  rfl

section Runs

variable [DebugText (TransactionResponse α)] [DebugText (QueryResponse α)]

namespace State

/-- What was sent to a call makes an answer stream without an error item. -/
def sentAnswering (s : State ρ π α) (call : ℕ) : Bool := answering (results (s.channels call).sent)

/-- No callback stands for an answer stream without an error item. -/
def NoneAnswering (s : State ρ π α) : Prop :=
  ∀ requestId call, s.callbacks.lookup requestId = some (.streamed call) →
    s.sentAnswering call = false

/-- A step that drops no answer stream without a word: no incomplete message ends one, no message
for a one-shot request and none that the decoder panics on ends the listener under one, and the
runtime drops no listener under one. -/
def Keeps (decode : π → Decode Error α) (s : State ρ π α) : Action ρ π → Prop
  | .listen => ∀ body, s.nextEvent = some (.message (some body)) →
    (body.isIncomplete = true → ∀ call, s.callbacks.lookup body.reqId = some (.streamed call) →
      s.sentAnswering call = false) ∧
    ((body.reply decode).isStreamed = true →
      ∀ call, s.callbacks.lookup body.reqId = some (.oneShot call) → s.NoneAnswering) ∧
    (body.reply decode = .panics →
      ∀ sink, s.callbacks.lookup body.reqId = some sink → s.NoneAnswering)
  | .shutDownRuntime => s.listener = .listening → s.NoneAnswering
  | _ => True

/-- An answer stream that has ended without an error item was ended by `Done` for its request. -/
def NotTruncated (s : State ρ π α) : Prop :=
  ∀ call, (s.channels call).ended = true → answering (s.channels call).yielded = true →
    ∃ r ∈ s.registered, r.2.call = call ∧ doneMessage r.1.reqId ∈ s.sentByServer

end State

namespace Multiplexer

def NoneAnswering (m : Multiplexer ρ π α) : Prop :=
  ∀ requestId call, m.callbacks.lookup requestId = some (.streamed call) →
    answering (results (m.channels call).sent) = false

/-- `State.Keeps` by the label of the step. -/
def Keeps (decode : π → Decode Error α) (m : Multiplexer ρ π α) : Label π → Prop
  | .handle (some body) =>
    (body.isIncomplete = true → ∀ call, m.callbacks.lookup body.reqId = some (.streamed call) →
      answering (results (m.channels call).sent) = false) ∧
    ((body.reply decode).isStreamed = true →
      ∀ call, m.callbacks.lookup body.reqId = some (.oneShot call) → m.NoneAnswering) ∧
    (body.reply decode = .panics →
      ∀ sink, m.callbacks.lookup body.reqId = some sink → m.NoneAnswering)
  | .stop => m.stage = .listening → m.NoneAnswering
  | _ => True

structure Accounted (m : Multiplexer ρ π α) : Prop where
  flight : ∀ message ∈ m.inFlight, message ∈ m.sentByServer
  /-- a request without a callback was ended by `Done`, or by an error item -/
  settled : ∀ r ∈ m.registered, m.callbacks.lookup r.1.reqId = some r.2 ∨
    doneMessage r.1.reqId ∈ m.sentByServer ∨ answering (results (m.channels r.2.call).sent) = false
  oneShot : ∀ requestId call, m.callbacks.lookup requestId = some (.oneShot call) →
    (m.channels call).sent = []
  past : m.stage.isPast = true → m.NoneAnswering
  read : ∀ call, (m.channels call).ReadOk
  ended : ∀ call, (m.channels call).ended = true → answering (m.channels call).yielded = true →
    ∃ r ∈ m.registered, r.2.call = call ∧ doneMessage r.1.reqId ∈ m.sentByServer

namespace Accounted

variable {m m' : Multiplexer ρ π α}

omit [DebugText (TransactionResponse α)] [DebugText (QueryResponse α)] in
theorem update_apply {channels : Channels α} {p : ℕ → Channel α → Prop} {call : ℕ}
    {channel : Channel α} (hp : ∀ call, p call (channels call)) (hc : p call channel) (call' : ℕ) :
    p call' (Function.update channels call channel call') := by
  by_cases h : call' = call
  · subst h
    rw [Function.update_self]
    exact hc
  · rw [Function.update_of_ne h]
    exact hp call'

/-- A step of a reader. -/
theorem readStep (h : m.Accounted) {call : ℕ} {channel : Channel α}
    (hsent : channel.sent = (m.channels call).sent) (hread : channel.ReadOk)
    (hended : channel.ended = true → answering channel.yielded = true →
      ∃ r ∈ m.registered, r.2.call = call ∧ doneMessage r.1.reqId ∈ m.sentByServer) :
    (m.setChannel call channel).Accounted := by
  have hsame : ∀ call', ((m.setChannel call channel).channels call').sent =
      (m.channels call').sent := m.channels.sent_update hsent
  refine {
    flight := h.flight
    settled := fun r hr => ?_
    oneShot := fun requestId call' hl => (hsame call').trans (h.oneShot requestId call' hl)
    past := fun hp requestId call' hl => ?_
    read := update_apply (p := fun _ channel => channel.ReadOk) h.read hread
    ended := update_apply (p := fun call channel => channel.ended = true →
      answering channel.yielded = true → ∃ r ∈ m.registered, r.2.call = call ∧
        doneMessage r.1.reqId ∈ m.sentByServer) h.ended hended }
  · rw [hsame]
    exact h.settled r hr
  · rw [hsame]
    exact h.past hp requestId call' hl

/-- A callback stands for no answer stream if no callback of a stream does. -/
theorem not_answering_of_lookup (h : m.Accounted) (hn : m.NoneAnswering) {requestId : RequestID}
    {sink : ResponseSink} (hl : m.callbacks.lookup requestId = some sink) :
    answering (results (m.channels sink.call).sent) = false := by
  cases sink with
  | oneShot call =>
    rw [show (m.channels (ResponseSink.oneShot call).call).sent = [] from h.oneShot _ _ hl]
    rfl
  | streamed call => exact hn requestId call hl

/-- The same for the callback that an incomplete message ends. -/
theorem not_answering_of_incomplete (h : m.Accounted) {body : ServerBody π}
    (hk : m.Keeps decode (.handle (some body))) (hi : body.isIncomplete = true)
    {sink : ResponseSink} (hl : m.callbacks.lookup body.reqId = some sink) :
    answering (results (m.channels sink.call).sent) = false := by
  cases sink with
  | oneShot call =>
    rw [show (m.channels (ResponseSink.oneShot call).call).sent = [] from h.oneShot _ _ hl]
    rfl
  | streamed call => exact hk.1 hi call hl

/-- What a message does to the callback of the request that it answers. -/
theorem settled_self (hm : m.Sound) (h : m.Accounted) {body : ServerBody π}
    (hsent : some body ∈ m.sentByServer) (hk : m.Keeps decode (.handle (some body)))
    {r : Req ρ × ResponseSink} (hr : r ∈ m.registered) (hid : body.reqId = r.1.reqId)
    (hl : m.callbacks.lookup r.1.reqId = some r.2) :
    (m.collect decode (some body)).callbacks.lookup r.1.reqId = some r.2 ∨
      doneMessage r.1.reqId ∈ m.sentByServer ∨
      answering (results ((m.collect decode (some body)).channels r.2.call).sent) = false := by
  have hd := m.collect_delivery decode body
  generalize m.collect decode (some body) = m' at hd ⊢
  generalize hreply : body.reply decode = reply at hd
  cases hd with
  | removed =>
    right
    cases hi : body.isIncomplete with
    | true => exact .inr (h.not_answering_of_incomplete hk hi (hid ▸ hl))
    | false =>
      left
      rw [← hid, ← ServerBody.eq_done_of_remove hreply hi]
      exact hsent
  | unknown | blocked | died | panicked => exact .inl hl
  | sent sink response streamed last hsome =>
    obtain rfl : sink = r.2 := hm.eq_of_lookup hr (hid ▸ hsome)
    cases last with
    | false => exact .inl hl
    | true =>
      obtain ⟨result, rfl, hf⟩ := ServerBody.isFailure_of_last hreply
      refine .inr (.inr (answering_of_isFailure (mem_results ?_) hf))
      show _ ∈ (m.channels.send r.2.call (.result result) r.2.call).sent
      rw [Channels.send_self]
      exact List.mem_append_right _ (List.mem_singleton_self _)

/-- A request without a callback is left alone. -/
theorem settled_unknown (hm : m.Sound) (h : m.Accounted) {body : ServerBody π}
    {r : Req ρ × ResponseSink} (hr : r ∈ m.registered) (hid : body.reqId = r.1.reqId)
    (hl : ¬ m.callbacks.lookup r.1.reqId = some r.2) :
    doneMessage r.1.reqId ∈ m.sentByServer ∨
      answering (results ((m.collect decode (some body)).channels r.2.call).sent) = false := by
  have hnone : m.callbacks.lookup body.reqId = none := by
    cases hs : m.callbacks.lookup body.reqId with
    | none => rfl
    | some sink =>
      rw [hid] at hs
      obtain rfl := hm.eq_of_lookup hr hs
      exact absurd hs hl
  have hd := m.collect_delivery decode body
  generalize m.collect decode (some body) = m' at hd ⊢
  generalize body.reply decode = reply at hd
  cases hd with
  | removed | unknown => exact (h.settled r hr).resolve_left hl
  | blocked sink hsome => exact absurd (hnone.symm.trans hsome) nofun
  | died sink hsome => exact absurd (hnone.symm.trans hsome) nofun
  | panicked _ _ _ hsome => exact absurd (hnone.symm.trans hsome) nofun
  | sent _ _ _ _ hsome => exact absurd (hnone.symm.trans hsome) nofun

/-- What a message does to the callback of another request. -/
theorem settled_other (hm : m.Sound) (h : m.Accounted) {body : ServerBody π}
    {r : Req ρ × ResponseSink} (hr : r ∈ m.registered) (hid : body.reqId ≠ r.1.reqId) :
    (m.collect decode (some body)).callbacks.lookup r.1.reqId = some r.2 ∨
      doneMessage r.1.reqId ∈ m.sentByServer ∨
      answering (results ((m.collect decode (some body)).channels r.2.call).sent) = false := by
  have hkeep := h.settled r hr
  have herase : (m.callbacks.erase body.reqId).lookup r.1.reqId =
      m.callbacks.lookup r.1.reqId := AList.lookup_erase_ne (Ne.symm hid)
  have hd := m.collect_delivery decode body
  generalize m.collect decode (some body) = m' at hd ⊢
  generalize body.reply decode = reply at hd
  cases hd with
  | removed => exact herase ▸ hkeep
  | unknown | blocked | died | panicked => exact hkeep
  | sent sink response streamed last hsome =>
    have hchannel : m.channels.send sink.call response r.2.call = m.channels r.2.call :=
      m.channels.send_of_ne (hm.call_ne hr hsome hid) response
    show _ ∨ _ ∨ answering (results (m.channels.send sink.call response r.2.call).sent) = false
    rw [hchannel]
    cases last with
    | true => exact herase ▸ hkeep
    | false => exact hkeep

theorem settled_collect (hm : m.Sound) (h : m.Accounted) {body : ServerBody π}
    (hsent : some body ∈ m.sentByServer) (hk : m.Keeps decode (.handle (some body)))
    {r : Req ρ × ResponseSink} (hr : r ∈ m.registered) :
    (m.collect decode (some body)).callbacks.lookup r.1.reqId = some r.2 ∨
      doneMessage r.1.reqId ∈ m.sentByServer ∨
      answering (results ((m.collect decode (some body)).channels r.2.call).sent) = false := by
  by_cases hid : body.reqId = r.1.reqId
  · by_cases hl : m.callbacks.lookup r.1.reqId = some r.2
    · exact h.settled_self hm hsent hk hr hid hl
    · exact .inr (h.settled_unknown hm hr hid hl)
  · exact h.settled_other hm hr hid

/-- A one-shot sink that is still in the map has got nothing. -/
theorem oneShot_collect (hm : m.Sound) (h : m.Accounted) {body : ServerBody π}
    {requestId : RequestID} {call : ℕ}
    (hl : (m.collect decode (some body)).callbacks.lookup requestId = some (.oneShot call)) :
    ((m.collect decode (some body)).channels call).sent = [] := by
  have hd := m.collect_delivery decode body
  generalize m.collect decode (some body) = m' at hd hl ⊢
  have herase : (m.callbacks.erase body.reqId).lookup requestId = some (.oneShot call) →
      requestId ≠ body.reqId ∧ m.callbacks.lookup requestId = some (.oneShot call) := by
    intro hl
    by_cases hid : requestId = body.reqId
    · rw [hid, AList.lookup_erase] at hl
      cases hl
    · exact ⟨hid, AList.lookup_erase_ne hid ▸ hl⟩
  generalize hreply : body.reply decode = reply at hd
  cases hd with
  | removed => exact h.oneShot _ _ (herase hl).2
  | unknown | blocked | died | panicked => exact h.oneShot _ _ hl
  | sent sink response streamed last hsome hstreamed =>
    obtain ⟨hid, hl⟩ : requestId ≠ body.reqId ∧
        m.callbacks.lookup requestId = some (.oneShot call) := by
      cases last with
      | true => exact herase hl
      | false =>
        have hkept : m.callbacks.lookup requestId = some (.oneShot call) := hl
        refine ⟨fun hid => ?_, hkept⟩
        obtain ⟨call', rfl⟩ := hstreamed (ServerBody.streamed_of_not_last hreply)
        rw [hid, hsome] at hkept
        cases hkept
    obtain ⟨r, hr, rfl, hsink⟩ := hm.callbacks _ _ hl
    have hne : call ≠ sink.call := by
      have hne := hm.call_ne hr hsome (Ne.symm hid)
      rw [hsink] at hne
      exact hne
    exact (congrArg Channel.sent (m.channels.send_of_ne hne response)).trans (h.oneShot _ _ hl)

theorem past_collect {body : ServerBody π} (hstage : m.stage = .listening)
    (hk : m.Keeps decode (.handle (some body)))
    (hp : (m.collect decode (some body)).stage.isPast = true) :
    (m.collect decode (some body)).NoneAnswering := by
  have hd := m.collect_delivery decode body
  generalize m.collect decode (some body) = m' at hd hp ⊢
  generalize hreply : body.reply decode = reply at hd
  cases hd with
  | panicked call response last hone => exact hk.2.1 (by rw [hreply]; rfl) call hone
  | died sink hsome => exact hk.2.2 hreply sink hsome
  | blocked => cases hp
  | removed | unknown | sent =>
    have hp : m.stage.isPast = true := hp
    rw [hstage] at hp
    cases hp

theorem collect (hm : m.Sound) (h : m.Accounted) (hstage : m.stage = .listening)
    {message : Message π} (hsent : message ∈ m.sentByServer)
    (hk : m.Keeps decode (.handle message)) : (m.collect decode message).Accounted := by
  cases message with
  | none => exact h
  | some body =>
    have hsettled := fun (r : Req ρ × ResponseSink) (hr : r ∈ m.registered) =>
      h.settled_collect hm hsent hk hr
    have honeShot : ∀ requestId call,
        (m.collect decode (some body)).callbacks.lookup requestId = some (.oneShot call) →
        ((m.collect decode (some body)).channels call).sent = [] :=
      fun _ _ => h.oneShot_collect hm
    have hpast := past_collect hstage hk
    have hchannel := m.channel_collect decode body
    obtain ⟨callbacks, channels, stage, hcollect⟩ := m.collect_frame decode (some body)
    rw [hcollect] at hsettled honeShot hpast hchannel ⊢
    refine {
      flight := h.flight
      settled := hsettled
      oneShot := honeShot
      past := hpast
      read := fun call => ?_
      ended := fun call he ha => ?_ }
    · obtain hc | ⟨response, -, -, -, hc⟩ := hchannel call
      · exact hc ▸ h.read call
      · exact hc ▸ (h.read call).send response
    · obtain hc | ⟨response, -, -, -, hc⟩ := hchannel call
      · rw [hc] at he ha
        exact h.ended call he ha
      · rw [hc] at he ha
        exact h.ended call he ha

theorem register (decode : π → Decode Error α) (hm : m.Sound) (h : m.Accounted)
    {request : TransactionRequest ρ} {sink : ResponseSink}
    {source : List (TransactionRequest ρ × Option ResponseSink)} {generated : RequestID}
    (hsource : m.requestSource = (request, some sink) :: source)
    (hfresh : (request.intoProto generated).reqId ∉ m.requestIds) :
    Accounted { m with
      requestSource := source
      dispatched := m.dispatched ++ [request.intoProto generated]
      callbacks := m.callbacks.insert (request.intoProto generated).reqId sink
      registered := m.registered ++ [(request.intoProto generated, sink)] } := by
  have hquiet := hm.quiet_of_register decode hsource hfresh
  -- a callback is the new one, to whose call nothing was sent, or an old one
  have hlookup : ∀ requestId sink', (m.callbacks.insert (request.intoProto generated).reqId
      sink).lookup requestId = some sink' →
      sink' = sink ∨ m.callbacks.lookup requestId = some sink' := by
    intro requestId sink' hl
    by_cases hid : requestId = (request.intoProto generated).reqId
    · rw [hid, AList.lookup_insert] at hl
      exact .inl (Option.some.inj hl).symm
    · exact .inr (AList.lookup_insert_ne hid ▸ hl)
  refine {
    flight := h.flight
    settled := fun r hr => ?_
    oneShot := fun requestId call hl => ?_
    past := fun hp requestId call hl => ?_
    read := h.read
    ended := fun call he ha => ?_ }
  · obtain hr | hr := List.mem_append.mp hr
    · refine (h.settled r hr).imp_left fun hl => ?_
      rw [← hl]
      exact AList.lookup_insert_ne fun hid => hfresh (hid ▸ List.mem_map_of_mem hr)
    · rw [List.mem_singleton.mp hr]
      exact .inl (AList.lookup_insert _)
  · obtain rfl | hl := hlookup _ _ hl
    · exact hquiet
    · exact h.oneShot requestId call hl
  · obtain rfl | hl := hlookup _ _ hl
    · show answering (results (m.channels call).sent) = false
      rw [show (m.channels call).sent = [] from hquiet]
      rfl
    · exact h.past hp requestId call hl
  · obtain ⟨r, hr, hdone⟩ := h.ended call he ha
    exact ⟨r, List.mem_append_left _ hr, hdone⟩

theorem drain (hm : m.Sound) (h : m.Accounted) (error : Option Error) :
    (m.drain error).Accounted := by
  have hchannel : ∀ call, (m.drain error).channels call = m.channels call ∨
      (m.drain error).channels call =
        m.channels.send call (.result (ResponseCollector.closing error)) call := by
    intro call
    by_cases hcall : ∃ r ∈ m.registered, r.2.call = call
    · obtain ⟨r, hr, rfl⟩ := hcall
      rw [hm.drain_channel error hr]
      split_ifs
      · exact .inr rfl
      · exact .inl rfl
    · exact .inl (hm.drain_channel_of_ne error fun r hr hrc => hcall ⟨r, hr, hrc⟩)
  refine {
    flight := h.flight
    settled := fun r hr => ?_
    oneShot := nofun
    past := nofun
    read := fun call => ?_
    ended := fun call he ha => ?_ }
  · right
    have hc := hm.drain_channel error hr
    split_ifs at hc with hl
    · have hsent : .result (ResponseCollector.closing error) ∈
          ((m.drain error).channels r.2.call).sent := by
        rw [hc, Channels.send_self]
        exact List.mem_append_right _ (List.mem_singleton_self _)
      exact .inr (answering_of_isFailure (mem_results hsent) (isFailure_closing error))
    · rw [hc]
      exact (h.settled r hr).resolve_left hl
  · obtain hc | hc := hchannel call
    · exact hc ▸ h.read call
    · rw [hc, Channels.send_self]
      exact (h.read call).send _
  · obtain hc | hc := hchannel call
    · rw [hc] at he ha
      exact h.ended call he ha
    · rw [hc, Channels.send_self] at he ha
      exact h.ended call he ha

/-- What the end of a channel without an error item means. -/
theorem done_of_unreachable (hm : m.Sound) (h : m.Accounted) {call : ℕ} (hu : m.Unreachable call)
    (ha : answering (results (m.channels call).sent) = true) :
    ∃ r ∈ m.registered, r.2.call = call ∧ doneMessage r.1.reqId ∈ m.sentByServer := by
  obtain ⟨r, hr, rfl⟩ : ∃ r ∈ m.registered, r.2.call = call := by
    by_contra hnone
    rw [hm.quiet call fun r hr hcall => hnone ⟨r, hr, hcall⟩] at ha
    cases ha
  refine ⟨r, hr, rfl, ?_⟩
  have hne : ¬ answering (results (m.channels r.2.call).sent) = false := by
    rw [ha]
    exact nofun
  obtain hl | hdone | hsent := h.settled r hr
  · have hpast : ¬ m.stage.isPast = true := fun hp =>
      hne (h.not_answering_of_lookup (h.past hp) hl)
    obtain hs | hs | hs := hu.2
    · exact absurd (by rw [hs]; rfl) hpast
    · exact absurd (by rw [hs]; rfl) hpast
    · exact absurd rfl (hs _ _ hl)
  · exact hdone
  · exact absurd hsent hne

theorem atEnd (hm : m.Sound) (h : m.Accounted) {call : ℕ}
    (hnext : (m.channels call).sent[(m.channels call).taken]? = none) (hu : m.Unreachable call) :
    (m.setChannel call (m.channels call).atEnd).Accounted := by
  refine h.readStep ?_ (h.read call).atEnd fun _ ha => ?_
  · unfold Channel.atEnd
    split <;> rfl
  · have hy : answering (m.channels call).yielded = true := by
      unfold Channel.atEnd at ha
      split at ha
      · rw [answering_of_isFailure (List.mem_append_right _ (List.mem_singleton_self _)) rfl] at ha
        cases ha
      · exact ha
    exact h.done_of_unreachable hm hu ((h.read call).answering_sent hy hnext)

/-- The server sends a message. -/
theorem send (h : m.Accounted) (message : Message π) : Accounted { m with
    inFlight := m.inFlight ++ [message], sentByServer := m.sentByServer ++ [message] } := by
  refine {
    h with
    flight := fun message' hmem => ?_
    settled := fun r hr => (h.settled r hr).imp_right (Or.imp_left (List.mem_append_left _))
    ended := fun call he ha => ?_ }
  · obtain hmem | hmem := List.mem_append.mp hmem
    · exact List.mem_append_left _ (h.flight _ hmem)
    · exact List.mem_append_right _ hmem
  · obtain ⟨r, hr, hcall, hdone⟩ := h.ended call he ha
    exact ⟨r, hr, hcall, List.mem_append_left _ hdone⟩

/-- The listener handles the next message. -/
theorem handle (hm : m.Sound) (h : m.Accounted) {message : Message π} {rest : List (Message π)}
    (hflight : m.inFlight = message :: rest) (hstage : m.stage = .listening)
    (hk : m.Keeps decode (.handle message)) :
    Accounted ({ m with
      inFlight := rest, collected := m.collected ++ [message] }.collect decode message) := by
  have hsent : message ∈ m.sentByServer := h.flight _ (hflight ▸ List.mem_cons_self ..)
  have hm' : Sound { m with inFlight := rest, collected := m.collected ++ [message] } :=
    { hm with }
  have h' : Accounted { m with inFlight := rest, collected := m.collected ++ [message] } :=
    { h with flight := fun _ hmem => h.flight _ (hflight ▸ List.mem_cons_of_mem _ hmem) }
  exact h'.collect hm' hstage hsent hk

theorem effect (hm : m.Sound) (h : m.Accounted) {label : Label π}
    (he : Effect decode label m m') (hk : m.Keeps decode label) : m'.Accounted := by
  have hopen : ∀ (call : ℕ) (channel : Channel α), (m.channels call).ended = false →
      channel.ended = (m.channels call).ended → channel.ended = true →
      answering channel.yielded = true →
      ∃ r ∈ m.registered, r.2.call = call ∧ doneMessage r.1.reqId ∈ m.sentByServer := by
    intro call channel hend hsame he
    rw [hsame, hend] at he
    cases he
  cases he with
  | skip | accept | refuse | withdraw | dequeue | exit => exact { h with }
  | submit _ index call request =>
    have hset : (m.setChannel call
        { m.channels call with sink := some (request.sink call) }).Accounted :=
      h.readStep rfl (h.read call) (h.ended call)
    exact { hset with }
  | take _ call response hend hnext =>
    exact h.readStep rfl ((h.read call).take hnext) (hopen call _ hend rfl)
  | askMore _ call requestId hend hnext =>
    have hread := (h.read call).take hnext
    rw [show (StreamResponse.cont requestId : StreamResponse α).result?.toList = [] from rfl,
      List.append_nil] at hread
    have hset : (m.setChannel call
        { m.channels call with taken := (m.channels call).taken + 1 }).Accounted :=
      h.readStep rfl hread (hopen call _ hend rfl)
    exact { hset with }
  | askMoreFailed _ call requestId hend hnext =>
    exact h.readStep rfl (Channel.ReadOk.fail hnext _) (hopen call _ hend rfl)
  | atEnd _ call hend hnext hu => exact h.atEnd hm hnext hu
  | register _ request sink source generated hsource hfresh =>
    exact h.register decode hm hsource hfresh
  | send _ message => exact h.send message
  | handle _ message rest hflight hstage => exact h.handle hm hflight hstage hk
  | close => exact { h with past := nofun }
  | drain _ error => exact h.drain hm error
  | stop _ hstage =>
    refine { h with past := fun _ => ?_ }
    obtain hs | hs := hstage
    · exact hk hs
    · exact h.past (by rw [hs]; rfl)
  | panic _ hstage => exact { h with past := fun _ => h.past (by rw [hstage]; rfl) }

end Accounted

end Multiplexer

/-! ## No answer is truncated -/

theorem State.keeps_label {s : State ρ π α} {a : Action ρ π} (h : s.Keeps decode a) :
    s.multiplexer.Keeps decode (s.label a) := by
  cases a with
  | listen =>
    rcases hnext : s.nextEvent with _ | (_ | body) | _ | _
    case some.message.some =>
      have h := h body hnext
      simp only [label, hnext]
      exact h
    all_goals
      simp only [label, hnext]
      trivial
  | shutDownRuntime =>
    intro hstage
    refine h ?_
    cases hphase : s.listener with
    | listening => rfl
    | _ =>
      rw [stage_eq hphase] at hstage
      cases hstage
  | server event => cases event <;> trivial
  | _ => trivial

theorem accounted_initial : (initial : State ρ π α).multiplexer.Accounted where
  flight := nofun
  settled := nofun
  oneShot := nofun
  past := nofun
  read _ := ⟨Nat.le_refl 0, .inl rfl⟩
  ended := nofun

/-- **No answer is truncated.** An answer stream that ends without an error item was ended by
`Done`, in every run whose steps drop no such stream without a word. -/
theorem notTruncated_of_reaches {s : State ρ π α}
    (hs : (transaction decode encodedLen).Reaches (State.Keeps decode) s) : s.NotTruncated := by
  have haccounted : s.multiplexer.Accounted := by
    refine Transition.Reaches.invariant_with (fun s => s.multiplexer.Accounted)
      (fun s hs => sound_of_reaches hs) ?_ ?_ hs
    · rintro s rfl
      exact accounted_initial
    · exact fun s a t hsound h hk ht => h.effect hsound (step_effect ht) (State.keeps_label hk)
  exact haccounted.ended

end Runs

/-! ## Runs with and without a truncated answer -/

/-- The kind of a response stands for its debug text where payloads are numbers. -/
instance : DebugText (QueryResponse ℕ) where
  debug
    | .ok _ => "Ok"
    | .conceptRowsHeader _ => "ConceptRowsHeader"
    | .conceptDocumentsHeader _ => "ConceptDocumentsHeader"
    | .streamConceptRows _ => "StreamConceptRows"
    | .streamConceptDocuments _ => "StreamConceptDocuments"
    | .error _ => "Error"

instance : DebugText (TransactionResponse ℕ) where
  debug
    | .opened _ => "Open"
    | .commit => "Commit"
    | .rollback => "Rollback"
    | .query inner => s!"Query({DebugText.debug inner})"
    | .analyze _ => "Analyze"
    | .close => "Close"

/-- A query, its header and a part with two rows, and what ends its stream in the end. -/
def queryRun (last : Option (ResPartBody ℕ)) : List (Action ℕ ℕ) :=
  [.call (.query 5), .submit 0, .dispatch ⟨[1]⟩, .dispatch ⟨[1]⟩, .dispatch ⟨[1]⟩, .dispatch ⟨[1]⟩,
    .server (.message (some (.res ⟨⟨[1]⟩, some (.queryInitialRes
      (some (.ok (some (.conceptRowStream 7)))))⟩))), .arrive, .listen,
    .server (.message (some (.resPart ⟨⟨[1]⟩, some (.queryRes (some (.rowsRes [8, 9])))⟩))),
    .arrive, .listen,
    .server (.message (some (.resPart ⟨⟨[1]⟩, last⟩))), .arrive, .listen,
    .read 0, .read 0, .read 0]

def Reply.isPanic : Reply α → Bool
  | panics => true
  | _ => false

/-- A step that meets `State.Keeps` by its message and the callbacks alone. -/
def keepsByMessage (s : State ℕ ℕ ℕ) : Action ℕ ℕ → Bool
  | .listen =>
    match s.nextEvent with
    | some (.message (some body)) =>
      !body.isIncomplete && !(body.reply pure : Reply ℕ).isPanic &&
        s.callbacks.entries.all fun e => e.2 = .streamed e.2.call
    | _ => true
  | .shutDownRuntime => false
  | _ => true

theorem keeps_of_keepsByMessage (s : State ℕ ℕ ℕ) (a : Action ℕ ℕ)
    (h : keepsByMessage s a = true) : s.Keeps pure a := by
  cases a with
  | listen =>
    intro body hnext
    simp only [keepsByMessage, hnext, Bool.and_eq_true, Bool.not_eq_true'] at h
    refine ⟨fun hi => ?_, fun _ call hone => ?_, fun hp => ?_⟩
    · rw [h.1.1] at hi
      cases hi
    · have hentry := List.all_eq_true.mp h.2 _ (AList.mem_lookup_iff.mp hone)
      cases of_decide_eq_true hentry
    · rw [hp] at h
      cases h.1.2
  | shutDownRuntime => cases h
  | _ => trivial

/-- The first call is a query whose answer stream has ended without an error item. -/
def endsClean (s : State ℕ ℕ ℕ) : Bool :=
  (s.channels 0).ended && answering (s.channels 0).yielded

theorem notTruncated_of_queryRun : ∃ s : State ℕ ℕ ℕ, numbers.Reaches (State.Keeps pure) s ∧
    endsClean s = true ∧ s.NotTruncated := by
  have hrun : (numbers.runChecked keepsByMessage initial
      (queryRun (some (.streamRes (some .done))))).any endsClean = true := by
    decide +kernel
  obtain ⟨s, hs, htest⟩ := Transition.exists_reaches keeps_of_keepsByMessage rfl hrun
  exact ⟨s, hs, htest, notTruncated_of_reaches hs⟩

def isDone : Message π → Bool
  | some (.resPart ⟨_, some (.streamRes (some .done))⟩) => true
  | _ => false

/-- A part without a state ends an answer stream, and no `Done` was sent. -/
theorem not_forall_notTruncated :
    ¬ ∀ s : State ℕ ℕ ℕ, numbers.Reachable s → s.NotTruncated := by
  intro h
  have hrun : (numbers.runChecked (fun _ _ => true) initial
      (queryRun (some (.streamRes none)))).any (fun s =>
        endsClean s && s.sentByServer.all fun message => !isDone message) = true := by
    decide +kernel
  obtain ⟨s, hs, htest⟩ := Transition.exists_reachable rfl hrun
  simp only [endsClean, Bool.and_eq_true, List.all_eq_true] at htest
  obtain ⟨⟨hend, hanswering⟩, hnone⟩ := htest
  obtain ⟨r, -, -, hdone⟩ := h s hs 0 hend hanswering
  cases hnone _ hdone

end TypeDBDriver.Transaction
