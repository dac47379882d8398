import TypeDBDriver.Lib.Conversation
import TypeDBDriver.Transaction.Registry

/-!
# Requests and their answers

Runs in which the server sends a message for a request id after the request was handed to gRPC, with
the kind of response that the request expects, and every message decodes.

* `ReqBody.expects`, `ServerBody.decodes`, `ServerAnswers`: what is asked of the server.
* `answers`, `Answered`: the messages that answer a request, up to the one that completes it.
* `Multiplexer.Entry`: what has become of a registered request.
* `Multiplexer.Multiplexed`: the invariant; **`Multiplexed.effect`**.
* **`multiplexes_of_reaches`**: every sink gets the answers of its own request, each once and in
  order, and no message is dropped for its request id unless the request was completed before.
-/

namespace TypeDBDriver.Transaction

open Transition (System)
open Conversation

variable {ρ π α : Type} {decode : π → Decode Error α} {encodedLen : Req ρ → ℕ}

/-! ## What is asked of the server -/

/-- The messages of the kind that a request expects. -/
def ReqBody.expects : ReqBody ρ → ServerBody π → Bool
  | .commitReq, .res ⟨_, some .commitRes⟩ => true
  | .rollbackReq, .res ⟨_, some .rollbackRes⟩ => true
  | .analyzeReq _, .res ⟨_, some (.analyzeRes _)⟩ => true
  | .queryReq _, .res ⟨_, some (.queryInitialRes _)⟩ => true
  | .queryReq _, .resPart _ => true
  | _, _ => false

/-- A message in which nothing is missing or malformed. -/
def ServerBody.decodes (decode : π → Decode Error α) : ServerBody π → Bool
  | .res r => (TransactionResponse.tryFromRes decode r).verdict = .accepted
  | .resPart ⟨_, some (.queryRes queryRes)⟩ =>
    (TransactionResponse.tryFromPart decode queryRes).verdict = .accepted
  | .resPart ⟨_, some (.streamRes state)⟩ => state.isSome
  | .resPart ⟨_, none⟩ => false

/-- A message that the server may send: it answers a request that was handed to gRPC. -/
def mayAnswer (decode : π → Decode Error α) (handed : List (Req ρ)) : Message π → Bool
  | none => false
  | some body =>
    body.decodes decode && handed.any fun req => req.reqId = body.reqId && req.req.expects body

def serverAnswers (decode : π → Decode Error α) (s : State ρ π α) : Action ρ π → Bool
  | .server (.message message) => mayAnswer decode s.handedReqs message
  | _ => true

/-- The condition on runs. -/
def ServerAnswers (decode : π → Decode Error α) (s : State ρ π α) (a : Action ρ π) : Prop :=
  serverAnswers decode s a = true

/-! ## The answers of a request -/

def Reply.response? : Reply α → Option (StreamResponse α)
  | send response _ _ => some response
  | _ => none

def Reply.isLast : Reply α → Bool
  | send _ _ last => last
  | remove => true
  | deadlock | panics => false

/-- The request id of a message. -/
def messageId (message : Message π) : Option RequestID := message.map ServerBody.reqId

/-- The message completes its request: a single response, `Done`, or `Error`. -/
def isFinal (decode : π → Decode Error α) (message : Message π) : Bool :=
  message.any fun body => (body.reply decode).isLast

/-- What a message sends over the sink of its request. -/
def messageResponse (decode : π → Decode Error α) (message : Message π) :
    Option (StreamResponse α) :=
  message.bind fun body => (body.reply decode).response?

/-- A request has been completed. -/
def Answered (decode : π → Decode Error α) (requestId : RequestID)
    (messages : List (Message π)) : Prop :=
  Complete messageId (isFinal decode) requestId messages

/-- What the answers of a request send, in order, up to the one that completes it. -/
def answers (decode : π → Decode Error α) (requestId : RequestID) (messages : List (Message π)) :
    List (StreamResponse α) :=
  (conversation messageId (isFinal decode) requestId messages).filterMap (messageResponse decode)

section Answers

variable {requestId : RequestID} {messages : List (Message π)} {body : ServerBody π}

theorem answers_append_other (decode : π → Decode Error α) (messages : List (Message π))
    (h : body.reqId ≠ requestId) :
    answers decode requestId (messages ++ [some body]) = answers decode requestId messages := by
  rw [answers, conversation_append_other (by simpa [messageId] using h), answers]

theorem answered_append_other (decode : π → Decode Error α) (messages : List (Message π))
    (h : body.reqId ≠ requestId) :
    Answered decode requestId (messages ++ [some body]) ↔ Answered decode requestId messages := by
  rw [Answered, complete_append, complete_singleton, Answered, or_iff_left]
  rintro ⟨hid, -⟩
  exact h (Option.some.inj hid)

theorem answered_append_self (ho : ¬ Answered decode body.reqId messages) :
    Answered decode body.reqId (messages ++ [some body]) ↔ (body.reply decode).isLast = true := by
  rw [Answered] at ho ⊢
  rw [complete_append, complete_singleton, or_iff_right ho]
  exact and_iff_right rfl

theorem answers_append_self (ho : ¬ Answered decode body.reqId messages) :
    answers decode body.reqId (messages ++ [some body]) =
      answers decode body.reqId messages ++ (body.reply decode).response?.toList := by
  have hkey : messageId (some body) = some body.reqId := rfl
  rw [answers, conversation_append_open hkey ho, List.filterMap_append, answers]
  congr 1

theorem answers_append_answered (h : Answered decode requestId messages) (message : Message π) :
    answers decode requestId (messages ++ [message]) = answers decode requestId messages := by
  rw [answers, conversation_append_complete h, answers]

end Answers

/-- On a message that decodes the listener neither waits for itself nor panics in the decoder. -/
theorem ServerBody.reply_of_decodes {body : ServerBody π} (h : body.decodes decode = true) :
    body.reply decode ≠ .deadlock ∧ body.reply decode ≠ .panics := by
  rcases body with r | ⟨requestId, _ | queryRes | _ | _ | _ | error⟩
  case resPart.some.queryRes =>
    simp only [decodes, Decode.verdict] at h
    simp only [reply]
    rcases hd : (TransactionResponse.tryFromPart decode queryRes).run with _ | err | response
    · simp [hd] at h
    · simp [hd] at h
    · simp
  case res =>
    simp only [decodes, Decode.verdict] at h
    simp only [reply]
    split
    next hd => simp [hd] at h
    all_goals simp
  all_goals simp [reply]

/-- A request that waits for one response expects a last one that its sink takes. -/
theorem ReqBody.reply_of_oneShot (decode : π → Decode Error α) {req : ReqBody ρ}
    {body : ServerBody π} {call : ℕ} (he : req.expects body = true) (hs : req.sink call = .oneShot call) :
    ∃ response, body.reply decode = .send response false true := by
  unfold ReqBody.expects at he
  split at he
  · exact ⟨_, rfl⟩
  · exact ⟨_, rfl⟩
  · cases hs
  · cases hs
  · cases hs
  · cases he

theorem ReqBody.expects_streamReq (body : ServerBody π) :
    (ReqBody.streamReq : ReqBody ρ).expects body = false := by
  unfold expects
  split <;> first | rfl | contradiction

/-- A stream is asked for more under the id of the message. -/
theorem ServerBody.reply_cont {body : ServerBody π} {requestId : RequestID} {streamed last : Bool}
    (h : body.reply decode = .send (.cont requestId) streamed last) : requestId = body.reqId := by
  rcases body with r | ⟨id, _ | queryRes | _ | _ | _ | error⟩
  case res =>
    simp only [reply] at h
    split at h <;> cases h
  case resPart.some.queryRes =>
    simp only [reply] at h
    split at h <;> cases h
  all_goals
    cases h
  rfl

/-! ## What has become of a request -/

/-- The listener takes no more messages, and has ended the callbacks if it ever does. -/
def Stage.isPast : Stage → Bool
  | drained | gone => true
  | _ => false

namespace Multiplexer

/-- What has been sent over the sink of a registered request. -/
def sentTo (m : Multiplexer ρ π α) (r : Req ρ × ResponseSink) : List (StreamResponse α) :=
  (m.channels r.2.call).sent

/-- What has become of a registered request. -/
inductive Entry (decode : π → Decode Error α) (m : Multiplexer ρ π α)
    (r : Req ρ × ResponseSink) : Prop
  | live (hl : m.callbacks.lookup r.1.reqId = some r.2)
    (ho : ¬ Answered decode r.1.reqId m.collected)
    (hs : m.sentTo r = answers decode r.1.reqId m.collected)
  | completed (hl : m.callbacks.lookup r.1.reqId = none)
    (ho : Answered decode r.1.reqId m.collected)
    (hs : m.sentTo r = answers decode r.1.reqId m.collected)
  | closed (error : Option Error) (hl : m.callbacks.lookup r.1.reqId = none)
    (ho : ¬ Answered decode r.1.reqId m.collected)
    (hs : m.sentTo r =
      answers decode r.1.reqId m.collected ++ [.result (ResponseCollector.closing error)])
    (hstage : m.stage.isPast = true) (hc : m.closedWith = some error)

/-- A step that does not concern a request. -/
theorem Entry.congr {m m' : Multiplexer ρ π α} {r : Req ρ × ResponseSink} (h : Entry decode m r)
    (hl : m'.callbacks.lookup r.1.reqId = m.callbacks.lookup r.1.reqId)
    (ho : Answered decode r.1.reqId m'.collected ↔ Answered decode r.1.reqId m.collected)
    (ha : answers decode r.1.reqId m'.collected = answers decode r.1.reqId m.collected)
    (hs : m'.sentTo r = m.sentTo r)
    (hstage : m.stage.isPast = true →
      m'.stage.isPast = true ∧ m'.closedWith = m.closedWith) : Entry decode m' r := by
  cases h with
  | live hl' ho' hs' => exact .live (hl ▸ hl') (ho.not.mpr ho') (by rw [hs, hs', ha])
  | completed hl' ho' hs' => exact .completed (hl ▸ hl') (ho.mpr ho') (by rw [hs, hs', ha])
  | closed error hl' ho' hs' hstage' hc =>
    exact .closed error (hl ▸ hl') (ho.not.mpr ho') (by rw [hs, hs', ha]) (hstage hstage').1
      ((hstage hstage').2.trans hc)

structure Multiplexed (decode : π → Decode Error α) (m : Multiplexer ρ π α) : Prop where
  dispatched_id : ∀ req ∈ m.dispatched, req.reqId ∈ m.requestIds
  dispatched_registered : ∀ req ∈ m.dispatched, req.req ≠ .streamReq →
    ∃ r ∈ m.registered, r.1 = req
  continuing_id : ∀ requestId, (.stream requestId, none) ∈ m.requestSource →
    requestId ∈ m.requestIds
  cont_id : ∀ call requestId, .cont requestId ∈ (m.channels call).sent → requestId ∈ m.requestIds
  /-- every message answers a registered request -/
  messages : ∀ message ∈ m.collected ++ m.inFlight, ∃ body, message = some body ∧
    body.decodes decode = true ∧
    ∃ r ∈ m.registered, r.1.reqId = body.reqId ∧ r.1.req.expects body = true
  inOrder : m.sentByServer = m.collected ++ m.inFlight
  entries : ∀ r ∈ m.registered, Entry decode m r
  closing : ∀ error, m.stage = .closing error → m.closedWith = some error

namespace Multiplexed

variable {m m' : Multiplexer ρ π α}

/-- The request that the next message answers. -/
theorem next (hm : m.Multiplexed decode) {message : Message π} {rest : List (Message π)}
    (h : m.inFlight = message :: rest) : ∃ body, message = some body ∧
      body.decodes decode = true ∧
      ∃ r ∈ m.registered, r.1.reqId = body.reqId ∧ r.1.req.expects body = true :=
  hm.messages message (List.mem_append_right _ (h ▸ List.mem_cons_self ..))

/-- The multiplexer that has taken a message and is about to deliver it. -/
def taken (m : Multiplexer ρ π α) (body : ServerBody π) (rest : List (Message π)) :
    Multiplexer ρ π α :=
  { m with inFlight := rest, collected := m.collected ++ [some body] }

variable {r : Req ρ × ResponseSink} {body : ServerBody π} {rest : List (Message π)}

/-- What a message does to a request that it does not answer. -/
theorem entry_other (hm : m.Sound) (hr : r ∈ m.registered) (he : Entry decode m r)
    (hstage : m.stage = .listening) (hne : body.reqId ≠ r.1.reqId) :
    Entry decode ((taken m body rest).collect decode (some body)) r := by
  have hpast : m.stage.isPast = true → False := by
    rw [hstage]
    exact nofun
  have ho := answered_append_other decode m.collected hne
  have ha := answers_append_other decode m.collected hne
  have herase : (m.callbacks.erase body.reqId).lookup r.1.reqId =
      m.callbacks.lookup r.1.reqId := AList.lookup_erase_ne hne.symm
  have h := (taken m body rest).collect_delivery decode body
  generalize (taken m body rest).collect decode (some body) = m' at h ⊢
  generalize body.reply decode = reply at h
  cases h with
  | removed => exact he.congr herase ho ha rfl fun h => (hpast h).elim
  | unknown | blocked | died | panicked => exact he.congr rfl ho ha rfl fun h => (hpast h).elim
  | sent sink response streamed last hl =>
    refine he.congr ?_ ho ha ?_ fun h => (hpast h).elim
    · cases last with
      | true => exact herase
      | false => rfl
    · exact congrArg Channel.sent (m.channels.send_of_ne (hm.call_ne hr hl hne) response)

/-- What a message does to the request that it answers. -/
theorem entry_self (hm : m.Sound) (hr : r ∈ m.registered) (he : Entry decode m r)
    (hstage : m.stage = .listening) (hid : body.reqId = r.1.reqId)
    (hd : body.decodes decode = true) (hexp : r.1.req.expects body = true) :
    Entry decode ((taken m body rest).collect decode (some body)) r := by
  have h := (taken m body rest).collect_delivery decode body
  generalize (taken m body rest).collect decode (some body) = m' at h ⊢
  cases he with
  | live hl ho hs =>
    have ho' := answered_append_self (hid ▸ ho)
    have ha' := answers_append_self (hid ▸ ho)
    rw [hid] at ho' ha'
    generalize hreply : body.reply decode = reply at h ho' ha'
    cases h with
    | removed =>
      refine .completed ?_ (ho'.mpr rfl) ?_
      · rw [← hid]
        exact AList.lookup_erase _ _
      · exact hs.trans (ha'.trans (List.append_nil _)).symm
    | unknown _ hnone =>
      have hnone : m.callbacks.lookup r.1.reqId = none := hid ▸ hnone
      rw [hl] at hnone
      cases hnone
    | blocked => exact absurd hreply (ServerBody.reply_of_decodes hd).1
    | died => exact absurd hreply (ServerBody.reply_of_decodes hd).2
    | panicked call response last hone =>
      have hsink : ResponseSink.oneShot call = r.2 := hm.eq_of_lookup hr (hid ▸ hone)
      have hreq := (hm.registered r hr).2
      rw [← hsink] at hreq
      obtain ⟨response', hreply'⟩ := ReqBody.reply_of_oneShot decode hexp hreq.symm
      rw [hreply] at hreply'
      cases hreply'
    | sent sink response streamed last hsome =>
      obtain rfl : sink = r.2 := hm.eq_of_lookup hr (hid ▸ hsome)
      have hsent : (m.channels.send r.2.call response r.2.call).sent =
          answers decode r.1.reqId (m.collected ++ [some body]) := by
        rw [Channels.send_self, ha', ← hs]
        rfl
      cases last with
      | true =>
        refine .completed ?_ (ho'.mpr rfl) hsent
        rw [← hid]
        exact AList.lookup_erase _ _
      | false => exact .live hl (ho'.not.mpr nofun) hsent
  | completed hl ho hs =>
    have hnone : m.callbacks.lookup body.reqId = none := hid ▸ hl
    have ho' : Answered decode r.1.reqId (m.collected ++ [some body]) :=
      complete_append.mpr (.inl ho)
    have ha' := answers_append_answered ho (some body)
    generalize body.reply decode = reply at h
    cases h with
    | removed =>
      refine .completed ?_ ho' (hs.trans ha'.symm)
      rw [← hid]
      exact AList.lookup_erase _ _
    | unknown => exact .completed hl ho' (hs.trans ha'.symm)
    | blocked sink hsome => exact absurd (hnone.symm.trans hsome) nofun
    | died sink hsome => exact absurd (hnone.symm.trans hsome) nofun
    | panicked call response last hsome => exact absurd (hnone.symm.trans hsome) nofun
    | sent sink response streamed last hsome => exact absurd (hnone.symm.trans hsome) nofun
  | closed error hl ho hs hpast =>
    rw [hstage] at hpast
    cases hpast

theorem handle (hm : m.Sound) (h : m.Multiplexed decode) {message : Message π}
    (hflight : m.inFlight = message :: rest) (hstage : m.stage = .listening) :
    Multiplexed decode ({ m with
      inFlight := rest, collected := m.collected ++ [message] }.collect decode message) := by
  obtain ⟨body, rfl, hd, r, hr, hid, hexp⟩ := h.next hflight
  have hentries : ∀ r' ∈ m.registered,
      Entry decode ((taken m body rest).collect decode (some body)) r' := by
    intro r' hr'
    by_cases hid' : body.reqId = r'.1.reqId
    · obtain rfl : r' = r := hm.eq_of_id hr' hr (hid'.symm.trans hid.symm)
      exact entry_self hm hr' (h.entries r' hr') hstage hid' hd hexp
    · exact entry_other hm hr' (h.entries r' hr') hstage hid'
  have hconts : ∀ call requestId,
      .cont requestId ∈ (((taken m body rest).collect decode (some body)).channels call).sent →
        requestId ∈ m.requestIds := by
    intro call requestId hsent
    obtain hc | ⟨response, streamed, last, hreply, hc⟩ :=
      (taken m body rest).channel_collect decode body call
    · exact h.cont_id call requestId (hc ▸ hsent)
    · rw [hc] at hsent
      obtain hsent | hsent := List.mem_append.mp hsent
      · exact h.cont_id call requestId hsent
      · rw [← List.mem_singleton.mp hsent] at hreply
        rw [ServerBody.reply_cont hreply, ← hid]
        exact List.mem_map_of_mem hr
  have hclosing : ∀ error, ((taken m body rest).collect decode (some body)).stage ≠
      .closing error := by
    intro error
    obtain hs | hs | hs := (taken m body rest).collect_stage decode (some body)
    · rw [hs, taken, hstage]
      exact nofun
    · rw [hs]
      exact nofun
    · rw [hs]
      exact nofun
  obtain ⟨callbacks, channels, stage, hcollect⟩ :=
    (taken m body rest).collect_frame decode (some body)
  show Multiplexed decode ((taken m body rest).collect decode (some body))
  rw [hcollect] at hentries hconts hclosing ⊢
  have happend : m.collected ++ [some body] ++ rest = m.collected ++ m.inFlight := by
    rw [hflight, ← List.append_cons]
  exact {
    h with
    messages := fun message hmem => h.messages message (happend ▸ hmem)
    inOrder := h.inOrder.trans happend.symm
    entries := hentries
    cont_id := hconts
    closing := fun error he => absurd he (hclosing error) }

/-- A message that the server may send answers a registered request. -/
theorem answers_registered (h : m.Multiplexed decode) {message : Message π}
    (hmay : mayAnswer decode m.dispatched message = true) : ∃ body, message = some body ∧
      body.decodes decode = true ∧
      ∃ r ∈ m.registered, r.1.reqId = body.reqId ∧ r.1.req.expects body = true := by
  cases message with
  | none => cases hmay
  | some body =>
    simp only [mayAnswer, Bool.and_eq_true, List.any_eq_true, decide_eq_true_eq] at hmay
    obtain ⟨hd, req, hreq, hid, hexp⟩ := hmay
    have hne : req.req ≠ .streamReq := by
      intro hstream
      rw [hstream, ReqBody.expects_streamReq] at hexp
      cases hexp
    obtain ⟨r, hr, rfl⟩ := h.dispatched_registered req hreq hne
    exact ⟨body, rfl, hd, r, hr, hid, hexp⟩

theorem sentTo_update {call : ℕ} {channel : Channel α}
    (h : channel.sent = (m.channels call).sent) (r : Req ρ × ResponseSink) :
    (Function.update m.channels call channel r.2.call).sent = m.sentTo r :=
  m.channels.sent_update h r.2.call

theorem cont_id_update (h : m.Multiplexed decode) {call : ℕ} {channel : Channel α}
    (hsent : channel.sent = (m.channels call).sent) (call' : ℕ) (requestId : RequestID)
    (hc : .cont requestId ∈ (Function.update m.channels call channel call').sent) :
    requestId ∈ m.requestIds :=
  h.cont_id call' requestId (m.channels.sent_update hsent call' ▸ hc)

theorem read (h : m.Multiplexed decode) {call : ℕ} {channel : Channel α}
    (hsent : channel.sent = (m.channels call).sent) :
    (m.setChannel call channel).Multiplexed decode :=
  { h with
    cont_id := h.cont_id_update hsent
    entries := fun r hr =>
      (h.entries r hr).congr rfl .rfl rfl (sentTo_update hsent r) fun hp => ⟨hp, rfl⟩ }

theorem register (hm : m.Sound) (h : m.Multiplexed decode) {request : TransactionRequest ρ}
    {sink : ResponseSink} {source : List (TransactionRequest ρ × Option ResponseSink)}
    {generated : RequestID} (hsource : m.requestSource = (request, some sink) :: source)
    (hfresh : (request.intoProto generated).reqId ∉ m.requestIds) :
    Multiplexed decode { m with
      requestSource := source
      dispatched := m.dispatched ++ [request.intoProto generated]
      callbacks := m.callbacks.insert (request.intoProto generated).reqId sink
      registered := m.registered ++ [(request.intoProto generated, sink)] } := by
  have hquiet := hm.quiet_of_register decode hsource hfresh
  -- no message can have come for an id that is only now generated
  have hno : ∀ message ∈ m.collected,
      messageId message ≠ some (request.intoProto generated).reqId := by
    intro message hmem hid
    obtain ⟨body, rfl, -, r, hr, hreq, -⟩ := h.messages message (List.mem_append_left _ hmem)
    refine hfresh (List.mem_map.mpr ⟨r, hr, ?_⟩)
    rw [hreq]
    exact Option.some.inj hid
  have hids : ∀ requestId ∈ m.requestIds, requestId ∈
      (m.registered ++ [(request.intoProto generated, sink)]).map fun r => r.1.reqId := by
    intro requestId hmem
    rw [List.map_append]
    exact List.mem_append_left _ hmem
  have hnew : (request.intoProto generated).reqId ∈
      (m.registered ++ [(request.intoProto generated, sink)]).map fun r => r.1.reqId :=
    List.mem_map_of_mem (List.mem_append_right _ (List.mem_singleton_self _))
  refine {
    dispatched_id := fun req hreq => ?_
    dispatched_registered := fun req hreq hne => ?_
    continuing_id := fun requestId hmem =>
      hids _ (h.continuing_id requestId (hsource ▸ List.mem_cons_of_mem _ hmem))
    cont_id := fun call requestId hc => hids _ (h.cont_id call requestId hc)
    messages := fun message hmem => ?_
    inOrder := h.inOrder
    entries := fun r hr => ?_
    closing := h.closing }
  · obtain hreq | hreq := List.mem_append.mp hreq
    · exact hids _ (h.dispatched_id req hreq)
    · rw [List.mem_singleton.mp hreq]
      exact hnew
  · obtain hreq | hreq := List.mem_append.mp hreq
    · obtain ⟨r, hr, hrq⟩ := h.dispatched_registered req hreq hne
      exact ⟨r, List.mem_append_left _ hr, hrq⟩
    · rw [List.mem_singleton.mp hreq]
      exact ⟨_, List.mem_append_right _ (List.mem_singleton_self _), rfl⟩
  · obtain ⟨body, hbody, hd, r, hr, hrest⟩ := h.messages message hmem
    exact ⟨body, hbody, hd, r, List.mem_append_left _ hr, hrest⟩
  · obtain hr | hr := List.mem_append.mp hr
    · refine (h.entries r hr).congr ?_ .rfl rfl rfl fun hp => ⟨hp, rfl⟩
      exact AList.lookup_insert_ne fun hid => hfresh (hid ▸ List.mem_map_of_mem hr)
    · rw [List.mem_singleton.mp hr]
      refine .live (AList.lookup_insert _) (not_complete_of_forall hno) ?_
      rw [answers, conversation_eq_nil hno]
      exact hquiet

theorem drain (hm : m.Sound) (h : m.Multiplexed decode) {error : Option Error}
    (hstage : m.stage = .closing error) : (m.drain error).Multiplexed decode := by
  have hpast : m.stage.isPast = false := by
    rw [hstage]
    rfl
  refine {
    h with
    cont_id := fun call requestId hc => ?_
    entries := fun r hr => ?_
    closing := nofun }
  · by_cases hcall : ∃ r ∈ m.registered, r.2.call = call
    · obtain ⟨r, hr, rfl⟩ := hcall
      rw [hm.drain_channel error hr] at hc
      split_ifs at hc
      · rw [Channels.send_self] at hc
        obtain hc | hc := List.mem_append.mp hc
        · exact h.cont_id _ requestId hc
        · cases List.mem_singleton.mp hc
      · exact h.cont_id _ requestId hc
    · have hquiet := (hm.drain error).quiet call fun r hr hrc => hcall ⟨r, hr, hrc⟩
      rw [hquiet] at hc
      cases hc
  · have hchannel := congrArg Channel.sent (hm.drain_channel error hr)
    cases h.entries r hr with
    | live hl ho hs =>
      rw [if_pos hl, Channels.send_self] at hchannel
      refine .closed error rfl ho ?_ rfl (h.closing error hstage)
      exact hchannel.trans (congrArg (· ++ _) hs)
    | completed hl ho hs =>
      rw [if_neg (by rw [hl]; exact nofun)] at hchannel
      exact .completed rfl ho (hchannel.trans hs)
    | closed error' hl ho hs hp =>
      rw [hpast] at hp
      cases hp

theorem submit (h : m.Multiplexed decode) (index call : ℕ) (request : TransactionRequest ρ) :
    Multiplexed decode { m with
      admitted := m.admitted.eraseIdx index
      requestSource := m.requestSource ++ [(request, some (request.sink call))]
      channels := Function.update m.channels call
        { m.channels call with sink := some (request.sink call) } } := by
  refine {
    h with
    continuing_id := fun requestId hmem => h.continuing_id requestId ?_
    cont_id := h.cont_id_update (by rfl)
    entries := fun r hr =>
      (h.entries r hr).congr rfl .rfl rfl (sentTo_update (by rfl) r) fun hp => ⟨hp, rfl⟩ }
  obtain hmem | hmem := List.mem_append.mp hmem
  · exact hmem
  · cases List.mem_singleton.mp hmem

/-- A reader asks for more under the id that it was sent. -/
theorem askMore (h : m.Multiplexed decode) {call : ℕ} {requestId : RequestID}
    (hnext : (m.channels call).sent[(m.channels call).taken]? = some (.cont requestId)) :
    Multiplexed decode { m with
      requestSource := m.requestSource ++ [(.stream requestId, none)]
      channels := Function.update m.channels call
        { m.channels call with taken := (m.channels call).taken + 1 } } := by
  refine {
    h with
    continuing_id := fun requestId' hmem => ?_
    cont_id := h.cont_id_update (by rfl)
    entries := fun r hr =>
      (h.entries r hr).congr rfl .rfl rfl (sentTo_update (by rfl) r) fun hp => ⟨hp, rfl⟩ }
  obtain hmem | hmem := List.mem_append.mp hmem
  · exact h.continuing_id requestId' hmem
  · cases List.mem_singleton.mp hmem
    exact h.cont_id call requestId (List.mem_of_getElem? hnext)

/-- The dispatch loop takes a request for more, whose id is a registered one. -/
theorem dequeue (hm : m.Sound) (h : m.Multiplexed decode) {request : TransactionRequest ρ}
    {source : List (TransactionRequest ρ × Option ResponseSink)} (generated : RequestID)
    (hsource : m.requestSource = (request, none) :: source) :
    Multiplexed decode { m with
      requestSource := source, dispatched := m.dispatched ++ [request.intoProto generated] } := by
  obtain ⟨requestId, rfl⟩ := hm.continuing request (hsource ▸ List.mem_cons_self ..)
  refine {
    h with
    dispatched_id := fun req hreq => ?_
    dispatched_registered := fun req hreq hne => ?_
    continuing_id := fun requestId' hmem =>
      h.continuing_id requestId' (hsource ▸ List.mem_cons_of_mem _ hmem)
    entries := fun r hr => (h.entries r hr).congr rfl .rfl rfl rfl fun hp => ⟨hp, rfl⟩ }
  · obtain hreq | hreq := List.mem_append.mp hreq
    · exact h.dispatched_id req hreq
    · rw [List.mem_singleton.mp hreq]
      exact h.continuing_id requestId (hsource ▸ List.mem_cons_self ..)
  · obtain hreq | hreq := List.mem_append.mp hreq
    · exact h.dispatched_registered req hreq hne
    · rw [List.mem_singleton.mp hreq] at hne
      exact absurd rfl hne

theorem send (h : m.Multiplexed decode) {message : Message π}
    (hmay : mayAnswer decode m.dispatched message = true) : Multiplexed decode { m with
      inFlight := m.inFlight ++ [message], sentByServer := m.sentByServer ++ [message] } := by
  refine {
    h with
    messages := fun message' hmem => ?_
    inOrder := ?_
    entries := fun r hr => (h.entries r hr).congr rfl .rfl rfl rfl fun hp => ⟨hp, rfl⟩ }
  · have hmem : message' ∈ m.collected ++ (m.inFlight ++ [message]) := hmem
    rw [← List.append_assoc] at hmem
    obtain hmem | hmem := List.mem_append.mp hmem
    · exact h.messages message' hmem
    · rw [List.mem_singleton.mp hmem]
      exact h.answers_registered hmay
  · show m.sentByServer ++ [message] = m.collected ++ (m.inFlight ++ [message])
    rw [h.inOrder, List.append_assoc]

theorem effect (hm : m.Sound) (h : m.Multiplexed decode) {label : Label π}
    (he : Effect decode label m m')
    (hsend : ∀ message, label = .send message → mayAnswer decode m.dispatched message = true) :
    m'.Multiplexed decode := by
  have hsame : ∀ r ∈ m.registered, ∀ stage closedWith,
      (m.stage.isPast = true → stage.isPast = true ∧ closedWith = m.closedWith) →
      Entry decode { m with stage, closedWith } r :=
    fun r hr stage closedWith hp => (h.entries r hr).congr rfl .rfl rfl rfl hp
  cases he with
  | skip => exact h
  | accept | refuse | withdraw =>
    exact {
      h with
      entries := fun r hr => (h.entries r hr).congr rfl .rfl rfl rfl fun hp => ⟨hp, rfl⟩ }
  | submit _ index call request => exact h.submit index call request
  | take | askMoreFailed => exact h.read rfl
  | atEnd _ call =>
    refine h.read ?_
    unfold Channel.atEnd
    split <;> rfl
  | askMore _ call requestId hend hnext => exact h.askMore hnext
  | dequeue _ request source generated hsource => exact h.dequeue hm generated hsource
  | register _ request sink source generated hsource hfresh => exact h.register hm hsource hfresh
  | exit =>
    exact {
      h with
      continuing_id := nofun
      entries := fun r hr => (h.entries r hr).congr rfl .rfl rfl rfl fun hp => ⟨hp, rfl⟩ }
  | send _ message => exact h.send (hsend message rfl)
  | handle _ message rest hflight hstage => exact h.handle hm hflight hstage
  | close _ error hstage =>
    refine { h with entries := fun r hr => ?_, closing := fun error' he => ?_ }
    · refine hsame r hr _ _ fun hp => ?_
      rw [hstage] at hp
      cases hp
    · cases he
      rfl
  | drain _ error hstage => exact h.drain hm hstage
  | stop | panic =>
    exact { h with entries := fun r hr => hsame r hr _ _ fun _ => ⟨rfl, rfl⟩, closing := nofun }

end Multiplexed

end Multiplexer

/-! ## The answers that a transaction delivers -/

theorem State.eq_server_of_label {s : State ρ π α} {a : Action ρ π} {message : Message π}
    (h : s.label a = .send message) : a = .server (.message message) := by
  cases a with
  | server event =>
    cases event with
    | message message' =>
      cases h
      rfl
    | _ => cases h
  | listen =>
    simp only [label] at h
    split at h <;> cases h
  | _ => cases h

theorem mayAnswer_mono {handed dispatched : List (Req ρ)} (h : handed ⊆ dispatched)
    {message : Message π} (hm : mayAnswer decode handed message = true) :
    mayAnswer decode dispatched message = true := by
  cases message with
  | none => cases hm
  | some body =>
    simp only [mayAnswer, Bool.and_eq_true, List.any_eq_true] at hm ⊢
    obtain ⟨hd, req, hreq, hexp⟩ := hm
    exact ⟨hd, req, h hreq, hexp⟩

theorem State.handedReqs_subset (s : State ρ π α) :
    s.handedReqs ⊆ s.multiplexer.dispatched := by
  rw [multiplexer_dispatched, List.append_assoc]
  exact List.subset_append_left _ _

theorem multiplexed_of_reaches {s : State ρ π α}
    (hs : (transaction decode encodedLen).Reaches (ServerAnswers decode) s) :
    s.multiplexer.Multiplexed decode := by
  refine Transition.Reaches.invariant_with (fun s => s.multiplexer.Multiplexed decode)
    (fun s hs => sound_of_reaches hs) ?_ ?_ hs
  · rintro s rfl
    exact {
      dispatched_id := nofun
      dispatched_registered := nofun
      continuing_id := nofun
      cont_id := nofun
      messages := nofun
      inOrder := rfl
      entries := nofun
      closing := nofun }
  · refine fun s a t hsound hm hc ht => hm.effect hsound (step_effect ht) fun message hlabel => ?_
    rw [State.eq_server_of_label hlabel] at hc
    exact mayAnswer_mono s.handedReqs_subset hc

/-- The item that ends a callback when the transaction closes, if it has been ended so. -/
def State.Closing (decode : π → Decode Error α) (s : State ρ π α) (requestId : RequestID)
    (items : List (StreamResponse α)) : Prop :=
  items = [] ∨ ¬ Answered decode requestId s.collected ∧
    ∃ error, s.closedWith = some error ∧ items = [.result (ResponseCollector.closing error)]

/-- How the requests of a transaction are told apart, and what their sinks have got. -/
structure State.Multiplexes (decode : π → Decode Error α) (s : State ρ π α) : Prop where
  /-- a request is registered before it is handed to gRPC -/
  handed : ∀ req ∈ s.handedReqs, req.reqId ∈ s.requestIds
  handed_registered : ∀ req ∈ s.handedReqs, req.req ≠ .streamReq →
    ∃ sink, (req, sink) ∈ s.registered
  /-- the next message finds the callback of its request, unless that has been completed -/
  known : ∀ body, s.nextEvent = some (.message (some body)) →
    (∃ sink, s.callbacks.lookup body.reqId = some sink) ∨ Answered decode body.reqId s.collected
  ids_nodup : s.requestIds.Nodup
  calls_nodup : (s.registered.map fun r => r.2.call).Nodup
  /-- the listener has handled the messages that the server has sent, but those in flight -/
  inOrder : s.sentByServer = s.collected ++ s.inFlight.filterMap ServerEvent.message?
  streamed : ∀ req call, (req, .streamed call) ∈ s.registered → ∃ closing,
    s.Closing decode req.reqId closing ∧
    (s.channels call).sent = answers decode req.reqId s.collected ++ closing
  oneShot : ∀ req call, (req, .oneShot call) ∈ s.registered →
    (s.channels call).sent.length ≤ 1 ∧ ∃ closing, s.Closing decode req.reqId closing ∧
    (s.channels call).sent = answers decode req.reqId s.collected ++ closing

namespace Multiplexer

theorem Entry.sent {s : State ρ π α} {r : Req ρ × ResponseSink}
    (h : Entry decode s.multiplexer r) : ∃ closing, s.Closing decode r.1.reqId closing ∧
      (s.channels r.2.call).sent = answers decode r.1.reqId s.collected ++ closing := by
  cases h with
  | live hl ho hs | completed hl ho hs =>
    exact ⟨[], .inl rfl, hs.trans (List.append_nil _).symm⟩
  | closed error hl ho hs hstage hc => exact ⟨_, .inr ⟨ho, error, hc, rfl⟩, hs⟩

/-- The only answer of a request that waits for one completes it. -/
theorem Multiplexed.length_le_one {m : Multiplexer ρ π α} (hm : m.Sound)
    (h : m.Multiplexed decode) {req : Req ρ} {call : ℕ}
    (hr : (req, .oneShot call) ∈ m.registered) : (m.channels call).sent.length ≤ 1 := by
  have hfinal : ∀ message ∈ m.collected, messageId message = some req.reqId →
      isFinal decode message = true := by
    intro message hmem hid
    obtain ⟨body, rfl, -, r, hr', hreq, hexp⟩ := h.messages message (List.mem_append_left _ hmem)
    obtain rfl : r = (req, .oneShot call) :=
      hm.eq_of_id hr' hr (hreq.trans (Option.some.inj hid))
    obtain ⟨response, hreply⟩ :=
      ReqBody.reply_of_oneShot decode hexp (hm.registered _ hr).2.symm
    show (body.reply decode).isLast = true
    rw [hreply]
    rfl
  have hlength : (answers decode req.reqId m.collected).length ≤ 1 :=
    Nat.le_trans (List.length_filterMap_le _ _) (length_conversation_le_one hfinal)
  cases h.entries _ hr with
  | live hl ho hs | completed hl ho hs =>
    exact Nat.le_trans (Nat.le_of_eq (congrArg List.length hs)) hlength
  | closed error hl ho hs hstage hc =>
    have hnil : answers decode req.reqId m.collected = [] := by
      rw [answers, conversation_eq_nil]
      · rfl
      · exact fun message hmem hid => ho ⟨message, hmem, hid, hfinal message hmem hid⟩
    rw [show (m.channels call).sent = _ from hs, hnil]
    exact Nat.le_refl 1

end Multiplexer

/-- The next event is the first in flight, and the listener is not closing. -/
theorem State.nextEvent_eq_some {s : State ρ π α} {event : ServerEvent π}
    (h : s.nextEvent = some event) : s.listener = .listening ∧ event ∈ s.inFlight := by
  unfold nextEvent at h
  split_ifs at h with hl
  exact ⟨hl.1, List.mem_of_mem_head? h⟩

/-- The next message is for a registered request. -/
theorem State.known_of_multiplexed {s : State ρ π α} (h : s.multiplexer.Multiplexed decode)
    {body : ServerBody π} (hnext : s.nextEvent = some (.message (some body))) :
    (∃ sink, s.callbacks.lookup body.reqId = some sink) ∨
      Answered decode body.reqId s.collected := by
  obtain ⟨hphase, hmem⟩ := nextEvent_eq_some hnext
  have hflight : some body ∈ s.multiplexer.inFlight := List.mem_filterMap.mpr ⟨_, hmem, rfl⟩
  obtain ⟨_, hbody, -, r, hr, hid, -⟩ :=
    h.messages _ (List.mem_append_right _ hflight)
  obtain rfl := Option.some.inj hbody
  rw [← hid]
  cases h.entries r hr with
  | live hl => exact .inl ⟨_, hl⟩
  | completed _ ho => exact .inr ho
  | closed _ _ _ _ hstage =>
    rw [stage_eq hphase] at hstage
    cases hstage

/-- **Multiplexing.** Every sink gets the answers of its own request, each once and in the order in
which they arrive, and the closing item if the transaction closes first; no message is dropped for
its request id unless its request was completed before. -/
theorem multiplexes_of_reaches {s : State ρ π α}
    (hs : (transaction decode encodedLen).Reaches (ServerAnswers decode) s) :
    s.Multiplexes decode := by
  have hsound := sound_of_reaches hs
  have hm := multiplexed_of_reaches hs
  exact {
    handed := fun req hreq => hm.dispatched_id req (s.handedReqs_subset hreq)
    handed_registered := fun req hreq hne => by
      obtain ⟨r, hr, rfl⟩ := hm.dispatched_registered req (s.handedReqs_subset hreq) hne
      exact ⟨r.2, hr⟩
    known := fun body hnext => State.known_of_multiplexed hm hnext
    ids_nodup := hsound.ids_nodup
    calls_nodup := hsound.calls_nodup.sublist (List.sublist_append_right _ _)
    inOrder := hm.inOrder
    streamed := fun req call hr => (hm.entries _ hr).sent
    oneShot := fun req call hr => ⟨hm.length_le_one hsound hr, (hm.entries _ hr).sent⟩ }

/-- A run of a query and a rollback whose answers cross. -/
def crossing : List (Action ℕ ℕ) :=
  [.call (.query 5), .call .rollback, .submit 1, .submit 0,
    .dispatch ⟨[1]⟩, .dispatch ⟨[1]⟩, .dispatch ⟨[1]⟩, .dispatch ⟨[2]⟩, .dispatch ⟨[2]⟩,
    .dispatch ⟨[2]⟩,
    .server (.message (some (.res ⟨⟨[2]⟩, some (.queryInitialRes
      (some (.ok (some (.conceptRowStream 7)))))⟩))), .arrive, .listen, .read 0,
    .server (.message (some (.res ⟨⟨[1]⟩, some .rollbackRes⟩))),
    .server (.message (some (.resPart ⟨⟨[2]⟩, some (.queryRes (some (.rowsRes [8, 9])))⟩))),
    .arrive, .listen, .arrive, .listen,
    .server (.message (some (.resPart ⟨⟨[2]⟩, some (.streamRes (some .cont))⟩))),
    .arrive, .listen, .read 0, .read 0, .read 1,
    .server (.message (some (.resPart ⟨⟨[2]⟩, some (.streamRes (some .done))⟩))),
    .arrive, .listen]

theorem multiplexes_of_crossing : ∃ s : State ℕ ℕ ℕ,
    numbers.Reaches (ServerAnswers pure) s ∧
    ((s.channels 0).sent.length = 3 ∧ (s.channels 1).sent.length = 1 ∧
      s.callbacks.keys = []) ∧ s.Multiplexes pure := by
  have hrun : (numbers.runChecked (serverAnswers pure) initial crossing).any (fun s =>
      decide ((s.channels 0).sent.length = 3 ∧ (s.channels 1).sent.length = 1 ∧
        s.callbacks.keys = [])) = true := by
    decide +kernel
  obtain ⟨s, hs, htest⟩ :=
    Transition.exists_reaches (C := ServerAnswers pure) (fun _ _ h => h) rfl hrun
  exact ⟨s, hs, of_decide_eq_true htest, multiplexes_of_reaches hs⟩

/-- A run in which the server answers a rollback twice. -/
def answeredTwice : List (Action ℕ ℕ) :=
  [.call .rollback, .submit 0, .dispatch ⟨[1]⟩, .dispatch ⟨[1]⟩, .dispatch ⟨[1]⟩, .dispatch ⟨[1]⟩,
    .server (.message (some (.res ⟨⟨[1]⟩, some .rollbackRes⟩))), .arrive, .listen,
    .server (.message (some (.res ⟨⟨[1]⟩, some .rollbackRes⟩))), .arrive]

/-- The next event is a message with an unknown request id. -/
def unknownNext (s : State ℕ ℕ ℕ) : Bool :=
  match s.nextEvent with
  | some (.message message) =>
    match s.collect pure message with
    | .unknownRequestId => true
    | _ => false
  | _ => false

/-- The second answer to a request is dropped for its request id. -/
theorem not_forall_known : ¬ ∀ s : State ℕ ℕ ℕ, numbers.Reaches (ServerAnswers pure) s →
    ∀ message, s.nextEvent = some (.message message) →
      s.collect pure message ≠ .unknownRequestId := by
  intro h
  have hrun : (numbers.runChecked (serverAnswers pure) initial answeredTwice).any unknownNext =
      true := by
    decide +kernel
  obtain ⟨s, hs, htest⟩ :=
    Transition.exists_reaches (C := ServerAnswers pure) (fun _ _ h => h) rfl hrun
  unfold unknownNext at htest
  split at htest
  next message hnext =>
    split at htest
    next hcollect => exact h s hs message hnext hcollect
    next => cases htest
  next => cases htest

end TypeDBDriver.Transaction
