import TypeDBDriver.Database.Migration
import TypeDBDriver.Lib.Transition
import TypeDBDriver.Server.Change
import TypeDBDriver.Server.Outside

/-!
# Importing a database from a file

One attempt is an interleaving of the caller that reads the file, the dispatch worker, the task
that awaits the server's answer, and the server.

* `Caller`, `Worker`, `Listener`, `ResultSlot`, `ImportState`: where each of them stands, the queue
  between caller and worker, and what was handed to gRPC.
* `importSystem`: all interleavings; the server acknowledges only after it received `Done`.
* `importFromFile`: the attempts under the failover loop.
* `ImportPrefix`, `Complete`: the messages are a prefix of what they have to be, and all of it.
* **`importFromFile_sends_whole_file`**: in every state they are a prefix, and a successful import
  sent all of it and was acknowledged.
-/

namespace TypeDBDriver.Migration

open Transition ChunkedReader

inductive DatabaseImportRequest (M : Type)
  | initial (name schema : String)
  | itemPart (items : List M)
  | done
  deriving DecidableEq

def itemBatchSize : ℕ := 250

/-- Where the importing caller stands. In `checking` and `sending`, `rest` is the iterator to go on
with after an item part, and `none` for the last one. -/
inductive Caller (M : Type)
  /-- about to ask for the next item -/
  | reading (it : ProtoMessageIterator M) (itemBuffer : List M)
  /-- in `single`: about to check for an early result -/
  | checking (req : DatabaseImportRequest M) (rest : Option (ProtoMessageIterator M))
  /-- in `single`: about to send the request to the worker -/
  | sending (req : DatabaseImportRequest M) (rest : Option (ProtoMessageIterator M))
  /-- in `wait_done` -/
  | waiting
  | returned (res : Result Unit)
  | panicked

/-- Where the dispatch loop stands. -/
inductive Worker
  /-- about to look for a shutdown signal -/
  | top
  /-- about to look for a request -/
  | dispatching
  | exited
  deriving DecidableEq

/-- Where the task that awaits the answer stands. -/
inductive Listener
  | listening
  /-- the result is set: about to signal the shutdown -/
  | finished
  | stopped
  deriving DecidableEq

/-- The one-shot channel of the result. -/
inductive ResultSlot
  | empty
  | full (res : Result Unit)
  | closed

structure ImportState (M : Type) where
  caller : Caller M
  /-- requests on their way to the worker -/
  queue : List (DatabaseImportRequest M)
  /-- signals on their way to the worker -/
  shutdown : ℕ
  worker : Worker
  /-- the messages handed to gRPC -/
  handed : List (DatabaseImportRequest M)
  /-- whether gRPC still takes messages -/
  streamOpen : Bool
  listener : Listener
  result : ResultSlot
  /-- ghost: the requests that the caller sent to the worker -/
  sent : List (DatabaseImportRequest M)
  /-- ghost: whether the server answered with success -/
  acknowledged : Bool

namespace ImportState

variable {M : Type} [Message M]

/-- The attempt after the stream was opened, with the initial request handed over. -/
def initial (name schema : String) (reader : Reader) : ImportState M where
  caller := .reading (.new reader) []
  queue := []
  shutdown := 0
  worker := .top
  handed := [.initial name schema]
  streamOpen := true
  listener := .listening
  result := .empty
  sent := []
  acknowledged := false

/-- The caller returns: the transmitter is dropped, and its guard signals the shutdown. -/
def leave (s : ImportState M) (caller : Caller M) : ImportState M :=
  { s with caller, shutdown := s.shutdown + 1 }

/-- What the caller does with what the iterator yields. -/
def readItem (itemBuffer : List M) :
    Next M × ProtoMessageIterator M → ImportState M → ImportState M
  | (.item (.ok item), it), s =>
    let itemBuffer := itemBuffer ++ [item]
    if itemBatchSize ≤ itemBuffer.length then
      { s with caller := .checking (.itemPart itemBuffer) (some it) }
    else { s with caller := .reading it itemBuffer }
  | (.item (.error e), _), s => s.leave (.returned (.error e))
  | (.panicked, _), s => s.leave .panicked
  | (.done, _), s =>
    if itemBuffer.isEmpty then { s with caller := .checking .done none }
    else { s with caller := .checking (.itemPart itemBuffer) none }

/-- `check_early_result`: an answer before `Done` was sent is an error. -/
def checkEarlyResult : ResultSlot → Result Unit
  | .full (.ok ()) => .error (.connection .databaseImportStreamUnexpectedResponse)
  | .full (.error err) => .error err
  | .closed => .error (.connection .databaseImportChannelIsClosed)
  | .empty => .ok ()

/-- Where the caller goes on after a request was sent. -/
def afterSend : DatabaseImportRequest M → Option (ProtoMessageIterator M) → Caller M
  | .done, _ => .waiting
  | _, some it => .reading it []
  | _, none => .checking .done none

def callerStep [Memory] (s : ImportState M) : Option (ImportState M) :=
  match s.caller with
  | .reading it itemBuffer => some (readItem itemBuffer it.next s)
  | .checking req rest =>
    match checkEarlyResult s.result with
    | .ok () => some { s with caller := .sending req rest }
    | .error err => some (s.leave (.returned (.error err)))
  | .sending req rest =>
    if s.worker = .exited then
      some (s.leave (.returned (.error (.connection .databaseImportChannelIsClosed))))
    else some { s with
      caller := afterSend req rest, queue := s.queue ++ [req], sent := s.sent ++ [req] }
  | .waiting =>
    match s.result with
    | .full res => some (s.leave (.returned res))
    | .closed => some (s.leave (.returned (.error (.connection .databaseImportChannelIsClosed))))
    | .empty => none
  | .returned _ | .panicked => none

def workerStep (s : ImportState M) : Option (ImportState M) :=
  match s.worker with
  | .top =>
    if 0 < s.shutdown then some { s with worker := .exited, shutdown := s.shutdown - 1 }
    else some { s with worker := .dispatching }
  | .dispatching =>
    match s.queue with
    | [] => some { s with worker := .top }
    | req :: queue => some { s with
        worker := .top, queue, handed := if s.streamOpen then s.handed ++ [req] else s.handed }
  | .exited => none

/-- The answer of the server: `none` for the end of the stream. -/
def answered : Option (Result Unit) → Result Unit
  | some res => res
  | none => .error (.connection .databaseImportChannelIsClosed)

end ImportState

inductive ImportAction
  | caller
  | worker
  /-- the listener receives the server's answer -/
  | answer (answer : Option (Result Unit))
  | listenerShutdown
  /-- the runtime drops the listener -/
  | listenerDropped
  /-- the driver is closed by force -/
  | forceClose
  /-- gRPC takes no more messages -/
  | closeStream

open ImportState in
/-- All interleavings of one attempt. -/
def importSystem {M : Type} [Message M] [Memory] (name schema : String) (reader : Reader) :
    System (ImportState M) ImportAction where
  Init s := s = initial name schema reader
  step s
    | .caller => s.callerStep
    | .worker => s.workerStep
    | .answer answer =>
      -- the server acknowledges after it received `Done`
      if s.listener = .listening ∧ (answered answer = .ok () → ∃ req ∈ s.handed, req matches .done)
      then some { s with
        listener := .finished, result := .full (answered answer)
        acknowledged := s.acknowledged || (answered answer).isOk }
      else none
    | .listenerShutdown =>
      if s.listener = .finished then
        some { s with listener := .stopped, shutdown := s.shutdown + 1 }
      else none
    | .listenerDropped =>
      if s.listener = .listening then some { s with listener := .stopped, result := .closed }
      else none
    | .forceClose => some { s with shutdown := s.shutdown + 1 }
    | .closeStream => some { s with streamOpen := false }

/-! ## What has to be sent -/

variable {M : Type}

/-- Every part has between 1 and 250 items. -/
def PartSizes (parts : List (List M)) : Prop :=
  ∀ p ∈ parts, 1 ≤ p.length ∧ p.length ≤ itemBatchSize

/-- The parts hold the items of a file that was read to its end. -/
structure Whole (file : List M × Next M) (parts : List (List M)) : Prop where
  items : parts.flatten = file.1
  ended : file.2 = .done

/-- The messages before `Done`. -/
def messages (name schema : String) (parts : List (List M)) : List (DatabaseImportRequest M) :=
  .initial name schema :: parts.map .itemPart

/-- The messages are a prefix of what has to be sent for a file. -/
def ImportPrefix (name schema : String) (file : List M × Next M)
    (handed : List (DatabaseImportRequest M)) : Prop :=
  ∃ parts, PartSizes parts ∧ parts.flatten <+: file.1 ∧
    (handed = messages name schema parts ∨
      Whole file parts ∧ handed = messages name schema parts ++ [.done])

/-- The messages are all that has to be sent. -/
def Complete (name schema : String) (file : List M × Next M)
    (handed : List (DatabaseImportRequest M)) : Prop :=
  ∃ parts, PartSizes parts ∧ Whole file parts ∧ handed = messages name schema parts ++ [.done]

/-- What the caller has sent: parts of the file, and `Done` after all of them. -/
def SentFits (file : List M × Next M) (parts : List (List M))
    (sent : List (DatabaseImportRequest M)) : Prop :=
  parts.flatten <+: file.1 ∧
    (sent = parts.map .itemPart ∨ Whole file parts ∧ sent = parts.map .itemPart ++ [.done])

theorem PartSizes.take {parts : List (List M)} (h : PartSizes parts) (n : ℕ) :
    PartSizes (parts.take n) := fun p hp => h p (List.mem_of_mem_take hp)

theorem PartSizes.concat {parts : List (List M)} (h : PartSizes parts) {items : List M}
    (hitems : 1 ≤ items.length ∧ items.length ≤ itemBatchSize) : PartSizes (parts ++ [items]) := by
  intro p hp
  rcases List.mem_append.mp hp with hp | hp
  · exact h p hp
  · rw [List.mem_singleton.mp hp]
    exact hitems

theorem flatten_take_isPrefix (parts : List (List M)) (n : ℕ) :
    (parts.take n).flatten <+: parts.flatten := by
  refine ⟨(parts.drop n).flatten, ?_⟩
  rw [← List.flatten_append, List.take_append_drop]

/-- A prefix of the messages of some parts is the messages of some of the parts. -/
theorem messages_of_isPrefix {name schema : String} {parts : List (List M)}
    {handed : List (DatabaseImportRequest M)} (hne : handed ≠ [])
    (h : handed <+: messages name schema parts) :
    ∃ n, handed = messages name schema (parts.take n) := by
  cases handed with
  | nil => exact absurd rfl hne
  | cons req rest =>
    obtain ⟨rfl, hrest⟩ := List.cons_prefix_cons.mp h
    refine ⟨rest.length, ?_⟩
    rw [messages, List.map_take, ← List.prefix_iff_eq_take.mp hrest]

theorem importPrefix_of_isPrefix {name schema : String} {file : List M × Next M}
    {parts : List (List M)} (hsizes : PartSizes parts) {sent : List (DatabaseImportRequest M)}
    (hsent : SentFits file parts sent) {handed : List (DatabaseImportRequest M)}
    (hne : handed ≠ []) (h : handed <+: .initial name schema :: sent) :
    ImportPrefix name schema file handed := by
  obtain ⟨hpre, hsent⟩ := hsent
  have hpart : handed <+: messages name schema parts → ImportPrefix name schema file handed := by
    intro h
    obtain ⟨n, rfl⟩ := messages_of_isPrefix hne h
    exact ⟨parts.take n, hsizes.take n, (flatten_take_isPrefix parts n).trans hpre, .inl rfl⟩
  rcases hsent with rfl | ⟨hwhole, rfl⟩
  · exact hpart h
  · rcases List.prefix_concat_iff.mp (show handed <+: messages name schema parts ++ [.done] from h)
      with h | h
    · exact ⟨parts, hsizes, hpre, .inr ⟨hwhole, h⟩⟩
    · exact hpart h

theorem done_not_mem_messages {name schema : String} {parts : List (List M)} :
    .done ∉ messages name schema parts := by
  simp [messages]

/-! ## The invariant -/

section Invariant

variable [Message M] [Memory]

/-- What a request that is about to be sent says about the file. -/
def RequestFits (file : List M × Next M) (parts : List (List M)) :
    DatabaseImportRequest M → Option (ProtoMessageIterator M) → Prop
  | .initial _ _, _ => False
  | .itemPart items, some it => (1 ≤ items.length ∧ items.length ≤ itemBatchSize) ∧
      (parts ++ [items]).flatten ++ it.fileItems.1 = file.1 ∧ it.fileItems.2 = file.2
  | .itemPart items, none => (1 ≤ items.length ∧ items.length ≤ itemBatchSize) ∧
      Whole file (parts ++ [items])
  | .done, _ => Whole file parts

/-- What the caller's place and the parts sent so far say about the file. -/
def Caller.Fits (file : List M × Next M) (parts : List (List M))
    (sent : List (DatabaseImportRequest M)) : Caller M → Prop
  | reading it itemBuffer => sent = parts.map .itemPart ∧ itemBuffer.length < itemBatchSize ∧
      parts.flatten ++ itemBuffer ++ it.fileItems.1 = file.1 ∧ it.fileItems.2 = file.2
  | checking req rest | sending req rest =>
    sent = parts.map .itemPart ∧ RequestFits file parts req rest
  | waiting | returned (.ok ()) => Whole file parts ∧ sent = parts.map .itemPart ++ [.done]
  | returned (.error _) | panicked => SentFits file parts sent

theorem RequestFits.flatten_isPrefix {file : List M × Next M} {parts : List (List M)}
    {req : DatabaseImportRequest M} {rest : Option (ProtoMessageIterator M)}
    (h : RequestFits file parts req rest) : parts.flatten <+: file.1 := by
  cases req with
  | initial => cases h
  | itemPart items =>
    have hconcat : parts.flatten <+: (parts ++ [items]).flatten := by
      rw [List.flatten_append]
      exact List.prefix_append _ _
    cases rest with
    | some it => exact hconcat.trans ⟨_, h.2.1⟩
    | none => exact hconcat.trans (h.2.items ▸ List.prefix_rfl)
  | done => exact h.items ▸ List.prefix_rfl

/-- After a request was sent, it is one of the parts sent, or `Done`. -/
theorem RequestFits.afterSend {file : List M × Next M} {parts : List (List M)}
    {req : DatabaseImportRequest M} {rest : Option (ProtoMessageIterator M)}
    (h : RequestFits file parts req rest) (hsizes : PartSizes parts)
    {sent : List (DatabaseImportRequest M)} (hsent : sent = parts.map .itemPart) :
    ∃ parts, PartSizes parts ∧
      (ImportState.afterSend req rest).Fits file parts (sent ++ [req]) := by
  subst hsent
  cases req with
  | initial => cases h
  | itemPart items =>
    have hmap : parts.map DatabaseImportRequest.itemPart ++ [.itemPart items] =
        (parts ++ [items]).map .itemPart := by
      rw [List.map_append, List.map_singleton]
    cases rest with
    | some it =>
      refine ⟨parts ++ [items], hsizes.concat h.1, hmap, Nat.succ_pos _, ?_, h.2.2⟩
      rw [List.append_nil]
      exact h.2.1
    | none => exact ⟨parts ++ [items], hsizes.concat h.1, hmap, h.2⟩
  | done => exact ⟨parts, hsizes, h, rfl⟩

theorem Caller.Fits.sentFits {file : List M × Next M} {parts : List (List M)}
    {sent : List (DatabaseImportRequest M)} {caller : Caller M}
    (h : caller.Fits file parts sent) : SentFits file parts sent := by
  cases caller with
  | reading it itemBuffer =>
    refine ⟨⟨itemBuffer ++ it.fileItems.1, ?_⟩, .inl h.1⟩
    rw [← List.append_assoc]
    exact h.2.2.1
  | checking req rest | sending req rest => exact ⟨h.2.flatten_isPrefix, .inl h.1⟩
  | waiting => exact ⟨h.1.items ▸ List.prefix_rfl, .inr h⟩
  | panicked => exact h
  | returned res =>
    cases res with
    | ok v => exact ⟨h.1.items ▸ List.prefix_rfl, .inr h⟩
    | error e => exact h

structure ImportState.Invariant (name schema : String) (file : List M × Next M)
    (s : ImportState M) : Prop where
  /-- the caller is where the file and the parts sent put it -/
  fits : ∃ parts, PartSizes parts ∧ s.caller.Fits file parts s.sent
  /-- what was sent is handed over or queued, but for what gRPC no longer took -/
  flow : ∃ lost, .initial name schema :: s.sent = s.handed ++ lost ++ s.queue ∧
    (s.streamOpen = true → lost = [])
  started : s.handed ≠ []
  acked : s.acknowledged = true → .done ∈ s.handed
  result : s.result = .full (.ok ()) → s.acknowledged = true
  returned : s.caller = .returned (.ok ()) → s.acknowledged = true

namespace ImportState

variable {name schema : String} {file : List M × Next M} {s s' : ImportState M}

/-- The caller moves on, without sending. -/
theorem Invariant.move (hs : s.Invariant name schema file) {caller : Caller M} {shutdown : ℕ}
    {parts : List (List M)} (hsizes : PartSizes parts) (hfits : caller.Fits file parts s.sent)
    (hreturned : caller = .returned (.ok ()) → s.acknowledged = true) :
    { s with caller, shutdown }.Invariant name schema file where
  fits := ⟨parts, hsizes, hfits⟩
  flow := hs.flow
  started := hs.started
  acked := hs.acked
  result := hs.result
  returned := hreturned

/-- The caller returns an error or panics. -/
theorem Invariant.fail (hs : s.Invariant name schema file) {caller : Caller M}
    (hcaller : caller = .panicked ∨ ∃ e, caller = .returned (.error e)) :
    (s.leave caller).Invariant name schema file := by
  obtain ⟨parts, hsizes, hfits⟩ := hs.fits
  rcases hcaller with rfl | ⟨e, rfl⟩
  · exact hs.move hsizes hfits.sentFits nofun
  · exact hs.move hsizes hfits.sentFits nofun

theorem Invariant.readItem (hs : s.Invariant name schema file) {it : ProtoMessageIterator M}
    {itemBuffer : List M} (hcaller : s.caller = .reading it itemBuffer) :
    (readItem itemBuffer it.next s).Invariant name schema file := by
  obtain ⟨parts, hsizes, hfits⟩ := hs.fits
  rw [hcaller] at hfits
  obtain ⟨hsent, hlen, hitems, hend⟩ := hfits
  rcases hn : it.next with ⟨last, it'⟩
  cases last with
  | panicked => exact hs.fail (.inl rfl)
  | done =>
    have hfile := ProtoMessageIterator.fileItems_of_end hn nofun
    rw [hfile, List.append_nil] at hitems
    rw [hfile] at hend
    unfold ImportState.readItem
    dsimp only
    split_ifs with hempty
    · rw [List.isEmpty_iff.mp hempty, List.append_nil] at hitems
      exact hs.move hsizes ⟨hsent, hitems, hend.symm⟩ nofun
    · refine hs.move hsizes ⟨hsent, ⟨?_, Nat.le_of_lt hlen⟩, ?_, hend.symm⟩ nofun
      · exact List.length_pos_iff.mpr fun h => hempty (List.isEmpty_iff.mpr h)
      · rw [List.flatten_append, List.flatten_singleton]
        exact hitems
  | item res =>
    cases res with
    | error e => exact hs.fail (.inr ⟨e, rfl⟩)
    | ok item =>
      have hfile := ProtoMessageIterator.fileItems_of_item hn
      rw [hfile, ← List.singleton_append, ← List.append_assoc, List.append_assoc parts.flatten]
        at hitems
      rw [hfile] at hend
      have hlen' : (itemBuffer ++ [item]).length = itemBuffer.length + 1 := by simp
      unfold ImportState.readItem
      dsimp only
      split_ifs with hfull
      · refine hs.move hsizes ⟨hsent, ⟨by omega, by omega⟩, ?_, hend⟩ nofun
        rw [List.flatten_append, List.flatten_singleton]
        exact hitems
      · exact hs.move hsizes ⟨hsent, by omega, hitems, hend⟩ nofun

omit [Message M] [Memory] in
theorem afterSend_ne_returned (req : DatabaseImportRequest M)
    (rest : Option (ProtoMessageIterator M)) {res : Result Unit} :
    afterSend req rest ≠ .returned res := by
  unfold afterSend
  split <;> nofun

theorem Invariant.callerStep (hs : s.Invariant name schema file) (h : s.callerStep = some s') :
    s'.Invariant name schema file := by
  unfold ImportState.callerStep at h
  split at h
  · rename_i it itemBuffer hcaller
    obtain rfl := Option.some.inj h
    exact hs.readItem hcaller
  · rename_i req rest hcaller
    split at h
    · obtain rfl := Option.some.inj h
      obtain ⟨parts, hsizes, hfits⟩ := hs.fits
      rw [hcaller] at hfits
      exact hs.move hsizes hfits nofun
    · rename_i e _
      obtain rfl := Option.some.inj h
      exact hs.fail (.inr ⟨e, rfl⟩)
  · rename_i req rest hcaller
    split_ifs at h
    · obtain rfl := Option.some.inj h
      exact hs.fail (.inr ⟨_, rfl⟩)
    · obtain rfl := Option.some.inj h
      obtain ⟨parts, hsizes, hfits⟩ := hs.fits
      obtain ⟨lost, hflow, hopen⟩ := hs.flow
      rw [hcaller] at hfits
      obtain ⟨hsent, hreq⟩ := hfits
      refine ⟨hreq.afterSend hsizes hsent, ⟨lost, ?_, hopen⟩, hs.started, hs.acked, hs.result, ?_⟩
      · rw [← List.append_assoc, ← hflow, List.cons_append]
      · exact fun h => absurd h (afterSend_ne_returned req rest)
  · rename_i hcaller
    split at h
    · rename_i res hres
      obtain rfl := Option.some.inj h
      cases res with
      | error e => exact hs.fail (.inr ⟨e, rfl⟩)
      | ok v =>
        obtain ⟨parts, hsizes, hfits⟩ := hs.fits
        rw [hcaller] at hfits
        exact hs.move hsizes hfits fun _ => hs.result hres
    · obtain rfl := Option.some.inj h
      exact hs.fail (.inr ⟨_, rfl⟩)
    · cases h
  · cases h
  · cases h

theorem Invariant.workerStep (hs : s.Invariant name schema file) (h : s.workerStep = some s') :
    s'.Invariant name schema file := by
  unfold ImportState.workerStep at h
  split at h
  · split_ifs at h <;> obtain rfl := Option.some.inj h
    · exact ⟨hs.fits, hs.flow, hs.started, hs.acked, hs.result, hs.returned⟩
    · exact ⟨hs.fits, hs.flow, hs.started, hs.acked, hs.result, hs.returned⟩
  · split at h
    · obtain rfl := Option.some.inj h
      exact ⟨hs.fits, hs.flow, hs.started, hs.acked, hs.result, hs.returned⟩
    · rename_i req queue hqueue
      obtain rfl := Option.some.inj h
      obtain ⟨lost, hflow, hopen⟩ := hs.flow
      rw [hqueue, List.append_cons] at hflow
      refine ⟨hs.fits, ?_, ?_, fun hack => ?_, hs.result, hs.returned⟩
      · dsimp only
        split_ifs with hstream
        · refine ⟨[], ?_, fun _ => rfl⟩
          rw [hopen hstream, List.append_nil] at hflow
          rw [List.append_nil]
          exact hflow
        · refine ⟨lost ++ [req], ?_, fun h => absurd h hstream⟩
          rw [← List.append_assoc s.handed]
          exact hflow
      · dsimp only
        split_ifs
        · simp
        · exact hs.started
      · dsimp only
        split_ifs
        · exact List.mem_append_left _ (hs.acked hack)
        · exact hs.acked hack
  · cases h

theorem Invariant.step {reader : Reader} (hs : s.Invariant name schema file) {a : ImportAction}
    (h : (importSystem name schema reader).step s a = some s') :
    s'.Invariant name schema file := by
  cases a with
  | caller => exact hs.callerStep h
  | worker => exact hs.workerStep h
  | answer answer =>
    simp only [importSystem] at h
    split_ifs at h with hg
    obtain rfl := Option.some.inj h
    have hdone : (answered answer).isOk = true → .done ∈ s.handed := by
      intro hok
      have hans : answered answer = .ok () := by
        rcases hans : answered answer with e | v
        · rw [hans] at hok
          cases hok
        · rfl
      obtain ⟨req, hreq, hmatch⟩ := hg.2 hans
      cases req with
      | done => exact hreq
      | _ => cases hmatch
    refine ⟨hs.fits, hs.flow, hs.started, fun hack => ?_, fun hres => ?_, fun hret => ?_⟩
    · rcases Bool.or_eq_true_iff.mp hack with hack | hok
      · exact hs.acked hack
      · exact hdone hok
    · rw [ResultSlot.full.inj hres]
      exact Bool.or_true _
    · exact Bool.or_eq_true_iff.mpr (.inl (hs.returned hret))
  | listenerShutdown =>
    simp only [importSystem] at h
    split_ifs at h
    obtain rfl := Option.some.inj h
    exact ⟨hs.fits, hs.flow, hs.started, hs.acked, hs.result, hs.returned⟩
  | listenerDropped =>
    simp only [importSystem] at h
    split_ifs at h
    obtain rfl := Option.some.inj h
    exact ⟨hs.fits, hs.flow, hs.started, hs.acked, nofun, hs.returned⟩
  | forceClose =>
    obtain rfl := Option.some.inj h
    exact ⟨hs.fits, hs.flow, hs.started, hs.acked, hs.result, hs.returned⟩
  | closeStream =>
    obtain rfl := Option.some.inj h
    obtain ⟨lost, hflow, -⟩ := hs.flow
    exact ⟨hs.fits, ⟨lost, hflow, nofun⟩, hs.started, hs.acked, hs.result, hs.returned⟩

theorem initial_invariant (reader : Reader) :
    (initial name schema reader : ImportState M).Invariant name schema
      (ProtoMessageIterator.new reader : ProtoMessageIterator M).fileItems where
  fits := ⟨[], nofun, rfl, Nat.succ_pos _, rfl, rfl⟩
  flow := ⟨[], rfl, fun _ => rfl⟩
  started := nofun
  acked := nofun
  result := nofun
  returned := nofun

theorem Invariant.handed_isPrefix (hs : s.Invariant name schema file) :
    s.handed <+: .initial name schema :: s.sent := by
  obtain ⟨lost, hflow, -⟩ := hs.flow
  exact ⟨lost ++ s.queue, by rw [hflow, List.append_assoc]⟩

/-- The messages are a prefix of what has to be sent. -/
theorem Invariant.importPrefix (hs : s.Invariant name schema file) :
    ImportPrefix name schema file s.handed := by
  obtain ⟨parts, hsizes, hfits⟩ := hs.fits
  exact importPrefix_of_isPrefix hsizes hfits.sentFits hs.started hs.handed_isPrefix

/-- When the caller has returned with success, the messages are all that has to be sent. -/
theorem Invariant.complete (hs : s.Invariant name schema file)
    (hret : s.caller = .returned (.ok ())) :
    Complete name schema file s.handed ∧ s.acknowledged = true := by
  have hack := hs.returned hret
  obtain ⟨parts, hsizes, hpre, hhanded⟩ := hs.importPrefix
  rcases hhanded with hhanded | ⟨hwhole, hhanded⟩
  · have hdone := hs.acked hack
    rw [hhanded] at hdone
    exact absurd hdone done_not_mem_messages
  · exact ⟨⟨parts, hsizes, hwhole, hhanded⟩, hack⟩

theorem invariant_of_reachable {reader : Reader}
    (h : (importSystem name schema reader : System (ImportState M) ImportAction).Reachable s) :
    s.Invariant name schema (ProtoMessageIterator.new reader : ProtoMessageIterator M).fileItems := by
  refine Reaches.invariant _ (fun s hs => ?_) (fun s a t hs _ hstep => hs.step hstep) h
  obtain rfl := hs
  exact initial_invariant reader

end ImportState

end Invariant

/-! ## The import -/

variable [Message M]

/-- The state outside the manager, with a record of the attempts. -/
structure ImportWorld (ν M : Type) where
  network : ν
  /-- ghost: the reader and the last state of each attempt that opened a stream -/
  attempts : List (Reader × ImportState M)

/-- A network that knows nothing of the attempts. -/
def importNetwork {ν : Type} (net : Network ν) : Network (ImportWorld ν M) where
  openConnection a s :=
    let (res, network) := net.openConnection a s.network
    (res, { s with network })
  serversAll c s :=
    let (res, network) := net.serversAll c s.network
    (res, { s with network })
  hashOrder s := net.hashOrder s.network

/-- What the rest of the world does during an attempt: opening the file, the import request, and
the interleaving of the steps from then on. -/
structure ImportScript (ν : Type) where
  tryOpenImportFile : ν → Result Reader × ν
  importDatabase : ServerConnection → ν → Result Unit × ν
  steps : ServerConnection → ν → List ImportAction × ν

/-- What an attempt returned; one that is cut off before it returns is an error that nobody sees. -/
def ImportState.outcome (s : ImportState M) : Result Unit :=
  match s.caller with
  | .returned res => res
  | _ => .error (.other "not returned")

/-- The task that an import executes. -/
def importTask [Memory] {ν : Type} (name schema : String) (script : ImportScript ν) :
    Task (ImportWorld ν M) Unit := fun connection w =>
  match script.tryOpenImportFile w.network with
  | (.error e, network) => (.error e, { w with network })
  | (.ok reader, network) =>
    match script.importDatabase connection network with
    | (.error e, network) => (.error e, { w with network })
    | (.ok (), network) =>
      let (steps, network) := script.steps connection network
      let s := (importSystem name schema reader).runAll (.initial name schema reader) steps
      (s.outcome, { network, attempts := w.attempts ++ [(reader, s)] })

def importFromFile [Memory] {ν : Type} (net : Network ν) (name schema : String) (script : ImportScript ν)
    (w : World (ImportWorld ν M)) : Result Unit × World (ImportWorld ν M) :=
  w.execute (importNetwork net) .auto (importTask name schema script).lift

/-- The reader comes from opening the import file. -/
def ImportScript.Opens {ν : Type} (script : ImportScript ν) (reader : Reader) : Prop :=
  ∃ network, (script.tryOpenImportFile network).1 = .ok reader

section Import

variable [Memory]

theorem importTask_ok {ν : Type} {name schema : String} {script : ImportScript ν}
    {c : ServerConnection} {w w' : ImportWorld ν M}
    (h : importTask name schema script c w = (.ok (), w')) :
    ∃ reader s, script.Opens reader ∧ (reader, s) ∈ w'.attempts.getLast? ∧
      (importSystem name schema reader).Reachable s ∧ s.caller = .returned (.ok ()) := by
  unfold importTask at h
  split at h
  · cases h
  · rename_i reader network hopen
    split at h
    · cases h
    · rename_i network' _
      dsimp only at h
      obtain ⟨hout, rfl⟩ := Prod.mk.inj h
      refine ⟨reader, (importSystem name schema reader).runAll (.initial name schema reader)
        (script.steps c network').1, ⟨w.network, congrArg Prod.fst hopen⟩, by simp, reaches_runAll (fun _ _ => trivial) (.init rfl), ?_⟩
      unfold ImportState.outcome at hout
      split at hout
      · rename_i hcaller
        rw [hcaller, hout]
      · cases hout

/-- For a file as the exporter writes it, all that has to be sent is what was exported. -/
theorem Complete.of_export_file [LawfulMessage M] {name schema : String} {ms : List M}
    {reader : Reader} (hfile : reader.rest = encodeAll ms) (hr : reader.Faultless)
    {handed : List (DatabaseImportRequest M)}
    (h : Complete name schema (ProtoMessageIterator.new reader : ProtoMessageIterator M).fileItems
      handed) :
    ∃ parts, PartSizes parts ∧ parts.flatten = ms ∧
      handed = messages name schema parts ++ [.done] := by
  obtain ⟨parts, hsizes, hwhole, rfl⟩ := h
  refine ⟨parts, hsizes, ?_, rfl⟩
  have hitems := hwhole.items
  rw [ProtoMessageIterator.fileItems_of_pending ms (.new reader) hr hfile] at hitems
  exact hitems

/-- **An import sends the whole file, once, in order**: at any time of an attempt the messages
handed to gRPC are a prefix of the initial request, parts of 1 to 250 items in file order, and
`Done` after all items of a file that was read to its end; and an import that succeeds handed over
all of that in its last attempt, and the server acknowledged it. If the bytes of the file that it
opened are those of an export, the parts are what was exported. -/
theorem importFromFile_sends_whole_file {ν : Type} (net : Network ν) (name schema : String)
    (script : ImportScript ν) :
    (∀ (reader : Reader) (s : ImportState M), (importSystem name schema reader).Reachable s →
      ImportPrefix name schema (ProtoMessageIterator.new reader : ProtoMessageIterator M).fileItems
        s.handed) ∧
    ∀ w w' : World (ImportWorld ν M), importFromFile net name schema script w = (.ok (), w') →
      ∃ reader s, script.Opens reader ∧ (reader, s) ∈ w'.outside.state.attempts.getLast? ∧
        (importSystem name schema reader).Reachable s ∧
        Complete name schema (ProtoMessageIterator.new reader : ProtoMessageIterator M).fileItems
          s.handed ∧ s.acknowledged = true ∧
        ∀ ms : List M, LawfulMessage M → reader.rest = encodeAll ms → reader.Faultless →
          ∃ parts, PartSizes parts ∧ parts.flatten = ms ∧
            s.handed = messages name schema parts ++ [.done] := by
  refine ⟨fun reader s h => (ImportState.invariant_of_reachable h).importPrefix, ?_⟩
  intro w w' h
  obtain ⟨c, w₀, htask⟩ := World.execute_ok h
  obtain ⟨reader, s, hopens, hs, hreach, hret⟩ := importTask_ok (World.Task.lift_eq htask)
  obtain ⟨hcomplete, hack⟩ := (ImportState.invariant_of_reachable hreach).complete hret
  exact ⟨reader, s, hopens, hs, hreach, hcomplete, hack,
    fun ms _ hfile hr => hcomplete.of_export_file hfile hr⟩

end Import

/-! ## A file of two items -/

/-- A file that is read three bytes at a time, and a worker that sends at once. -/
def twoItemsScript : ImportScript Unit where
  tryOpenImportFile _ := (.ok ⟨[2, 8, 1, 0], fun _ => .atMost 3⟩, ())
  importDatabase _ _ := (.ok (), ())
  steps _ _ := ([.caller, .caller, .caller, .caller, .caller, .worker, .worker, .caller, .caller,
    .worker, .worker, .answer (some (.ok ())), .caller], ())

def twoItemsNetwork : Network Unit where
  openConnection _ _ := (.ok [], ())
  serversAll _ _ := (.ok [], ())
  hashOrder _ := ⟨id, List.Perm.refl⟩

/-- A manager that knows one server, which is no cluster. -/
def twoItemsWorld : World (ImportWorld Unit Bool) where
  manager :=
    { configuredAddresses := .direct [{ authority := "localhost:1729" }]
      replicas := ⟨[.fromPrivate { authority := "localhost:1729" } none], List.nodup_singleton _⟩
      replicaConnections := ∅
      addressTranslation := .mapping ∅
      primaryFailoverRetries := 1 }
  outside := ⟨⟨(), []⟩, 0⟩
  taskRuns := []
  cachedReplies := []

theorem importFromFile_two_items : ∃ s : ImportState Bool, s.acknowledged = true ∧
    ∃ parts, PartSizes parts ∧ parts.flatten = [true, false] ∧
      s.handed = messages "name" "schema" parts ++ [.done] := by
  let _ : Memory := .sixteenGiB
  have hok : (@importFromFile Bool _ .sixteenGiB _ twoItemsNetwork "name" "schema" twoItemsScript
    twoItemsWorld).1.isOk = true := by decide +kernel
  rcases himport : importFromFile twoItemsNetwork "name" "schema" twoItemsScript twoItemsWorld
    with ⟨e | v, w⟩
  · rw [himport] at hok
    cases hok
  · obtain ⟨reader, s, ⟨network, hopens⟩, -, -, -, hack, hparts⟩ :=
      (importFromFile_sends_whole_file twoItemsNetwork "name" "schema" twoItemsScript).2
        twoItemsWorld w himport
    obtain rfl := Except.ok.inj hopens
    exact ⟨s, hack, hparts [true, false] inferInstance (by decide +kernel) fun _ => by simp⟩

end TypeDBDriver.Migration
