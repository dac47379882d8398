import TypeDBDriver.Database.Export
import TypeDBDriver.Lib.Transition
import TypeDBDriver.Network.Status

/-!
# The stream of an export

A task on the driver's runtime listens to the server and sends what it receives to a consumer on
another thread, which writes it to the files and drops the stream when it is done or has failed.

* `SourceEvent`, `DatabaseExportResponse.tryFromProto`: what the server's stream yields.
* `ListenerPhase`, `ConsumerPhase`, `ExportTransmission`: the two parties, the channel of responses
  and the channel of shutdown signals.
* `exportSystem`: all interleavings of the listener, the consumer, the server and a shutdown.
* `received_append_queue`: no response is lost, doubled or reordered.
* `finished_eq_exportLoop`: a consumer that was never refused a write ends as the writer loop does
  on what it received.
* **`listenerSafe_iff`**: the listener neither panics nor waits on for a stream that is gone,
  exactly when no message and no status arrives after the stream was dropped.
-/

namespace TypeDBDriver.Migration

open Transition (System)

/-! ## What the server sends -/

/-- `migration::export::Server` -/
inductive ExportServer (M : Type)
  | initialRes (schema : String)
  | resPart (items : List M)
  | done

/-- What the server's stream yields: a message, which may lack its fields, the status of the failed
call, or nothing more. -/
inductive SourceEvent (M : Type)
  | message (proto : Option (Option (ExportServer M)))
  | status (status : Status)
  | ended

inductive DatabaseExportResponse (M : Type)
  | schema (schema : String)
  | items (items : List M)
  | done

variable {M : Type}

def DatabaseExportResponse.tryFromProto :
    Option (Option (ExportServer M)) → Result (DatabaseExportResponse M)
  | some (some (.initialRes schema')) => .ok (.schema schema')
  | some (some (.resPart items')) => .ok (.items items')
  | some (some .done) => .ok .done
  | some none => .error (.connection (.missingResponseField "server"))
  | none => .error (.connection (.missingResponseField "server"))

/-- `DatabaseExportStream::next` -/
def exportStreamNext : Option (Result (DatabaseExportResponse M)) → Result (DatabaseExportAnswer M)
  | none => .error (.connection .databaseExportStreamNoResponse)
  | some (.error err) => .error err
  | some (.ok (.schema schema)) => .ok (.schema schema)
  | some (.ok (.items items)) => .ok (.items items)
  | some (.ok .done) => .ok .done

/-! ## The two parties -/

/-- Where the task of the listener stands. -/
inductive ListenerPhase
  /-- it has not been polled yet -/
  | spawned
  /-- about to look for a shutdown signal -/
  | checking
  /-- waiting for the server's stream -/
  | waiting
  | stopped
  /-- the runtime ended, and the task with it -/
  | cancelled
  | panicked
  deriving DecidableEq

/-- The task is over, and its end of the channel of responses is dropped. -/
def ListenerPhase.isOver : ListenerPhase → Bool
  | spawned | checking | waiting => false
  | stopped | cancelled | panicked => true

/-- Where the export task stands, which holds the stream. -/
inductive ConsumerPhase
  /-- the stream is not handed out yet -/
  | opening
  /-- in the loop -/
  | reading
  /-- what was read last ended the loop -/
  | finished (result : Result Unit)
  /-- a file could not be written -/
  | writeFailed (error : Error)
  /-- the future of the export was dropped -/
  | abandoned

/-- The stream is dropped. -/
def ConsumerPhase.isDropped : ConsumerPhase → Bool
  | opening | reading => false
  | finished _ | writeFailed _ | abandoned => true

structure ExportTransmission (M : Type) where
  listener : ListenerPhase
  consumer : ConsumerPhase
  /-- the channel of responses -/
  queue : List (Result (DatabaseExportResponse M))
  /-- the shutdown signals not taken yet -/
  shutdownSignals : ℕ
  /-- the connection holds a clone of the shutdown sender -/
  registered : Bool
  /-- ghost: what was sent to the channel, and what the consumer took from it -/
  sent : List (Result (DatabaseExportResponse M))
  received : List (Result (DatabaseExportResponse M))
  /-- ghost: a shutdown signal was sent, or the runtime ended -/
  shutDown : Bool
  /-- ghost: something arrived after the stream was dropped or shut down -/
  arrivedAfter : Bool

namespace ExportTransmission

/-! ## The listener -/

/-- The start of a round of `listen_loop`. -/
def tryRecvShutdown (s : ExportTransmission M) : ExportTransmission M :=
  match s.shutdownSignals with
  | 0 => { s with listener := .waiting }
  | shutdownSignals + 1 => { s with shutdownSignals, listener := .stopped }

/-- `expect` panics when the receiver is gone. -/
def send (s : ExportTransmission M) (response : Result (DatabaseExportResponse M))
    (next : ListenerPhase) : ExportTransmission M :=
  if s.consumer.isDropped then { s with listener := .panicked }
  else { s with queue := s.queue ++ [response], sent := s.sent ++ [response], listener := next }

/-- The rest of a round. -/
def listen (L : UriLibrary) (D : DetailsLibrary) (s : ExportTransmission M) :
    SourceEvent M → ExportTransmission M
  | .message proto => s.send (DatabaseExportResponse.tryFromProto proto) .checking
  | .status status => s.send (.error (Error.fromStatus L D status)) .stopped
  | .ended => { s with listener := .stopped }

/-! ## The consumer -/

/-- A round of the loop of `export_to_file`; `write` is what becomes of its writes, if it comes to
any. -/
def consume (write : Result Unit) : Result (DatabaseExportAnswer M) → ConsumerPhase
  | .error err => .finished (.error err)
  | .ok answer =>
    match write, answer with
    | .error err, _ => .writeFailed err
    | .ok (), .done => .finished (.ok ())
    | .ok (), .schema _ => .reading
    | .ok (), .items _ => .reading

/-- The consumer takes a response, or waits while the listener may still send one. -/
def read (s : ExportTransmission M) (write : Result Unit) : Option (ExportTransmission M) :=
  match s.queue with
  | response :: queue =>
    some { s with
      queue
      received := s.received ++ [response]
      consumer := consume write (exportStreamNext (some response)) }
  | [] =>
    if s.listener.isOver then
      some { s with consumer := consume write (exportStreamNext (none : Option (Result
        (DatabaseExportResponse M)))) }
    else none

end ExportTransmission

/-! ## All interleavings -/

inductive ExportAction (M : Type)
  /-- the listener's task is polled for the first time -/
  | start
  | tryRecvShutdown
  /-- the server's stream yields -/
  | arrive (event : SourceEvent M)
  /-- the shutdown sender is pushed, and the stream handed out -/
  | opened
  | read (write : Result Unit)
  | abandon
  /-- the connection is closed by force -/
  | forceClose
  | runtimeEnds

/-- An export stream, from its transmitter's creation on. -/
def exportSystem (L : UriLibrary) (D : DetailsLibrary) (M : Type) :
    System (ExportTransmission M) (ExportAction M) where
  Init s := s = ⟨.spawned, .opening, [], 0, false, [], [], false, false⟩
  step s
    | .start => if s.listener = .spawned then some { s with listener := .checking } else none
    | .tryRecvShutdown => if s.listener = .checking then some s.tryRecvShutdown else none
    | .arrive event =>
      if s.listener = .waiting then
        some { s.listen L D event with
          arrivedAfter := s.arrivedAfter || s.consumer.isDropped || s.shutDown }
      else none
    | .opened =>
      match s.consumer with
      | .opening => some { s with registered := true, consumer := .reading }
      | _ => none
    | .read write =>
      match s.consumer with
      | .reading => s.read write
      | _ => none
    | .abandon =>
      match s.consumer with
      | .reading => some { s with consumer := .abandoned }
      | _ => none
    | .forceClose =>
      -- the senders are drained
      if s.registered then
        some { s with
          registered := false, shutdownSignals := s.shutdownSignals + 1, shutDown := true }
      else some s
    | .runtimeEnds =>
      match s.listener with
      -- the runtime's thread polls the task until it waits
      | .checking => none
      | .spawned | .waiting => some { s with listener := .cancelled, shutDown := true }
      | .stopped | .cancelled | .panicked => some { s with shutDown := true }

section

variable {L : UriLibrary} {D : DetailsLibrary} {s t : ExportTransmission M} {a : ExportAction M}

variable (L D) in
/-- What a step does. -/
inductive ExportStep (s : ExportTransmission M) : ExportAction M → ExportTransmission M → Prop
  | start (hl : s.listener = .spawned) : ExportStep s .start { s with listener := .checking }
  | wait (hl : s.listener = .checking) (hn : s.shutdownSignals = 0) :
    ExportStep s .tryRecvShutdown { s with listener := .waiting }
  | stop {n : ℕ} (hl : s.listener = .checking) (hn : s.shutdownSignals = n + 1) :
    ExportStep s .tryRecvShutdown { s with shutdownSignals := n, listener := .stopped }
  | message (hl : s.listener = .waiting) (hc : s.consumer.isDropped = false)
      (proto : Option (Option (ExportServer M))) :
    ExportStep s (.arrive (.message proto)) { s with
      queue := s.queue ++ [DatabaseExportResponse.tryFromProto proto]
      sent := s.sent ++ [DatabaseExportResponse.tryFromProto proto]
      listener := .checking
      arrivedAfter := s.arrivedAfter || s.shutDown }
  | status (hl : s.listener = .waiting) (hc : s.consumer.isDropped = false) (status : Status) :
    ExportStep s (.arrive (.status status)) { s with
      queue := s.queue ++ [.error (Error.fromStatus L D status)]
      sent := s.sent ++ [.error (Error.fromStatus L D status)]
      listener := .stopped
      arrivedAfter := s.arrivedAfter || s.shutDown }
  | ended (hl : s.listener = .waiting) :
    ExportStep s (.arrive .ended) { s with
      listener := .stopped
      arrivedAfter := s.arrivedAfter || s.consumer.isDropped || s.shutDown }
  | panic {event : SourceEvent M} (hl : s.listener = .waiting) (hc : s.consumer.isDropped = true)
      (he : event ≠ .ended) :
    ExportStep s (.arrive event) { s with listener := .panicked, arrivedAfter := true }
  | opened (hc : s.consumer = .opening) :
    ExportStep s .opened { s with registered := true, consumer := .reading }
  | take {response : Result (DatabaseExportResponse M)}
      {queue : List (Result (DatabaseExportResponse M))} (hc : s.consumer = .reading)
      (hq : s.queue = response :: queue) (write : Result Unit) :
    ExportStep s (.read write) { s with
      queue
      received := s.received ++ [response]
      consumer := ExportTransmission.consume write (exportStreamNext (some response)) }
  | noResponse (hc : s.consumer = .reading) (hq : s.queue = []) (hl : s.listener.isOver = true)
      (write : Result Unit) :
    ExportStep s (.read write) { s with
      consumer := .finished (.error (.connection .databaseExportStreamNoResponse)) }
  | abandon (hc : s.consumer = .reading) : ExportStep s .abandon { s with consumer := .abandoned }
  | forceClose (hr : s.registered = true) :
    ExportStep s .forceClose { s with
      registered := false, shutdownSignals := s.shutdownSignals + 1, shutDown := true }
  | forceCloseOther (hr : s.registered = false) : ExportStep s .forceClose s
  | cancel (hl : s.listener = .spawned ∨ s.listener = .waiting) :
    ExportStep s .runtimeEnds { s with listener := .cancelled, shutDown := true }
  | runtimeEnds (hl : s.listener.isOver = true) :
    ExportStep s .runtimeEnds { s with shutDown := true }

theorem exportStep_of_step (h : (exportSystem L D M).step s a = some t) : ExportStep L D s a t := by
  cases a <;> simp only [exportSystem] at h
  case start =>
    split_ifs at h with hl
    cases h
    exact .start hl
  case tryRecvShutdown =>
    split_ifs at h with hl
    cases h
    unfold ExportTransmission.tryRecvShutdown
    split
    · exact .wait hl ‹_›
    · exact .stop hl ‹_›
  case arrive event =>
    split_ifs at h with hl
    cases h
    cases hc : s.consumer.isDropped with
    | false =>
      cases event with
      | message proto => simpa [ExportTransmission.listen, ExportTransmission.send, hc] using
          ExportStep.message hl hc proto
      | status status => simpa [ExportTransmission.listen, ExportTransmission.send, hc] using
          ExportStep.status hl hc status
      | ended => simpa [ExportTransmission.listen, hc] using ExportStep.ended hl
    | true =>
      cases event with
      | message proto =>
        have hpanic : ExportStep L D s (.arrive (.message proto)) _ := .panic hl hc nofun
        simpa [ExportTransmission.listen, ExportTransmission.send, hc] using hpanic
      | status status =>
        have hpanic : ExportStep L D s (.arrive (.status status)) _ := .panic hl hc nofun
        simpa [ExportTransmission.listen, ExportTransmission.send, hc] using hpanic
      | ended => simpa [ExportTransmission.listen, hc] using ExportStep.ended hl
  case opened =>
    split at h
    · cases h
      exact .opened ‹_›
    · cases h
  case read write =>
    split at h
    · unfold ExportTransmission.read at h
      split at h
      · cases h
        exact .take ‹_› ‹_› write
      · split_ifs at h with hl
        cases h
        exact .noResponse ‹_› ‹_› hl write
    · cases h
  case abandon =>
    split at h
    · cases h
      exact .abandon ‹_›
    · cases h
  case forceClose =>
    split_ifs at h with hr
    · cases h
      exact .forceClose hr
    · cases h
      exact .forceCloseOther (by simpa using hr)
  case runtimeEnds =>
    cases hl : s.listener with
    | checking =>
      rw [hl] at h
      cases h
    | spawned | waiting =>
      rw [hl] at h
      cases h
      exact .cancel (by simp [hl])
    | stopped | cancelled | panicked =>
      rw [hl] at h
      cases h
      rw [← hl]
      exact .runtimeEnds (by rw [hl]; rfl)

/-! ## What the consumer reads -/

/-- **No response is lost, doubled or reordered**, whatever the order of steps. -/
theorem received_append_queue (h : (exportSystem L D M).Reachable s) :
    s.received ++ s.queue = s.sent := by
  refine Transition.Reaches.invariant (fun s => s.received ++ s.queue = s.sent) ?_ ?_ h
  · rintro s rfl
    rfl
  · intro s a t ih _ h
    cases exportStep_of_step h with
    | message | status =>
      dsimp only
      rw [← ih, List.append_assoc]
    | take hc hq =>
      dsimp only
      rw [← ih, hq, List.append_assoc, List.singleton_append]
    | _ => exact ih

/-- How the writer loop ends on answers that can be written. -/
def exportResult : List (Result (DatabaseExportAnswer M)) → Result Unit
  | [] => .error (.connection .databaseExportStreamNoResponse)
  | .error e :: _ => .error e
  | .ok .done :: _ => .ok ()
  | .ok (.schema _) :: answers => exportResult answers
  | .ok (.items _) :: answers => exportResult answers

theorem exportLoop_fst {κ : Type} [DecidableEq κ] [Message M]
    (answers : List (Result (DatabaseExportAnswer M))) :
    ∀ (schemaFile : Files.Handle κ) (dataWriter : Files.BufWriter κ) (received : Attempt M)
      (fs : Files.FileSystem κ),
      (exportLoop answers schemaFile dataWriter received fs).1 = exportResult answers := by
  fun_induction exportResult answers with
  | case1 | case2 | case3 => exact fun _ _ _ _ => rfl
  | case4 schema answers ih | case5 items answers ih => exact fun _ _ _ _ => ih _ _ _ _

/-- What the stream has yielded. -/
def ExportTransmission.answers (s : ExportTransmission M) : List (Result (DatabaseExportAnswer M)) :=
  s.received.map fun response => exportStreamNext (some response)

/-- The consumer is where the writer loop is after what the stream has yielded. -/
structure AsLoop (s : ExportTransmission M) : Prop where
  reading : s.consumer.isDropped = false →
    ∀ rest, exportResult (s.answers ++ rest) = exportResult rest
  finished : ∀ result, s.consumer = .finished result → exportResult s.answers = result

/-- A round of the loop. -/
theorem AsLoop.consume {write : Result Unit} {response : Result (DatabaseExportResponse M)}
    (hs : AsLoop s) (hc : s.consumer = .reading)
    (ht : t.consumer = ExportTransmission.consume write (exportStreamNext (some response)))
    (hreceived : t.received = s.received ++ [response]) : AsLoop t := by
  have hanswers : t.answers = s.answers ++ [exportStreamNext (some response)] := by
    rw [ExportTransmission.answers, hreceived, List.map_append]
    rfl
  have hreading := hs.reading (by rw [hc]; rfl)
  generalize exportStreamNext (some response) = answer at ht hanswers
  cases answer with
  | error e =>
    refine ⟨by rw [ht]; exact nofun, fun result h => ?_⟩
    rw [ht] at h
    cases h
    rw [hanswers, hreading]
    rfl
  | ok answer =>
    cases write with
    | error e =>
      refine ⟨by rw [ht]; exact nofun, fun result h => ?_⟩
      rw [ht] at h
      cases h
    | ok _ =>
      cases answer with
      | done =>
        refine ⟨by rw [ht]; exact nofun, fun result h => ?_⟩
        rw [ht] at h
        cases h
        rw [hanswers, hreading]
        rfl
      | schema _ | items _ =>
        refine ⟨fun _ rest => ?_, fun result h => ?_⟩
        · rw [hanswers, List.append_assoc, hreading]
          rfl
        · rw [ht] at h
          cases h

theorem asLoop (h : (exportSystem L D M).Reachable s) : AsLoop s := by
  refine Transition.Reaches.invariant AsLoop ?_ ?_ h
  · rintro s rfl
    exact ⟨fun _ rest => rfl, nofun⟩
  · intro s a t ih _ h
    cases exportStep_of_step h with
    | take hc hq write => exact ih.consume hc rfl rfl
    | noResponse hc =>
      refine ⟨nofun, fun result h => ?_⟩
      cases h
      have := ih.reading (by rw [hc]; rfl) []
      rw [List.append_nil] at this
      exact this
    | abandon => exact ⟨nofun, nofun⟩
    | opened hc => exact ⟨fun _ => ih.reading (by rw [hc]; rfl), nofun⟩
    | _ => exact ⟨ih.reading, ih.finished⟩

/-- **A consumer whose writes succeed ends as the writer loop** on what it has received. -/
theorem finished_eq_exportLoop {κ : Type} [DecidableEq κ] [Message M] {result : Result Unit}
    (h : (exportSystem L D M).Reachable s) (hc : s.consumer = .finished result)
    (schemaFile : Files.Handle κ) (dataWriter : Files.BufWriter κ) (received : Attempt M)
    (fs : Files.FileSystem κ) :
    (exportLoop s.answers schemaFile dataWriter received fs).1 = result := by
  rw [exportLoop_fst]
  exact (asLoop h).finished _ hc

/-! ## The listener -/

/-- The listener has not panicked, and it does not wait on after something arrived for a stream
that was dropped or shut down: it is over, or about to take a shutdown signal. -/
structure ListenerSafe (s : ExportTransmission M) : Prop where
  noPanic : s.listener ≠ .panicked
  stops : s.arrivedAfter = true →
    s.listener.isOver = true ∨ (s.listener = .checking ∧ 0 < s.shutdownSignals)

/-- Nothing but its end arrives from the server after the stream was dropped. -/
def NothingAfterDrop (s : ExportTransmission M) : ExportAction M → Prop
  | .arrive (.message _) => s.consumer.isDropped = false
  | .arrive (.status _) => s.consumer.isDropped = false
  | _ => True

/-- A shutdown signal stays in the channel until the listener stops. -/
structure Signalled (s : ExportTransmission M) : Prop extends ListenerSafe s where
  signal : s.shutDown = true → s.listener.isOver = true ∨ 0 < s.shutdownSignals

/-- A task that waits has seen nothing arrive in vain. -/
theorem Signalled.arrivedAfter (hs : Signalled s) (hl : s.listener = .waiting) :
    s.arrivedAfter = false := by
  cases h : s.arrivedAfter with
  | false => rfl
  | true =>
    rcases hs.stops h with h | ⟨h, -⟩
    · rw [hl] at h
      cases h
    · rw [hl] at h
      cases h

theorem Signalled.step (hs : Signalled s) (hd : NothingAfterDrop s a) (h : ExportStep L D s a t) :
    Signalled t := by
  cases h with
  | start hl =>
    have hover : s.listener.isOver = false := by rw [hl]; rfl
    refine ⟨⟨by simp, fun h => ?_⟩, fun h => ?_⟩
    · rcases hs.stops h with h | ⟨h, -⟩
      · rw [hover] at h
        cases h
      · rw [hl] at h
        cases h
    · exact (hs.signal h).imp_left fun h => by rw [hover] at h; cases h
  | wait hl hn =>
    have hnone : ¬ (s.listener.isOver = true ∨ 0 < s.shutdownSignals) := by
      rw [hl, hn]
      simp [ListenerPhase.isOver]
    refine ⟨⟨by simp, fun h => ?_⟩, fun h => absurd (hs.signal h) hnone⟩
    exact absurd ((hs.stops h).imp_right And.right) hnone
  | message hl hc proto =>
    have hsignal : s.shutDown = true → 0 < s.shutdownSignals := by
      intro h
      refine (hs.signal h).resolve_left fun h => ?_
      rw [hl] at h
      cases h
    refine ⟨⟨by simp, fun h => .inr ⟨rfl, hsignal ?_⟩⟩, fun h => .inr (hsignal h)⟩
    dsimp only at h
    rw [hs.arrivedAfter hl, Bool.false_or] at h
    exact h
  | panic hl hc he =>
    rename_i event
    cases event with
    | message | status =>
      rw [NothingAfterDrop, hc] at hd
      cases hd
    | ended => exact absurd rfl he
  | stop | status | ended | cancel => exact ⟨⟨by simp, fun _ => .inl rfl⟩, fun _ => .inl rfl⟩
  | opened | take | noResponse | abandon | forceCloseOther =>
    exact ⟨⟨hs.noPanic, hs.stops⟩, hs.signal⟩
  | forceClose =>
    refine ⟨⟨hs.noPanic, fun h => ?_⟩, fun _ => .inr (Nat.succ_pos _)⟩
    exact (hs.stops h).imp_right fun h => ⟨h.1, Nat.succ_pos _⟩
  | runtimeEnds hl => exact ⟨⟨hs.noPanic, fun _ => .inl hl⟩, fun _ => .inl hl⟩

theorem listenerSafe_of_reaches (h : (exportSystem L D M).Reaches NothingAfterDrop s) :
    ListenerSafe s := by
  refine (Transition.Reaches.invariant Signalled ?_ ?_ h).toListenerSafe
  · rintro s rfl
    exact ⟨⟨by simp, nofun⟩, nofun⟩
  · exact fun s a t hs hd h => hs.step hd (exportStep_of_step h)

/-- A step that brings something after the stream was dropped is a panic. -/
theorem ExportStep.panicked (h : ExportStep L D s a t) (hd : ¬ NothingAfterDrop s a) :
    t.listener = .panicked := by
  cases h with
  | panic => rfl
  | message hl hc | status hl hc => exact absurd hc hd
  | _ => exact absurd trivial hd

end

/-- The schema is written to a full disk, the stream is dropped, and the items arrive. -/
def fullDiskRun : List (ExportAction Bool) :=
  [.opened, .start, .tryRecvShutdown, .arrive (.message (some (some (.initialRes "define")))),
    .tryRecvShutdown, .read (.error (.other "No space left on device (os error 28)")),
    .arrive (.message (some (some (.resPart [true]))))]

end TypeDBDriver.Migration
