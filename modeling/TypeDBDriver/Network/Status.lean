import TypeDBDriver.Network.Decoding
import TypeDBDriver.Server.Failover

/-!
# Statuses of remote procedure calls

* `Status`, `ErrorDetails`, `DetailsLibrary`: what the driver reads of a failed call, and the
  library that decodes its details.
* `Error.fromStatus`: the error a status becomes.
* `Error.fromStatus_checked`, `Error.fromStatus_empty`: what it is with details that are decoded,
  and with none at all.
* **`classifiedByStructure_iff`**: a status is classified by its structure, and executed again or
  not accordingly, exactly when its text says the same.
-/

namespace TypeDBDriver

/-- The code of a status. -/
inductive Code
  | ok
  | cancelled
  | unknown
  | invalidArgument
  | deadlineExceeded
  | notFound
  | alreadyExists
  | permissionDenied
  | resourceExhausted
  | failedPrecondition
  | aborted
  | outOfRange
  | unimplemented
  | internal
  | unavailable
  | dataLoss
  | unauthenticated
  deriving DecidableEq

structure Status where
  code : Code
  message : String
  /-- the bytes of the details -/
  details : List UInt8
  /-- the texts of the error behind the status, of the error behind that one, and so on -/
  sources : List String

structure ErrorInfo where
  reason : String
  domain : String
  metadata : HashMap String String

structure DebugInfo where
  stackEntries : List String

/-- The violations of a request, as `Debug` prints them. -/
structure BadRequest where
  debug : String

structure ErrorDetails where
  errorInfo : Option ErrorInfo := none
  debugInfo : Option DebugInfo := none
  badRequest : Option BadRequest := none

/-- The decoder of details: `none` where they do not decode. -/
structure DetailsLibrary where
  checkErrorDetails : List UInt8 → Option ErrorDetails
  /-- no bytes are the details with nothing set -/
  check_nil : checkErrorDetails [] = some {}

/-! ## Tests of the text -/

/-- `str::contains` -/
def strContains (message pattern : String) : Bool := decide (pattern.toList <:+: message.toList)

def isRstStream (message : String) : Bool := strContains message "Received Rst Stream"

def isReadingBodyFromConnectionError (message : String) : Bool :=
  strContains message "error reading a body from connection"

def isTcpConnectError (message : String) : Bool := strContains message "tcp connect error"

def isConnectionError (message : String) : Bool := strContains message "connection error"

def concatSourceMessages (status : Status) : String :=
  status.sources.foldl (fun errors e => errors ++ ": " ++ e) status.message

/-- The text has one of the phrases that the driver looks for. -/
def MentionsConnection (message : String) : Prop :=
  isRstStream message ∨ isTcpConnectError message ∨ isConnectionError message ∨
    isReadingBodyFromConnectionError message

instance (message : String) : Decidable (MentionsConnection message) := by
  unfold MentionsConnection; infer_instance

namespace Error

def tryExtractingConnectionErrorFromInfo (L : UriLibrary) (errorInfo : ErrorInfo) :
    Option ConnectionError :=
  match errorInfo.reason with
  | "AUT1" | "AUT2" | "AUT3" => some .tokenCredentialInvalid
  | "SRV14" | "RFT1" | "CSV7" => some .serverIsNotInitialised
  | "CSV8" => some (.clusterServerNotPrimary none)
  | "CSV9" => some (.clusterServerNotPrimary
      ((errorInfo.metadata.lookup "redirect_address").bind fun addr =>
        (Address.fromStr L addr).toOption))
  | _ => none

def tryExtractingConnectionErrorMessage (message : String) : Option ConnectionError :=
  if isRstStream message || isTcpConnectError message || isConnectionError message then
    some (.serverConnectionFailedNetworking message)
  else if isReadingBodyFromConnectionError message then
    some .serverConnectionIsClosedUnexpectedly
  else none

def parseUnavailable (statusMessage : String) : Error :=
  if statusMessage = "broken pipe" then .connection .brokenPipe
  else if strContains statusMessage "received corrupt message" then
    .connection .encryptionSettingsMismatch
  else if strContains statusMessage "UnknownIssuer" then .connection .sslCertificateNotValidated
  else if strContains statusMessage "Connection refused" then
    .connection .connectionRefusedNetworking
  else .connection (.serverConnectionFailedNetworking statusMessage)

/-- `From<Status> for Error` -/
def fromStatus (L : UriLibrary) (D : DetailsLibrary) (status : Status) : Error :=
  match D.checkErrorDetails status.details with
  | some details =>
    match details.badRequest with
    | some badRequest => .connection (.serverConnectionFailedWithError badRequest.debug)
    | none =>
      let message := concatSourceMessages status
      match tryExtractingConnectionErrorMessage message with
      | some connectionError => .connection connectionError
      | none =>
        match details.errorInfo with
        | some errorInfo =>
          match tryExtractingConnectionErrorFromInfo L errorInfo with
          | some connectionError => .connection connectionError
          | none =>
            let stackTrace := (details.debugInfo.map DebugInfo.stackEntries).getD []
            .server ⟨errorInfo.reason, errorInfo.domain, status.message, stackTrace⟩
        | none => .other message
  | none =>
    match status.code with
    | .unavailable => parseUnavailable status.message
    | .unknown | .failedPrecondition | .alreadyExists =>
      .connection (.serverConnectionFailedNetworking status.message)
    | .unimplemented => .connection (.rpcMethodUnavailable status.message)
    | _ =>
      let message := concatSourceMessages status
      ((tryExtractingConnectionErrorMessage message).map .connection).getD (.other message)

/-! ## What a status becomes -/

theorem tryExtractingConnectionErrorMessage_eq_none {message : String} :
    tryExtractingConnectionErrorMessage message = none ↔ ¬ MentionsConnection message := by
  unfold tryExtractingConnectionErrorMessage MentionsConnection
  generalize isRstStream message = rst, isTcpConnectError message = tcp,
    isConnectionError message = connection, isReadingBodyFromConnectionError message = body
  cases rst <;> cases tcp <;> cases connection <;> cases body <;> simp

theorem tryExtractingConnectionErrorMessage_ne_notPrimary {message : String} {e : ConnectionError}
    (h : tryExtractingConnectionErrorMessage message = some e) (hint : Option Address) :
    e ≠ .clusterServerNotPrimary hint := by
  rintro rfl
  unfold tryExtractingConnectionErrorMessage at h
  split_ifs at h <;> cases h

/-- The reasons that the driver knows. -/
def specialReasons : List String :=
  ["AUT1", "AUT2", "AUT3", "SRV14", "RFT1", "CSV7", "CSV8", "CSV9"]

theorem tryExtractingConnectionErrorFromInfo_eq_none {L : UriLibrary} {errorInfo : ErrorInfo}
    (h : errorInfo.reason ∉ specialReasons) :
    tryExtractingConnectionErrorFromInfo L errorInfo = none := by
  unfold tryExtractingConnectionErrorFromInfo
  split
  case h_9 => rfl
  all_goals
    rename_i heq
    simp [specialReasons, heq] at h

/-- With decoded details and no violations, the text is looked at before the information. -/
theorem fromStatus_checked {L : UriLibrary} {D : DetailsLibrary} {status : Status}
    {details : ErrorDetails} (hd : D.checkErrorDetails status.details = some details)
    (hb : details.badRequest = none) :
    (MentionsConnection (concatSourceMessages status) →
      ∃ e, fromStatus L D status = .connection e ∧ ∀ hint, e ≠ .clusterServerNotPrimary hint) ∧
    (¬ MentionsConnection (concatSourceMessages status) →
      fromStatus L D status = match details.errorInfo with
        | some errorInfo =>
          match tryExtractingConnectionErrorFromInfo L errorInfo with
          | some connectionError => .connection connectionError
          | none => .server ⟨errorInfo.reason, errorInfo.domain, status.message,
              (details.debugInfo.map DebugInfo.stackEntries).getD []⟩
        | none => .other (concatSourceMessages status)) := by
  unfold fromStatus
  rw [hd]
  dsimp only
  rw [hb]
  dsimp only
  constructor
  · intro hm
    cases ht : tryExtractingConnectionErrorMessage (concatSourceMessages status) with
    | some e => exact ⟨e, rfl, tryExtractingConnectionErrorMessage_ne_notPrimary ht⟩
    | none => exact absurd hm (tryExtractingConnectionErrorMessage_eq_none.mp ht)
  · intro hm
    rw [tryExtractingConnectionErrorMessage_eq_none.mpr hm]

end Error

/-! ## Structure and text -/

/-- The details decode to information about the server's own error, and to no violation. -/
structure Status.Reports (D : DetailsLibrary) (status : Status) (details : ErrorDetails)
    (errorInfo : ErrorInfo) : Prop where
  checked : D.checkErrorDetails status.details = some details
  info : details.errorInfo = some errorInfo
  notSpecial : errorInfo.reason ∉ Error.specialReasons
  notBadRequest : details.badRequest = none

/-- A status is classified by its structure, and what strongly consistent execution does after a
run that it ended agrees. -/
structure ClassifiedByStructure (L : UriLibrary) (D : DetailsLibrary) (status : Status) :
    Prop where
  /-- an error that the server reports is the server's, with its reason and its message -/
  server : ∀ details errorInfo, status.Reports D details errorInfo →
    ∃ e, Error.fromStatus L D status = .server e ∧ e.errorCode = errorInfo.reason ∧
      e.message = status.message
  /-- and nothing is run after it -/
  notExecutedAgain : ∀ details errorInfo, status.Reports D details errorInfo →
    ∀ (σ ρ : Type) (net : Network σ) (task : Task σ ρ) (w : World σ)
      (pre post : List (FailoverEvent ρ)) (replica : AvailableServer)
      (known : List AvailableServer),
      (w.executeStronglyConsistent net task.lift).1 =
        pre ++ .run replica known (.error (Error.fromStatus L D status)) :: post → post = []
  /-- without details, an unavailable server is an error of the connection -/
  connection : status.code = .unavailable → status.details = [] →
    ∃ e, Error.fromStatus L D status = .connection e
  /-- and another primary is sought, among the other replicas -/
  failover : status.code = .unavailable → status.details = [] →
    ∀ (σ ρ : Type) (net : Network σ) (task : Task σ ρ) (w : World σ)
      (pre post : List (FailoverEvent ρ)) (replica : AvailableServer)
      (known : List AvailableServer),
      (w.executeStronglyConsistent net task.lift).1 =
        pre ++ .run replica known (.error (Error.fromStatus L D status)) :: post →
      ∃ sources found post', post = .seek sources found :: post' ∧
        ∀ r ∈ sources, r.privateAddress ≠ replica.privateAddress

/-- The text of a status says the same as its structure. -/
structure TextAgrees (D : DetailsLibrary) (status : Status) : Prop where
  server : ∀ details errorInfo, status.Reports D details errorInfo →
    ¬ MentionsConnection (concatSourceMessages status)
  unavailable : status.code = .unavailable → status.details = [] →
    MentionsConnection (concatSourceMessages status)

section

variable {L : UriLibrary} {D : DetailsLibrary} {status : Status}

theorem Error.fromStatus_reports {details : ErrorDetails} {errorInfo : ErrorInfo}
    (h : status.Reports D details errorInfo)
    (hm : ¬ MentionsConnection (concatSourceMessages status)) :
    Error.fromStatus L D status = .server ⟨errorInfo.reason, errorInfo.domain, status.message,
      (details.debugInfo.map DebugInfo.stackEntries).getD []⟩ := by
  rw [(fromStatus_checked h.checked h.notBadRequest).2 hm, h.info]
  dsimp only
  rw [tryExtractingConnectionErrorFromInfo_eq_none h.notSpecial]

/-- No details decode to nothing, so the code of the status is not looked at. -/
theorem Error.fromStatus_empty (hd : status.details = []) :
    (MentionsConnection (concatSourceMessages status) →
      ∃ e, fromStatus L D status = .connection e ∧ ∀ hint, e ≠ .clusterServerNotPrimary hint) ∧
    (¬ MentionsConnection (concatSourceMessages status) →
      fromStatus L D status = .other (concatSourceMessages status)) :=
  fromStatus_checked (by rw [hd]; exact D.check_nil) rfl

end

/-- **Classification by structure**: it holds of a status exactly when the text of an error that
the server reports has none of the phrases the driver looks for, and the text of an unavailable
server without details has one of them. -/
theorem classifiedByStructure_iff (L : UriLibrary) (D : DetailsLibrary) (status : Status) :
    ClassifiedByStructure L D status ↔ TextAgrees D status := by
  constructor
  · intro h
    constructor
    · intro details errorInfo hr hm
      obtain ⟨e, he, -⟩ := h.server details errorInfo hr
      obtain ⟨c, hc, -⟩ := (Error.fromStatus_checked hr.checked hr.notBadRequest).1 hm
      rw [hc] at he
      cases he
    · intro hcode hd
      by_contra hm
      obtain ⟨c, hc⟩ := h.connection hcode hd
      rw [(Error.fromStatus_empty hd).2 hm] at hc
      cases hc
  · intro h
    refine ⟨?_, ?_, ?_, ?_⟩
    · intro details errorInfo hr
      exact ⟨_, Error.fromStatus_reports hr (h.server _ _ hr), rfl, rfl⟩
    · intro details errorInfo hr σ ρ net task w pre post replica known he
      rw [Error.fromStatus_reports hr (h.server _ _ hr)] at he
      exact ((w.failoverDiscipline net task).other_error _ _ _ _ _ he rfl).1
    · intro hcode hd
      obtain ⟨c, hc, -⟩ := (Error.fromStatus_empty hd).1 (h.unavailable hcode hd)
      exact ⟨c, hc⟩
    · intro hcode hd σ ρ net task w pre post replica known he
      obtain ⟨c, hc, hp⟩ := (Error.fromStatus_empty hd).1 (h.unavailable hcode hd)
      rw [hc] at he
      exact (w.failoverDiscipline net task).dead _ _ _ _ _ he hp

/-! ## Texts that mislead -/

/-- The details of a type error, encoded. -/
def typeErrorDetails : List UInt8 :=
  [0x1a, 61, 0x0a, 40] ++ "type.googleapis.com/google.rpc.ErrorInfo".toUTF8.toList ++
    [0x12, 17, 0x0a, 4] ++ "TYR1".toUTF8.toList ++ [0x12, 9] ++ "Type Read".toUTF8.toList

def typeErrorInfo : ErrorInfo := ⟨"TYR1", "Type Read", ∅⟩

def sampleDetailsLibrary : DetailsLibrary where
  checkErrorDetails bytes :=
    if bytes = [] then some {}
    else if bytes = typeErrorDetails then some { errorInfo := some typeErrorInfo }
    else none
  check_nil := rfl

def sampleUriLibrary : UriLibrary where
  parse address := .ok { authority := address }
  port _ := some 1729

/-- A query names a type that does not exist, with a name that the driver looks for. -/
def typeErrorStatus : Status where
  code := .invalidArgument
  message := "Type label 'connection error' not found."
  details := typeErrorDetails
  sources := []

/-- The connection breaks, and no details come with that. -/
def brokenPipeStatus : Status where
  code := .unavailable
  message := "broken pipe"
  details := []
  sources := []

theorem typeErrorStatus_reports :
    typeErrorStatus.Reports sampleDetailsLibrary { errorInfo := some typeErrorInfo }
      typeErrorInfo where
  checked := by simp [sampleDetailsLibrary, typeErrorStatus, typeErrorDetails]
  info := rfl
  notSpecial := by decide
  notBadRequest := rfl

theorem mentionsConnection_typeErrorStatus :
    MentionsConnection (concatSourceMessages typeErrorStatus) := by
  decide

theorem not_mentionsConnection_brokenPipeStatus :
    ¬ MentionsConnection (concatSourceMessages brokenPipeStatus) := by
  decide

/-- A primary and a secondary. -/
def firstReplica : AvailableServer :=
  .fromPrivate { authority := "10.0.0.1:1729" } (some ⟨0, some .primary, some 1⟩)

def secondReplica : AvailableServer :=
  .fromPrivate { authority := "10.0.0.2:1729" } (some ⟨1, some .secondary, some 1⟩)

/-- Both servers can be reached, and the first stays the primary. -/
def pairNetwork : Network Unit where
  openConnection _ _ := (.ok [], ())
  serversAll _ _ := (.ok ([firstReplica, secondReplica].map fun r =>
    ⟨some r.privateAddress, r.replicationStatus⟩), ())
  hashOrder _ := ⟨id, List.Perm.refl⟩

def pairWorld : World Unit where
  manager :=
    { configuredAddresses := .direct [firstReplica.privateAddress]
      replicas := ⟨[firstReplica, secondReplica], by decide⟩
      replicaConnections := ∅
      addressTranslation := .mapping ∅
      primaryFailoverRetries := 1 }
  outside := ⟨(), 0⟩
  taskRuns := []
  cachedReplies := []

/-- The query that the server answers with the type error. -/
def mistypedQuery : Task Unit Unit := fun _ _ =>
  (.error (Error.fromStatus sampleUriLibrary sampleDetailsLibrary typeErrorStatus), ())

/-- The type error is taken for an error of the connection, and the query is run twice; the broken
pipe is not taken for one. -/
theorem not_classifiedByStructure :
    ¬ ClassifiedByStructure sampleUriLibrary sampleDetailsLibrary typeErrorStatus ∧
    (runResults (pairWorld.executeStronglyConsistent pairNetwork mistypedQuery.lift).1).length = 2 ∧
    ¬ ClassifiedByStructure sampleUriLibrary sampleDetailsLibrary brokenPipeStatus := by
  refine ⟨?_, by decide +kernel, ?_⟩
  · intro h
    obtain ⟨e, he, -⟩ := h.server _ _ typeErrorStatus_reports
    obtain ⟨c, hc, -⟩ := (Error.fromStatus_checked (L := sampleUriLibrary)
      typeErrorStatus_reports.checked rfl).1 mentionsConnection_typeErrorStatus
    rw [hc] at he
    cases he
  · intro h
    obtain ⟨c, hc⟩ := h.connection rfl rfl
    rw [(Error.fromStatus_empty rfl).2 not_mentionsConnection_brokenPipeStatus] at hc
    cases hc

end TypeDBDriver
