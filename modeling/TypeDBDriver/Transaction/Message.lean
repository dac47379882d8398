import TypeDBDriver.Common.Error
import TypeDBDriver.Lib.Decode

/-!
# The messages of a transaction

What a query carries is a parameter `ρ`. A protobuf leaf of a reply (a header, a row, a document, an
analysed query) is a parameter `π`, which `decode : π → Decode Error α` reads, and may panic on; the
layers above the leaves are decoded here.

* `TransactionRequest`, `Req`, `intoProto`: requests; a `stream` request reuses an id.
* `Message`: a server message, any part of which may be missing; `TransactionResponse.tryFromRes`,
  `TransactionResponse.tryFromPart`.
* `StreamResponse`: what is sent over a sink.
* `query`: the answer of a query, from what its stream has yielded so far.
-/

namespace TypeDBDriver.Transaction

/-- The `Debug` text of a value, which only error texts show. -/
class DebugText (β : Type) where
  debug : β → String

variable {ρ π α : Type}

/-! ## Requests -/

/-- The requests of an open transaction. -/
inductive TransactionRequest (ρ : Type)
  | commit
  | rollback
  | analyze (query : String)
  | query (request : ρ)
  | stream (requestId : RequestID)
  deriving DecidableEq

/-- The body of `transaction::Req`. -/
inductive ReqBody (ρ : Type)
  | commitReq
  | rollbackReq
  | analyzeReq (query : String)
  | queryReq (request : ρ)
  | streamReq
  deriving DecidableEq

/-- `transaction::Req` -/
structure Req (ρ : Type) where
  reqId : RequestID
  req : ReqBody ρ
  deriving DecidableEq

/-- A request gets a generated id, but a `stream` request goes under the id that it continues. -/
def TransactionRequest.intoProto (generated : RequestID) : TransactionRequest ρ → Req ρ
  | .commit => ⟨generated, .commitReq⟩
  | .rollback => ⟨generated, .rollbackReq⟩
  | .analyze text => ⟨generated, .analyzeReq text⟩
  | .query request => ⟨generated, .queryReq request⟩
  | .stream requestId => ⟨requestId, .streamReq⟩

/-! ## Responses -/

inductive QueryResponse (α : Type)
  | ok (queryType : α)
  | conceptRowsHeader (header : α)
  | conceptDocumentsHeader (header : α)
  | streamConceptRows (rows : List α)
  | streamConceptDocuments (documents : List α)
  | error (error : ServerError)

inductive AnalyzeResponse (α : Type)
  | ok (analyzed : α)
  | err (error : ServerError)

inductive TransactionResponse (α : Type)
  | opened (serverDurationMillis : ℕ)
  | commit
  | rollback
  | query (response : QueryResponse α)
  | analyze (response : AnalyzeResponse α)
  | close

/-- `typedb_protocol::Error` -/
structure ProtoError where
  errorCode : String
  domain : String
  stackTrace : List String

def ServerError.fromProto (proto : ProtoError) : ServerError :=
  ⟨proto.errorCode, proto.domain, "", proto.stackTrace⟩

/-- `query::initial_res::ok::Ok` -/
inductive InitialOk (π : Type)
  | done (queryType : π)
  | conceptDocumentStream (header : π)
  | conceptRowStream (header : π)

/-- `query::initial_res::Res` -/
inductive InitialRes (π : Type)
  | error (error : ProtoError)
  | ok (header : Option (InitialOk π))

/-- `analyze::res::Result` -/
inductive AnalyzeResult (π : Type)
  | ok (analyzed : π)
  | err (error : ProtoError)

/-- `transaction::res::Res` -/
inductive ResBody (π : Type)
  | openRes (serverDurationMillis : ℕ)
  | commitRes
  | rollbackRes
  | queryInitialRes (res : Option (InitialRes π))
  | analyzeRes (result : Option (AnalyzeResult π))

/-- `transaction::Res` -/
structure Res (π : Type) where
  reqId : RequestID
  res : Option (ResBody π)

/-- `query::res_part::Res` -/
inductive QueryResPart (π : Type)
  | documentsRes (documents : List π)
  | rowsRes (rows : List π)

/-- `stream_signal::res_part::State`; `cont` is `Continue`. -/
inductive StreamState
  | cont
  | done
  | error (error : ProtoError)

/-- `transaction::res_part::ResPart` -/
inductive ResPartBody (π : Type)
  | queryRes (res : Option (QueryResPart π))
  | streamRes (state : Option StreamState)

/-- `transaction::ResPart` -/
structure ResPart (π : Type) where
  reqId : RequestID
  resPart : Option (ResPartBody π)

/-- `transaction::server::Server` -/
inductive ServerBody (π : Type)
  | res (res : Res π)
  | resPart (resPart : ResPart π)

/-- `transaction::Server` -/
abbrev Message (π : Type) : Type := Option (ServerBody π)

/-- The request that a message answers. -/
def ServerBody.reqId : ServerBody π → RequestID
  | res r => r.reqId
  | resPart p => p.reqId

section Decode

variable (decode : π → Decode Error α)

def missingResponseField (field : String) : Error := .connection (.missingResponseField field)

def QueryResponse.tryFromInitialOk : InitialOk π → Decode Error (QueryResponse α)
  | .done queryType => .ok <$> decode queryType
  | .conceptDocumentStream header => .conceptDocumentsHeader <$> decode header
  | .conceptRowStream header => .conceptRowsHeader <$> decode header

def AnalyzeResponse.tryFromProto : Option (AnalyzeResult π) → Decode Error (AnalyzeResponse α)
  | some (.ok analyzed) => .ok <$> decode analyzed
  | some (.err error) => pure (.err (ServerError.fromProto error))
  | none => throw (.analyze (.missingResponseField "analyze.Res.result"))

def TransactionResponse.tryFromRes (proto : Res π) : Decode Error (TransactionResponse α) :=
  match proto.res with
  | some (.openRes serverDurationMillis) => pure (.opened serverDurationMillis)
  | some .commitRes => pure .commit
  | some .rollbackRes => pure .rollback
  | some (.queryInitialRes (some (.error error))) =>
    pure (.query (.error (ServerError.fromProto error)))
  | some (.queryInitialRes (some (.ok none))) =>
    throw (missingResponseField "transaction.res.query.initial_res.res.Ok.ok")
  | some (.queryInitialRes (some (.ok (some header)))) =>
    .query <$> QueryResponse.tryFromInitialOk decode header
  | some (.queryInitialRes none) =>
    throw (missingResponseField "transaction.res.query.initial_res.res")
  | some (.analyzeRes result) => .analyze <$> AnalyzeResponse.tryFromProto decode result
  | none => throw (missingResponseField "res")

def QueryResponse.tryFromPart : QueryResPart π → Decode Error (QueryResponse α)
  | .documentsRes documents => .streamConceptDocuments <$> documents.mapM decode
  | .rowsRes rows => .streamConceptRows <$> rows.mapM decode

def TransactionResponse.tryFromPart :
    Option (QueryResPart π) → Decode Error (TransactionResponse α)
  | some res => .query <$> QueryResponse.tryFromPart decode res
  | none => throw (missingResponseField "query.ResPart.res")

end Decode

/-! ## Sinks -/

/-- What is sent over a sink; a one-shot sink takes results only. -/
inductive StreamResponse (α : Type)
  | result (response : Result (TransactionResponse α))
  | cont (requestId : RequestID)

/-- The result that a stream yields for it, if any. -/
def StreamResponse.result? : StreamResponse α → Option (Result (TransactionResponse α))
  | result response => some response
  | cont _ => none

/-- A sink, by the call whose channel it feeds. -/
inductive ResponseSink
  | oneShot (call : ℕ)
  | streamed (call : ℕ)
  deriving DecidableEq

def ResponseSink.call : ResponseSink → ℕ
  | oneShot call | streamed call => call

/-- `TransactionStream` waits for one response to `commit` and `rollback`, and streams others. -/
def TransactionRequest.sink (call : ℕ) : TransactionRequest ρ → ResponseSink
  | commit | rollback => .oneShot call
  | _ => .streamed call

/-! ## The answer of a query -/

section Answer

variable [DebugText (TransactionResponse α)] [DebugText (QueryResponse α)]

def handleUnexpectedResponse {β : Type} : Result (TransactionResponse α) → Result β
  | .ok .close => .error (.connection .transactionIsClosed)
  | .ok other => .error (.internal (.unexpectedResponseType (DebugText.debug other)))
  | .error err => .error err

/-- `require_transaction_response!` for a query response -/
def requireQuery : Result (TransactionResponse α) → Result (QueryResponse α)
  | .ok (.query inner) => .ok inner
  | other => handleUnexpectedResponse other

def unexpectedQueryResponse (other : QueryResponse α) : Error :=
  .internal (.unexpectedResponseType (DebugText.debug other))

/-- The rows, each with its header, that one response adds to a row stream. -/
def rowAnswers (header : α) : Result (QueryResponse α) → List (Result (α × α))
  | .ok (.streamConceptRows rows) => rows.map fun row => .ok (header, row)
  | .ok (.error error) => [.error (.server error)]
  | .ok other => [.error (unexpectedQueryResponse other)]
  | .error err => [.error err]

/-- The documents, each with its header, that one response adds to a document stream. -/
def documentAnswers (header : α) : Result (QueryResponse α) → List (Result (α × α))
  | .ok (.streamConceptDocuments documents) => documents.map fun document => .ok (header, document)
  | .ok (.error error) => [.error (.server error)]
  | .ok other => [.error (unexpectedQueryResponse other)]
  | .error err => [.error err]

/-- The answer of a query; of an answer stream, what it has yielded so far. -/
inductive QueryAnswer (α : Type)
  | ok (queryType : α)
  | conceptDocumentStream (header : α) (answers : List (Result (α × α)))
  | conceptRowStream (header : α) (answers : List (Result (α × α)))

/-- What `query` returns once its stream has yielded `responses`, and has `ended` or not. -/
def query (responses : List (Result (TransactionResponse α))) (ended : Bool) :
    Option (Result (QueryAnswer α)) :=
  match responses.map requireQuery with
  | [] => if ended then some (.error (.connection .queryStreamNoResponse)) else none
  | .error err :: _ => some (.error err)
  | .ok (.ok queryType) :: _ => some (.ok (.ok queryType))
  | .ok (.conceptDocumentsHeader header) :: rest =>
    some (.ok (.conceptDocumentStream header (rest.flatMap (documentAnswers header))))
  | .ok (.conceptRowsHeader header) :: rest =>
    some (.ok (.conceptRowStream header (rest.flatMap (rowAnswers header))))
  | .ok (.error error) :: _ => some (.error (.server error))
  | .ok other :: _ => some (.error (unexpectedQueryResponse other))

end Answer

end TypeDBDriver.Transaction
