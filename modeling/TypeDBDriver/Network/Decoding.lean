import TypeDBDriver.Analyze.Checks
import TypeDBDriver.Answer.Document
import TypeDBDriver.Server.Replica

/-!
# Decoding replies

* `UriLibrary`: what the driver uses of the library that parses addresses.
* `ConnectionOpen.tryFromProto`: the reply that opens a connection; `openParts` are its checks.
* `sampleRow`, `decoding_panics`: replies that are not decoded.
* **`decoding_returns_iff`**: exactly which replies are decoded or refused, and do not panic.
-/

namespace TypeDBDriver

open Decode

/-! ## Messages -/

namespace Proto

structure ReplicationStatus where
  id : UInt64
  role : Option Int32
  term : Option UInt64

structure Server where
  address : Option String
  replicationStatus : Option ReplicationStatus

structure OpenRes where
  serversAll : Option (List Server)
  connectionId : Option (List UInt8)
  serverDurationMillis : UInt64

end Proto

/-- The parser of URIs, with the text of its error, and the port of a URI. -/
structure UriLibrary where
  parse : String → Except String Address
  port : Address → Option UInt16

/-- Sixteen bytes. -/
structure Uuid where
  bytes : List UInt8
  length_eq : bytes.length = 16

def Uuid.fromSlice (bytes : List UInt8) : Option Uuid :=
  if h : bytes.length = 16 then some ⟨bytes, h⟩ else none

structure ConnectionOpen where
  connectionId : Uuid
  serverDurationMillis : UInt64
  servers : List Server

/-! ## The reply that opens a connection -/

def Address.fromStr (L : UriLibrary) (address : String) : Except Error Address := do
  let uri ← (L.parse address).mapError .other
  if (L.port uri).isNone then throw (.connection (.missingPort address))
  pure uri

def ReplicationRole.tryFromProto (replicationRole : Option Int32) :
    Decode Error (Option ReplicationRole) :=
  match replicationRole with
  | some r =>
    if r = 0 then pure (some .primary)
    else if r = 1 then pure (some .candidate)
    else if r = 2 then pure (some .secondary)
    else throw (.connection (.unexpectedServerReplicationRole r.toInt))
  | none => pure none

def ReplicationStatus.tryFromProto (proto : Proto.ReplicationStatus) :
    Decode Error ReplicationStatus := do
  let role ← ReplicationRole.tryFromProto proto.role
  pure ⟨proto.id.toNat, role, proto.term.map UInt64.toNat⟩

def Server.tryFromProto (L : UriLibrary) (proto : Proto.Server) : Decode Error Server := do
  let replicationStatus ← transpose ReplicationStatus.tryFromProto proto.replicationStatus
  match proto.address with
  | some address => do
    let address ← fromResult (Address.fromStr L address)
    pure (.availableFromPrivate address replicationStatus)
  | none => pure (.unavailable replicationStatus)

/-- The bytes of the connection's id are expected to be sixteen. -/
def ConnectionOpen.tryFromProto (L : UriLibrary) (proto : Proto.OpenRes) : Decode Error ConnectionOpen := do
  let serversAll ← okOr (missing "servers_all") proto.serversAll
  let servers ← serversAll.mapM (Server.tryFromProto L)
  let id ← okOr (missing "connection_id") proto.connectionId
  let connectionId ← unwrap (Uuid.fromSlice id)
  pure ⟨connectionId, proto.serverDurationMillis, servers⟩

/-! ## Checks and assertions -/

variable (L : UriLibrary)

def roleParts (role : Option Int32) : List Part :=
  optionalParts (fun r => [.check (r = 0 ∨ r = 1 ∨ r = 2)]) role

/-- An address has to be a URI with a port. -/
def addressParts (address : String) : List Part :=
  [.check (match L.parse address with
    | .ok uri => (L.port uri).isSome
    | .error _ => false)]

def serverParts (server : Proto.Server) : List Part :=
  optionalParts (fun status => roleParts status.role) server.replicationStatus ++
    optionalParts (addressParts L) server.address

def openParts (res : Proto.OpenRes) : List Part :=
  .check res.serversAll.isSome ::
    optionalParts (fun servers => servers.flatMap (serverParts L)) res.serversAll ++
  .check res.connectionId.isSome ::
    optionalParts (fun id => [.assertion (id.length = 16)]) res.connectionId

theorem follows_role (role : Option Int32) :
    Follows (ReplicationRole.tryFromProto role) (roleParts role) := by
  cases role with
  | none => exact follows_pure none
  | some r =>
    show Follows (ReplicationRole.tryFromProto (some r)) [.check (r = 0 ∨ r = 1 ∨ r = 2)]
    rw [ReplicationRole.tryFromProto]
    by_cases h0 : r = 0
    · simp only [h0]
      rfl
    by_cases h1 : r = 1
    · simp only [h1]
      rfl
    by_cases h2 : r = 2
    · simp only [h2]
      rfl
    simp only [h0, h1, h2, if_false, or_false, decide_false]
    exact follows_throw _

theorem follows_status (status : Proto.ReplicationStatus) :
    Follows (ReplicationStatus.tryFromProto status) (roleParts status.role) :=
  (follows_role status.role).build fun role =>
    ReplicationStatus.mk status.id.toNat role (status.term.map UInt64.toNat)

theorem follows_address (address : String) :
    Follows (fromResult (Address.fromStr L address)) (addressParts L address) := by
  rw [Address.fromStr, addressParts]
  cases L.parse address with
  | error e => rfl
  | ok uri =>
    show Follows (fromResult (if (L.port uri).isNone then throw _ else pure uri)) _
    cases hport : L.port uri with
    | none => simp only [hport]; rfl
    | some port => simp only [hport]; rfl

theorem follows_server (server : Proto.Server) :
    Follows (Server.tryFromProto L server) (serverParts L server) := by
  refine (follows_transpose follows_status server.replicationStatus).bind fun status => ?_
  cases server.address with
  | none => exact follows_pure _
  | some address =>
    exact (follows_address L address).build fun address =>
      Server.availableFromPrivate address status

theorem isSome_fromSlice (bytes : List UInt8) :
    (Uuid.fromSlice bytes).isSome = decide (bytes.length = 16) := by
  rw [Uuid.fromSlice]
  split <;> simp_all

theorem follows_connectionId (bytes : List UInt8) :
    Follows (unwrap (Uuid.fromSlice bytes) : Decode Error Uuid)
      [.assertion (bytes.length = 16)] := by
  have h := follows_unwrap (ε := Error) (Uuid.fromSlice bytes)
  rwa [isSome_fromSlice] at h

theorem follows_open (res : Proto.OpenRes) :
    Follows (ConnectionOpen.tryFromProto L res) (openParts L res) := by
  have h := (follows_required (missing "servers_all") (follows_mapM (follows_server L))
    res.serversAll).bind fun servers =>
      (follows_required (missing "connection_id") follows_connectionId res.connectionId).build
        fun id => ConnectionOpen.mk id res.serverDurationMillis servers
  simp only [bind_assoc] at h
  exact h

/-! ## Replies that are not decoded -/

section Samples

open Gregorian (chrono)

def sampleRow (value : Proto.ValueInner) : Proto.ConceptRow := ⟨[⟨some (.value ⟨some value⟩)⟩], none⟩

/-- The fraction of a decimal, the day of a date, the least offset, the wrapper of a value type
and the id of a connection can each make the decoder panic. -/
theorem decoding_panics :
    ¬Returns (ConceptRow.tryFromProto chrono (sampleRow (.decimal ⟨0, 10000000000000000000⟩))) ∧
    ¬Returns (ConceptRow.tryFromProto chrono (sampleRow (.date ⟨2147483647⟩))) ∧
    ¬Returns (ConceptRow.tryFromProto chrono
      (sampleRow (.datetimeTz ⟨some ⟨0, 0⟩, some (.offset (-2147483648))⟩))) ∧
    ¬Returns (ConceptDocument.tryFromProto chrono
      ⟨some (.leaf ⟨some (.attributeType ⟨"name", some ⟨none⟩⟩)⟩)⟩) ∧
    ∀ L : UriLibrary, ¬Returns (ConnectionOpen.tryFromProto L ⟨some [], some [], 0⟩) := by
  refine ⟨?_, ?_, ?_, ?_, ?_⟩
  · exact not_returns (follows_row chrono _) (by decide)
  · exact not_returns (follows_row chrono _) (by decide)
  · exact not_returns (follows_row chrono _) (by decide)
  · exact not_returns (follows_document chrono _) (by decide)
  · intro L
    exact not_returns (follows_open L _) rfl

end Samples

/-- **Exactly which replies do not make the decoder panic.** -/
theorem decoding_returns_iff (C : Chrono) (E : AnalyzeEnums) (L : UriLibrary) :
    (∀ row : Proto.ConceptRow, Returns (ConceptRow.tryFromProto C row) ↔ Clean (rowParts C row)) ∧
    (∀ document : Proto.ConceptDocument,
      Returns (ConceptDocument.tryFromProto C document) ↔ Clean (documentParts C document)) ∧
    (∀ res : Proto.AnalyzeRes,
      Returns (AnalyzeResponse.tryFromProto C E res) ↔ Clean (analyzeParts C E res)) ∧
    ∀ res : Proto.OpenRes,
      Returns (ConnectionOpen.tryFromProto L res) ↔ Clean (openParts L res) :=
  ⟨fun row => returns_iff (follows_row C row),
    fun document => returns_iff (follows_document C document),
    fun res => returns_iff (follows_analyze C E res), fun res => returns_iff (follows_open L res)⟩

end TypeDBDriver
