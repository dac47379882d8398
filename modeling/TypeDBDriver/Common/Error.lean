import TypeDBDriver.Common.Address

/-!
# Errors

The error enumerations of the driver with their codes and texts, `Error`, and `Result`.
-/

namespace TypeDBDriver

/-- A request id: the bytes of a generated UUID, or what the server sent. -/
structure ID where
  bytes : List UInt8
  deriving DecidableEq, Repr, Inhabited

abbrev RequestID : Type := ID

/-- `Display` of an id: `0x` and two hexadecimal digits a byte. -/
def ID.display (id : ID) : String :=
  "0x" ++ String.join (id.bytes.map fun b =>
    String.ofList [Nat.digitChar (b.toNat / 16), Nat.digitChar (b.toNat % 16)])

inductive AnalyzeError
  | missingResponseField (field : String)
  | unknownEnumValue (enumName : String) (value : ℤ)
  deriving DecidableEq

namespace AnalyzeError

def code : AnalyzeError → ℕ
  | missingResponseField _ => 1
  | unknownEnumValue _ _ => 2

def message : AnalyzeError → String
  | missingResponseField field => s!"Missing field in message received from server: '{field}'. This is either a version compatibility issue or a bug."
  | unknownEnumValue enumName value => s!"Value '{value}' is out of bounds for enum '{enumName}'. This is either a version compatibility issue or a bug."

end AnalyzeError

inductive ConnectionError
  | rpcMethodUnavailable (message : String)
  | serverConnectionFailed (configuredAddresses accessedAddresses : Addresses) (details : String)
  | serverConnectionFailedWithError (error : String)
  | serverConnectionFailedNetworking (error : String)
  | serverConnectionIsClosed
  | serverConnectionIsClosedUnexpectedly
  | transactionIsClosed
  | transactionIsClosedWithErrors (errors : String)
  | missingResponseField (field : String)
  | unknownRequestId (requestId : RequestID)
  | unexpectedResponse (response : String)
  | queryStreamNoResponse
  | unexpectedQueryType (queryType : ℤ)
  | clusterServerNotPrimary (hintAddress : Option Address)
  | unknownDirectServerRouting (address : Address) (knownAddresses : Addresses)
  | tokenCredentialInvalid
  | encryptionSettingsMismatch
  | sslCertificateNotValidated
  | brokenPipe
  | connectionRefusedNetworking
  | missingPort (address : String)
  | unexpectedServerReplicationRole (replicationRole : ℤ)
  | valueTimeZoneNameNotRecognised (timeZone : String)
  | valueTimeZoneOffsetNotRecognised (offset : ℤ)
  | valueStructNotImplemented
  | listsNotImplemented
  | unexpectedKind (kind : ℤ)
  | unexpectedConnectionClose
  | databaseImportChannelIsClosed
  | databaseImportStreamUnexpectedResponse
  | databaseExportChannelIsClosed
  | databaseExportStreamNoResponse
  | absentTlsConfigForTlsConnection
  | serverIsNotInitialised
  | analyzeNoResponse
  | noPrimaryServer
  | schemeTlsSettingsMismatch (scheme : String) (isTlsEnabled : Bool)
  | requestTimeout (timeout : String)
  deriving DecidableEq

namespace ConnectionError

def code : ConnectionError → ℕ
  | rpcMethodUnavailable _ => 1
  | serverConnectionFailed _ _ _ => 2
  | serverConnectionFailedWithError _ => 3
  | serverConnectionFailedNetworking _ => 4
  | serverConnectionIsClosed => 5
  | serverConnectionIsClosedUnexpectedly => 6
  | transactionIsClosed => 7
  | transactionIsClosedWithErrors _ => 8
  | missingResponseField _ => 9
  | unknownRequestId _ => 10
  | unexpectedResponse _ => 11
  | queryStreamNoResponse => 12
  | unexpectedQueryType _ => 13
  | clusterServerNotPrimary _ => 14
  | unknownDirectServerRouting _ _ => 15
  | tokenCredentialInvalid => 16
  | encryptionSettingsMismatch => 17
  | sslCertificateNotValidated => 18
  | brokenPipe => 19
  | connectionRefusedNetworking => 20
  | missingPort _ => 21
  | unexpectedServerReplicationRole _ => 22
  | valueTimeZoneNameNotRecognised _ => 23
  | valueTimeZoneOffsetNotRecognised _ => 24
  | valueStructNotImplemented => 25
  | listsNotImplemented => 26
  | unexpectedKind _ => 27
  | unexpectedConnectionClose => 28
  | databaseImportChannelIsClosed => 29
  | databaseImportStreamUnexpectedResponse => 30
  | databaseExportChannelIsClosed => 31
  | databaseExportStreamNoResponse => 32
  | absentTlsConfigForTlsConnection => 33
  | serverIsNotInitialised => 34
  | analyzeNoResponse => 35
  | noPrimaryServer => 37
  | schemeTlsSettingsMismatch _ _ => 38
  | requestTimeout _ => 39

def message : ConnectionError → String
  | rpcMethodUnavailable message => s!"The server does not support this method, please check the driver-server compatibility:\n'{message}'."
  | serverConnectionFailed configuredAddresses accessedAddresses details =>
    "Unable to connect to TypeDB server(s).\nInitially configured addresses: " ++
      configuredAddresses.display ++ ".\nTried accessing addresses: " ++
      accessedAddresses.display ++ ". Details: " ++ details
  | serverConnectionFailedWithError error => s!"Unable to connect to TypeDB server(s), received errors: \n{error}"
  | serverConnectionFailedNetworking error => s!"Unable to connect to TypeDB server(s), received network or protocol error: \n{error}"
  | serverConnectionIsClosed => "The connection has been closed and no further operation is allowed."
  | serverConnectionIsClosedUnexpectedly => "The connection has been closed unexpectedly and no further operation is allowed."
  | transactionIsClosed => "The transaction is closed and no further operation is allowed."
  | transactionIsClosedWithErrors errors => s!"The transaction is closed because of the error(s):\n{errors}"
  | missingResponseField field => s!"Missing field in message received from server: '{field}'. This is either a version compatibility issue or a bug."
  | unknownRequestId requestId => "Received a response with unknown request id '" ++ requestId.display ++ "'"
  | unexpectedResponse response => s!"Received unexpected response from server: '{response}'. This is either a version compatibility issue or a bug."
  | queryStreamNoResponse => "Didn't receive any server responses for the query."
  | unexpectedQueryType queryType => s!"Unexpected query type in message received from server: {queryType}. This is either a version compatibility issue or a bug."
  | clusterServerNotPrimary hintAddress =>
    "The server is not primary (primary hint: " ++
      (match hintAddress with | some a => "Some(" ++ a.debug ++ ")" | none => "None") ++ ")."
  | unknownDirectServerRouting address knownAddresses =>
    "Could not execute operation against '" ++ address.display ++
      "' since it's not in the list of known servers: " ++ knownAddresses.display ++ "."
  | tokenCredentialInvalid => "Invalid credential supplied."
  | encryptionSettingsMismatch => "Unable to connect to TypeDB: possible encryption settings mismatch."
  | sslCertificateNotValidated => "SSL handshake with TypeDB failed: the server's identity could not be verified. Possible CA mismatch."
  | brokenPipe => "Stream closed because of a broken pipe. This could happen if you are attempting to connect to an unencrypted TypeDB server using a TLS-enabled credentials."
  | connectionRefusedNetworking => "Connection refused. Please check the server is running and the address is accessible. Encrypted TypeDB endpoints may also have misconfigured SSL certificates."
  | missingPort address => s!"Invalid URL '{address}': missing port."
  | unexpectedServerReplicationRole replicationRole => s!"Unexpected replication role in message received from server: {replicationRole}. This is either a version compatibility issue or a bug."
  | valueTimeZoneNameNotRecognised timeZone => s!"Time zone provided by the server has name '{timeZone}', which is not an officially recognized timezone."
  | valueTimeZoneOffsetNotRecognised offset => s!"Time zone provided by the server has numerical offset '{offset}', which is not recognised as a valid value for offset in seconds."
  | valueStructNotImplemented => "Struct valued responses are not yet supported by the driver."
  | listsNotImplemented => "Lists are not yet supported by the driver."
  | unexpectedKind kind => s!"Unexpected kind in message received from server: {kind}. This is either a version compatibility issue or a bug."
  | unexpectedConnectionClose => "Connection closed unexpectedly."
  | databaseImportChannelIsClosed => "The database import channel is closed and no further operation is allowed."
  | databaseImportStreamUnexpectedResponse => "The database import stream received an unexpected response in the process. It is either a version compatibility issue or a bug."
  | databaseExportChannelIsClosed => "The database export channel is closed and no further operation is allowed."
  | databaseExportStreamNoResponse => "Didn't receive any server responses for the database export command."
  | absentTlsConfigForTlsConnection => "Could not establish a TLS connection without a TLS config specified. Please verify your driver options."
  | serverIsNotInitialised => "Server is not yet initialized."
  | analyzeNoResponse => "Didn't receive any server responses for the analyze request."
  | noPrimaryServer => "Could not find a primary server."
  | schemeTlsSettingsMismatch scheme isTlsEnabled => "Scheme " ++ scheme ++
      " is not compatible with tls setting `enabled: " ++ toString isTlsEnabled ++ "`"
  | requestTimeout timeout => s!"Request timed out after {timeout}. The server may be unresponsive."

end ConnectionError

inductive ConceptError
  | unavailableRowVariable (variableName : String)
  | unavailableRowIndex (index : ℕ)
  | errorParsingDecimal (unparsed reason : String)
  deriving DecidableEq

namespace ConceptError

def code : ConceptError → ℕ
  | unavailableRowVariable _ => 1
  | unavailableRowIndex _ => 2
  | errorParsingDecimal _ _ => 3

def message : ConceptError → String
  | unavailableRowVariable variableName => s!"Cannot get concept from a concept row by variable '{variableName}'."
  | unavailableRowIndex index => s!"Cannot get concept from a concept row by index '{index}'."
  | errorParsingDecimal unparsed reason => s!"Could not parse the value '{unparsed}' as decimal: {reason}."

end ConceptError

inductive MigrationError
  | cannotOpenImportFile (path reason : String)
  | cannotCreateExportFile (path reason : String)
  | cannotExportToTheSameFile
  | cannotDecodeImportedConcept
  | cannotDecodeImportedConceptLength
  | cannotEncodeExportedConcept
  deriving DecidableEq

namespace MigrationError

def code : MigrationError → ℕ
  | cannotOpenImportFile _ _ => 1
  | cannotCreateExportFile _ _ => 2
  | cannotExportToTheSameFile => 3
  | cannotDecodeImportedConcept => 4
  | cannotDecodeImportedConceptLength => 5
  | cannotEncodeExportedConcept => 6

def message : MigrationError → String
  | cannotOpenImportFile path reason => s!"Cannot open import file '{path}': {reason}"
  | cannotCreateExportFile path reason => s!"Cannot create export file '{path}': {reason}"
  | cannotExportToTheSameFile => "Cannot export both schema and data to the same file."
  | cannotDecodeImportedConcept => "Cannot decode a concept from the provided import file. Make sure to pass a correct database file produced by a TypeDB export operation."
  | cannotDecodeImportedConceptLength => "Cannot decode a concept length from the provided import file. Make sure to pass a correct database file produced by a TypeDB export operation."
  | cannotEncodeExportedConcept => "Cannot encode a concept for export. It's either a version compatibility error or a bug."

end MigrationError

inductive InternalError
  | recvError
  | sendError
  | unexpectedRequestType (requestType : String)
  | unexpectedResponseType (responseType : String)
  | unimplemented (details : String)
  deriving DecidableEq

namespace InternalError

def code : InternalError → ℕ
  | recvError => 1
  | sendError => 2
  | unexpectedRequestType _ => 3
  | unexpectedResponseType _ => 4
  | unimplemented _ => 5

def message : InternalError → String
  | recvError => "Channel is closed."
  | sendError => "Unable to send response over callback channel (receiver dropped)."
  | unexpectedRequestType requestType => s!"Unexpected request type for remote procedure call: {requestType}. This is either a version compatibility issue or a bug."
  | unexpectedResponseType responseType => s!"Unexpected response type for remote procedure call: {responseType}. This is either a version compatibility issue or a bug."
  | unimplemented details => s!"Unimplemented feature: {details}."

end InternalError

inductive QueryError
  | givenRowIndexOutOfBounds (index width : ℕ)
  | givenRowUnknownVariable (variableName : String)
  | givenRowsSizeMismatch (actual expected : ℕ)
  | givenRowsReceivedType (variableOrIndex : String)
  | invalidTypeToGivenRow
  deriving DecidableEq

namespace QueryError

def code : QueryError → ℕ
  | givenRowIndexOutOfBounds _ _ => 1
  | givenRowUnknownVariable _ => 2
  | givenRowsSizeMismatch _ _ => 3
  | givenRowsReceivedType _ => 4
  | invalidTypeToGivenRow => 5

def message : QueryError → String
  | givenRowIndexOutOfBounds index width => s!"Attempted to set a row entry at index: {index}. Row width is {width}."
  | givenRowUnknownVariable variableName => s!"Attempted to set a row entry for a variable {variableName} which was not in the header."
  | givenRowsSizeMismatch actual expected => s!"Cannot push a row of width: {actual} . Expected width: {expected}"
  | givenRowsReceivedType variableOrIndex => s!"A type was passed as given row entry for '{variableOrIndex}'. Only instances and values are allowed."
  | invalidTypeToGivenRow => "Types cannot be converted to GivenRowEntry. Only instances and values can."

end QueryError

structure ServerError where
  errorCode : String
  errorDomain : String
  message : String
  stackTrace : List String
  deriving DecidableEq

def ServerError.display (e : ServerError) : String :=
  if e.stackTrace.isEmpty then s!"[{e.errorCode}] {e.errorDomain}. {e.message}"
  else "\n" ++ "\nCaused: ".intercalate e.stackTrace

/-- Represents errors encountered during operation. -/
inductive Error
  | analyze (error : AnalyzeError)
  | connection (error : ConnectionError)
  | concept (error : ConceptError)
  | migration (error : MigrationError)
  | internal (error : InternalError)
  | query (error : QueryError)
  | server (error : ServerError)
  | other (error : String)
  | ffi (error : String)
  deriving DecidableEq

namespace Error

/-- `[PFX07] Type: text`, the code padded to `width` digits. -/
def displayCoded (pfx messagePfx : String) (width code : ℕ) (message : String) : String :=
  let digits := toString code
  let padding := String.ofList (List.replicate (width - digits.length) '0')
  s!"[{pfx}{padding}{digits}] {messagePfx}: {message}"

/-- `Display` of an error. -/
def display : Error → String
  | analyze e => displayCoded "ANZ" "Analyze Error" 1 e.code e.message
  | connection e => displayCoded "CXN" "Connection Error" 2 e.code e.message
  | concept e => displayCoded "CPT" "Concept Error" 1 e.code e.message
  | migration e => displayCoded "MGT" "Migration Error" 1 e.code e.message
  | internal e => displayCoded "INT" "Internal Error" 1 e.code e.message
  | query e => displayCoded "QRY" "Internal Error" 1 e.code e.message
  | server e => e.display
  | other e => e
  | ffi e => e

/-- The errors after which an operation may be tried on another server. -/
def isConnection : Error → Bool
  | connection _ => true
  | _ => false

theorem isConnection_iff {e : Error} : e.isConnection = true ↔ ∃ c, e = connection c := by
  cases e <;> simp [isConnection]

end Error

abbrev Result (α : Type) : Type := Except Error α

end TypeDBDriver
