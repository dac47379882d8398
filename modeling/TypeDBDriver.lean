import TypeDBDriver.Analyze.Checks
import TypeDBDriver.Answer.CppJson
import TypeDBDriver.Answer.Document
import TypeDBDriver.Answer.EscapedString
import TypeDBDriver.Concept.DatetimePython
import TypeDBDriver.Concept.DecimalHosts
import TypeDBDriver.Concept.DecimalSyntax
import TypeDBDriver.Concept.DurationDrivers
import TypeDBDriver.Concept.DurationGrammar
import TypeDBDriver.Concept.RoundTrip
import TypeDBDriver.Database.DamagedFiles
import TypeDBDriver.Database.ExportStream
import TypeDBDriver.Database.Import
import TypeDBDriver.Ffi.Concept
import TypeDBDriver.Ffi.LastError
import TypeDBDriver.Http.Attempts
import TypeDBDriver.Http.Origins
import TypeDBDriver.Http.Retries
import TypeDBDriver.Http.Tokens
import TypeDBDriver.Network.Credentials
import TypeDBDriver.Network.Decoding
import TypeDBDriver.Network.Status
import TypeDBDriver.Query.Given
import TypeDBDriver.Server.Cache
import TypeDBDriver.Server.Failover
import TypeDBDriver.Server.ForceClose
import TypeDBDriver.Server.Routing
import TypeDBDriver.Server.Seeking
import TypeDBDriver.Transaction.Answers
import TypeDBDriver.Transaction.Batching
import TypeDBDriver.Transaction.Locks
import TypeDBDriver.Transaction.NodeTransmitter
import TypeDBDriver.Transaction.Visibility
