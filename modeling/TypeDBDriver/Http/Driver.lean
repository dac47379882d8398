import TypeDBDriver.Lib.Async
import TypeDBDriver.Lib.Double
import TypeDBDriver.Lib.Json

/-!
# The HTTP driver

Requests of one driver share its current origin and its token. A program runs without interruption
from one `await` to the next.

* `URL`: what the driver uses of the platform's parser of URLs.
* `DriverParams`, `resolveOrigin`, `allOrigins`: the configured addresses.
* `HttpDriver`, `Question`: the shared fields, and what a request awaits.
* `signinOnce`, `tryApiReq`, `followMisdirected`, `tryFallbackOrigins`, `apiReqOnce`, `apiReq`: the
  request loop.
-/

namespace TypeDBDriver.Http

/-! ## Parameters -/

/-- The parts of a URL that the driver reads, `none` where the constructor throws. -/
structure URL where
  host : String → Option String
  protocol : String → Option String

structure TranslatedAddress where
  external : String
  internal : String
  deriving DecidableEq

/-- A table of addresses; with an empty one the constructor of the driver throws. -/
structure TranslatedAddresses where
  entries : List TranslatedAddress
  ne : entries ≠ []

inductive DriverParams
  | basic (addresses : List String)
  | translated (translatedAddresses : TranslatedAddresses)

namespace DriverParams

/-- The origin of the first address. -/
def remoteOrigin : DriverParams → String
  | basic addresses => addresses.headD "undefined"
  | translated translatedAddresses =>
    (translatedAddresses.entries.head translatedAddresses.ne).external

/-- All configured origins, for the fallback from connection errors. -/
def allOrigins : DriverParams → List String
  | basic addresses => addresses
  | translated translatedAddresses => translatedAddresses.entries.map (·.external)

end DriverParams

def isSchemeChar (c : Char) : Bool := c.isAlphanum || c == '+' || c == '.' || c == '-'

/-- `SCHEME_PREFIX_REGEX`. -/
def hasScheme (origin : String) : Bool :=
  match origin.toList with
  | c :: cs => c.isAlpha && (cs.dropWhile isSchemeChar).take 3 == "://".toList
  | [] => false

section Origins

variable (L : URL)

def hostPortFromOrigin (origin : String) : String :=
  if hasScheme origin then (L.host origin).getD origin else origin

def originWithScheme (address referenceOrigin : String) : String :=
  if hasScheme address then address
  else
    match L.protocol referenceOrigin with
    | some protocol => protocol ++ "//" ++ address
    | none => "https://" ++ address

def resolveOrigin (params : DriverParams) (primaryAddress : String) : String :=
  let target := hostPortFromOrigin L primaryAddress
  match params with
  | .basic addresses =>
    match addresses.find? fun addr => hostPortFromOrigin L addr = target with
    | some addr => addr
    | none => originWithScheme L primaryAddress params.remoteOrigin
  | .translated translatedAddresses =>
    match translatedAddresses.entries.find? fun ta =>
      hostPortFromOrigin L ta.internal = target ∨ hostPortFromOrigin L ta.external = target with
    | some ta => ta.external
    | none => originWithScheme L primaryAddress params.remoteOrigin

end Origins

/-! ## Responses -/

/-- The status of a reply and its body, `none` when it is not JSON. -/
structure HttpReply where
  status : ℕ
  body : Option (Json.Value Double)

def HttpReply.ok (reply : HttpReply) : Bool := 200 ≤ reply.status && reply.status ≤ 299

/-- A reply to a request, with the origin it came from and its place among all replies. -/
structure Response extends HttpReply where
  origin : String
  serial : ℕ

def HTTP_UNAUTHORIZED : ℕ := 401
def HTTP_MISDIRECTED : ℕ := 421

/-- A field of an object whose value is a string. -/
def stringField (json : Json.Value Double) (key : String) : Option String :=
  match json with
  | .object members =>
    match members.reverse.find? fun m => m.1 = key with
    | some (_, .string s) => some s
    | _ => none
  | _ => none

structure ApiErrorResponse where
  code : String
  message : String
  status : ℕ

/-- `isApiError`, with the error. -/
def apiError (json : Json.Value Double) (status : ℕ) : Option ApiErrorResponse := do
  let code ← stringField json "code"
  let message ← stringField json "message"
  some ⟨code, message, status⟩

/-- `isMisdirectedError`, with the address of the primary. -/
def misdirectedAddress (json : Json.Value Double) : Option String := do
  let _ ← stringField json "code"
  let _ ← stringField json "message"
  stringField json "primaryAddress"

def driverError (code message : String) : ApiErrorResponse := ⟨code, message, 503⟩

/-- The result of a single request against a single origin. -/
inductive TryResult
  | response (resp : Response)
  /-- the server was reached, and refused the sign-in -/
  | err (error : ApiErrorResponse)
  /-- the server could not be reached -/
  | null

/-- What a call returns. -/
inductive ApiResult
  | response (resp : Response)
  | err (error : ApiErrorResponse)

def ApiResult.status : ApiResult → ℕ
  | response resp => resp.status
  | err error => error.status

def TRANSIENT_SIGNIN_ERROR_CODES : List String := ["HDR2", "SRV14", "CSV8", "CSV9"]

/-- A transient error of the sign-in counts as a server that could not be reached. -/
def tokenErrToResult (tokenResp : ApiErrorResponse) : TryResult :=
  if tokenResp.code ∈ TRANSIENT_SIGNIN_ERROR_CODES then .null else .err tokenResp

/-! ## The driver -/

/-- A token, with the origin that issued it. -/
structure Token where
  text : String
  issuer : String
  deriving DecidableEq

structure HttpDriver where
  token : Option Token
  currentOrigin : String
  /-- ghost: the replies to requests so far -/
  received : List Response
  /-- ghost: the tokens stored so far, with the origin that was current -/
  stored : List (Token × String)
  /-- ghost: how often `apiReqOnce` was called -/
  passes : ℕ

/-- What a program awaits. -/
inductive Question
  | signin (origin : String)
  /-- `refreshed` if the token was requested for it after an unauthorized reply -/
  | request (origin : String) (token : Token) (refreshed : Bool)
  /-- the body of the reply to a sign-in at an origin -/
  | signinBody (origin : String) (reply : HttpReply)
  | body
  /-- the end of an asynchronous function -/
  | tick
  | sleep

/-- A program of the driver. The reply to a sign-in or a request is `none` when the server cannot
be reached; the other replies carry nothing. -/
abbrev Prog (α : Type) : Type := Async HttpDriver Question (Option HttpReply) α

/-- `await` of an asynchronous function. -/
def awaiting {α : Type} (p : Prog α) : Prog α := do
  let a ← p
  let _ ← Async.ask .tick
  pure a

namespace HttpDriver

def switchOrigin (origin : String) : Prog Unit :=
  Async.modify fun s => { s with currentOrigin := origin, token := none }

def storeToken (token : Token) : Prog Unit :=
  Async.modify fun s =>
    { s with token := some token, stored := s.stored ++ [(token, s.currentOrigin)] }

/-- `fetch` of the request's URL at an origin. -/
def fetch (origin : String) (token : Token) (refreshed : Bool) : Prog (Option Response) := do
  let reply ← Async.ask (.request origin token refreshed)
  match reply with
  | none => pure none
  | some reply => do
    let s ← Async.read
    let resp : Response := ⟨reply, origin, s.received.length⟩
    Async.modify fun s => { s with received := s.received ++ [resp] }
    pure (some resp)

/-- The token of the body of a sign-in reply. -/
def tokenOf (reply : HttpReply) : Option String :=
  reply.body.bind fun json => stringField json "token"

def signinOnce : Prog (Except ApiErrorResponse Token) := do
  let origin := (← Async.read).currentOrigin
  let reply ← Async.ask (.signin origin)
  match reply with
  | none => do
    let s ← Async.read
    pure (.error (driverError "HDR2" s!"Cannot connect to server at {s.currentOrigin}"))
  | some resp => do
    let _ ← Async.ask (.signinBody origin resp)
    match if resp.ok then tokenOf resp else none with
    | some text => do
      storeToken ⟨text, origin⟩
      pure (.ok ⟨text, origin⟩)
    | none =>
      match resp.body.bind fun json => apiError json resp.status with
      | some error => pure (.error error)
      | none => do
        let s ← Async.read
        pure (.error (driverError "HDR2"
          s!"Unexpected signin response from {s.currentOrigin} (HTTP {resp.status})"))

def refreshToken : Prog (Except ApiErrorResponse Token) := awaiting signinOnce

/-- The token that is there, unless it is empty, or a new one. -/
def getToken : Prog (Except ApiErrorResponse Token) := do
  let s ← Async.read
  match s.token with
  | some token => if token.text = "" then refreshToken else pure (.ok token)
  | none => refreshToken

def tryApiReq : Prog TryResult := do
  let origin := (← Async.read).currentOrigin
  let tokenResp ← awaiting getToken
  match tokenResp with
  | .error e => pure (tokenErrToResult e)
  | .ok token => do
    let resp ← fetch origin token false
    match resp with
    | none => pure .null
    | some resp =>
      if resp.status = HTTP_UNAUTHORIZED then do
        let tokenResp ← awaiting refreshToken
        match tokenResp with
        | .error e => pure (tokenErrToResult e)
        | .ok token => do
          let resp ← fetch origin token true
          match resp with
          | none => pure .null
          | some resp => pure (.response resp)
      else pure (.response resp)

section Redirects

variable (L : URL) (params : DriverParams)

/-- The origin of the primary that a response names, if it is another than the current one. -/
def redirectTarget (resp : Response) (currentOrigin : String) : Option String :=
  match resp.body.bind misdirectedAddress with
  | some primaryAddress =>
    let newOrigin := resolveOrigin L params primaryAddress
    if newOrigin = currentOrigin then none else some newOrigin
  | none => none

def switchToRedirectTarget (resp : Response) : Prog Bool := do
  let _ ← Async.ask .body
  let s ← Async.read
  match redirectTarget L params resp s.currentOrigin with
  | some newOrigin => do
    switchOrigin newOrigin
    pure true
  | none => pure false

def followMisdirected (resp : Response) : Prog TryResult := do
  let switched ← awaiting (switchToRedirectTarget L params resp)
  if switched then awaiting tryApiReq else pure .null

/-- The loop of `tryFallbackOrigins`. -/
def fallbackLoop (triedOrigins : List String) :
    List String → Option Response → Prog TryResult
  | [], lastError =>
    match lastError with
    | some resp => pure (.response resp)
    | none => pure .null
  | origin :: origins, lastError =>
    if origin ∈ triedOrigins then fallbackLoop triedOrigins origins lastError
    else do
      switchOrigin origin
      let initial ← awaiting tryApiReq
      match initial with
      | .null => fallbackLoop triedOrigins origins lastError
      | .err e => pure (.err e)
      | .response initial =>
        if initial.status = HTTP_MISDIRECTED then do
          let redirected ← awaiting (followMisdirected L params initial)
          match redirected with
          | .null => fallbackLoop triedOrigins origins lastError
          | .err e => pure (.err e)
          | .response resp =>
            if resp.ok then pure (.response resp)
            else fallbackLoop triedOrigins origins (some resp)
        else if initial.ok then pure (.response initial)
        else fallbackLoop triedOrigins origins (some initial)

def tryFallbackOrigins (triedOrigins : List String) : Prog TryResult :=
  fallbackLoop L params triedOrigins params.allOrigins none

/-- The end of `apiReqOnce`, where no server of the start, `none`, or one with a response that is
not ok was reached. -/
def fallBack (triedOrigins : List String) (result : Option Response) : Prog ApiResult := do
  let startOrigin := (← Async.read).currentOrigin
  let fallback ← awaiting (tryFallbackOrigins L params (startOrigin :: triedOrigins))
  match fallback, result with
  | .err e, _ => pure (.err e)
  | .response resp, none => pure (.response resp)
  | .response resp, some result =>
    if resp.ok then pure (.response resp)
    else do
      -- the response of the start is returned: the next request goes to the same server
      switchOrigin startOrigin
      pure (.response result)
  | .null, some result => do
    switchOrigin startOrigin
    pure (.response result)
  | .null, none => pure (.err (driverError "HDR1" "Cannot connect to any server"))

def apiReqOnce : Prog ApiResult := do
  Async.modify fun s => { s with passes := s.passes + 1 }
  let triedOrigins := [(← Async.read).currentOrigin]
  let initial ← awaiting tryApiReq
  match initial with
  | .err e => pure (.err e)
  | .null => fallBack L params triedOrigins none
  | .response result =>
    if result.status = HTTP_MISDIRECTED then do
      let redirected ← awaiting (followMisdirected L params result)
      match redirected with
      | .err e => pure (.err e)
      | .null => fallBack L params triedOrigins none
      | .response result =>
        if result.ok then pure (.response result)
        else fallBack L params triedOrigins (some result)
    else if result.ok then pure (.response result)
    else fallBack L params triedOrigins (some result)

def PRIMARY_FAILOVER_RETRIES : ℕ := 3

/-- The loop of `apiReq`, with the retries that are left. -/
def retryLoop : ℕ → ApiResult → Prog ApiResult
  | 0, result => pure result
  | retries + 1, result =>
    if result.status = HTTP_MISDIRECTED then do
      let _ ← Async.ask .sleep
      let result ← awaiting (apiReqOnce L params)
      retryLoop retries result
    else pure result

def apiReq : Prog ApiResult := do
  let result ← awaiting (apiReqOnce L params)
  retryLoop L params PRIMARY_FAILOVER_RETRIES result

end Redirects

end HttpDriver

end TypeDBDriver.Http
