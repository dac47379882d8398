import TypeDBDriver.Http.Driver
import TypeDBDriver.Lib.Paths

/-!
# The attempts of a call

* `Unsent`, `weight`: the questions that are no requests, and a weight for each kind.
* `tryApiReq_atMost`: what an attempt sends.
* `fallbackLoop_attempts`, `apiReqOnce_attempts`, `retryLoop_attempts`: the attempts of a pass, and
  of the passes that are left, by induction on the origins and on the retries.
* **`apiReq_bounded`**: a call ends after a bounded number of attempts, of two requests each.
-/

namespace TypeDBDriver.Http.HttpDriver

open Async (AtMost Calls)

/-- Neither a request to the API nor a sign-in is sent. -/
def Unsent : Question → Prop
  | .signin _ | .request _ _ _ => False
  | _ => True

/-- A weight for the sign-ins, for the requests to the API, and for the other questions. -/
def weight (signin request other : ℕ) : Question → ℕ
  | .signin _ => signin
  | .request _ _ _ => request
  | _ => other

theorem weight_of_unsent {signin request other : ℕ} {q : Question} (hq : Unsent q) :
    weight signin request other q ≤ other := by
  cases q with
  | signin | request => exact hq.elim
  | _ => exact le_refl other

section Attempt

variable {signin request other n : ℕ} {α : Type}

theorem awaiting_atMost {p : Prog α} (h : AtMost (weight signin request other) n p) :
    AtMost (weight signin request other) (n + other) (awaiting p) :=
  h.bind fun a => (AtMost.ask Question.tick).bind (m := 0) fun _ => .pure 0 a

theorem storeToken_atMost (token : Token) :
    AtMost (weight signin request other) 0 (storeToken token) := .modify _

theorem signinOnce_atMost :
    AtMost (weight signin request other) (signin + other) signinOnce := by
  have herror : ∀ f : HttpDriver → Except ApiErrorResponse Token,
      AtMost (weight signin request other) 0
        (Async.read >>= fun s => pure (f s) : Prog (Except ApiErrorResponse Token)) :=
    fun f => AtMost.read.bind fun s => .pure 0 (f s)
  refine (AtMost.read.bind fun s => (AtMost.ask (Question.signin s.currentOrigin)).bind
    (m := other) fun reply => ?_).mono (Nat.zero_add _).le
  cases reply with
  | none => exact (herror _).mono (Nat.zero_le other)
  | some resp =>
    refine (AtMost.ask (Question.signinBody s.currentOrigin resp)).bind (m := 0) fun _ => ?_
    split
    · exact (storeToken_atMost _).bind fun _ => .pure 0 _
    · split
      · exact .pure 0 _
      · exact herror _

theorem refreshToken_atMost :
    AtMost (weight signin request other) (signin + other + other) refreshToken :=
  awaiting_atMost signinOnce_atMost

theorem getToken_atMost :
    AtMost (weight signin request other) (signin + other + other) getToken := by
  refine (AtMost.read.bind fun s => ?_).mono (Nat.zero_add _).le
  split
  · split_ifs
    · exact refreshToken_atMost
    · exact .pure _ _
  · exact refreshToken_atMost

theorem fetch_atMost (origin : String) (token : Token) (refreshed : Bool) :
    AtMost (weight signin request other) request (fetch origin token refreshed) := by
  refine (AtMost.ask (Question.request origin token refreshed)).bind (m := 0) fun reply => ?_
  cases reply with
  | none => exact .pure 0 _
  | some reply =>
    exact AtMost.read.bind (m := 0) fun s => (AtMost.modify _).bind fun _ => .pure 0 _

/-- **An attempt sends two requests at most, and signs in before each at most once.** -/
theorem tryApiReq_atMost :
    AtMost (weight signin request other) (2 * (signin + 3 * other + request)) tryApiReq := by
  have htoken : ∀ {p : Prog (Except ApiErrorResponse Token)},
      AtMost (weight signin request other) (signin + other + other) p →
        AtMost (weight signin request other) (signin + 3 * other) (awaiting p) :=
    fun h => (awaiting_atMost h).mono (by omega)
  refine (AtMost.read.bind fun s => ((htoken getToken_atMost).bind
    (m := signin + 3 * other + 2 * request) fun tokenResp => ?_)).mono (by omega)
  cases tokenResp with
  | error e => exact .pure _ _
  | ok token =>
    refine ((fetch_atMost s.currentOrigin token false).bind
      (m := signin + 3 * other + request) fun resp => ?_).mono (by omega)
    cases resp with
    | none => exact .pure _ _
    | some resp =>
      dsimp only
      split_ifs
      · refine (htoken refreshToken_atMost).bind fun tokenResp => ?_
        cases tokenResp with
        | error e => exact .pure _ _
        | ok token =>
          refine (fetch_atMost s.currentOrigin token true).bind (m := 0) fun resp => ?_
          cases resp <;> exact .pure 0 _
      · exact .pure _ _

end Attempt

/-! ## A call -/

section Call

variable {n m : ℕ} {α : Type}

theorem awaiting_attempts {p : Prog α} (h : Calls tryApiReq Unsent n m p) :
    Calls tryApiReq Unsent n (m + 1) (awaiting p) :=
  h.bind_le 0 1 le_rfl le_rfl fun a =>
    (Calls.ask (q := Question.tick) trivial).bind_le 0 0 le_rfl le_rfl fun _ => .pure 0 0 a

theorem tryApiReq_attempts : Calls tryApiReq Unsent 1 1 (awaiting tryApiReq) :=
  awaiting_attempts (.self tryApiReq Unsent)

theorem switchOrigin_attempts (origin : String) :
    Calls tryApiReq Unsent 0 0 (switchOrigin origin) := .modify _

variable (L : URL) (params : DriverParams)

theorem followMisdirected_attempts (resp : Response) :
    Calls tryApiReq Unsent 1 3 (followMisdirected L params resp) := by
  have hswitch : Calls tryApiReq Unsent 0 1 (switchToRedirectTarget L params resp) := by
    refine (Calls.ask (q := Question.body) trivial).bind_le 0 0 le_rfl le_rfl fun _ =>
      Calls.read.bind_le 0 0 le_rfl le_rfl fun s => ?_
    split
    · exact (switchOrigin_attempts _).bind fun _ => .pure 0 0 _
    · exact .pure 0 0 _
  refine (awaiting_attempts hswitch).bind_le 1 1 le_rfl le_rfl fun switched => ?_
  split_ifs
  · exact tryApiReq_attempts
  · exact .pure _ _ _

/-- Each origin gets two attempts at most: one there, and one where it redirects to. -/
theorem fallbackLoop_attempts (triedOrigins : List String) :
    ∀ (origins : List String) (lastError : Option Response),
      Calls tryApiReq Unsent (2 * origins.length) (5 * origins.length)
        (fallbackLoop L params triedOrigins origins lastError)
  | [], lastError => by
    unfold fallbackLoop
    split <;> exact .pure _ _ _
  | origin :: origins, lastError => by
    have hrest := fallbackLoop_attempts triedOrigins origins
    rw [List.length_cons, Nat.mul_succ, Nat.mul_succ]
    unfold fallbackLoop
    split_ifs
    · exact (hrest lastError).mono (by omega) (by omega)
    · refine (switchOrigin_attempts origin).bind_le _ _ (Nat.zero_add _).le (Nat.zero_add _).le
        fun _ => tryApiReq_attempts.bind_le (2 * origins.length + 1) (5 * origins.length + 4)
          (by omega) (by omega) fun initial => ?_
      cases initial with
      | null => exact (hrest lastError).mono (by omega) (by omega)
      | err e => exact .pure _ _ _
      | response initial =>
        dsimp only
        split_ifs
        · refine (awaiting_attempts (followMisdirected_attempts L params initial)).bind_le
            (2 * origins.length) (5 * origins.length) (by omega) (by omega) fun redirected => ?_
          cases redirected with
          | null => exact hrest lastError
          | err e => exact .pure _ _ _
          | response resp =>
            dsimp only
            split_ifs
            · exact .pure _ _ _
            · exact hrest (some resp)
        · exact .pure _ _ _
        · exact (hrest (some initial)).mono (by omega) (by omega)

theorem fallBack_attempts (triedOrigins : List String) (result : Option Response) :
    Calls tryApiReq Unsent (2 * params.allOrigins.length) (5 * params.allOrigins.length + 1)
      (fallBack L params triedOrigins result) := by
  have hback : ∀ origin r, Calls tryApiReq Unsent 0 0
      (switchOrigin origin >>= fun _ => pure (.response r) : Prog ApiResult) :=
    fun origin r => (switchOrigin_attempts origin).bind fun _ => .pure 0 0 _
  refine Calls.read.bind_le _ _ (by omega) (by omega) fun s =>
    (awaiting_attempts (fallbackLoop_attempts L params (s.currentOrigin :: triedOrigins)
      params.allOrigins none)).bind_le 0 0 le_rfl le_rfl fun fallback => ?_
  split
  · exact .pure _ _ _
  · exact .pure _ _ _
  · split_ifs
    · exact .pure _ _ _
    · exact hback _ _
  · exact hback _ _
  · exact .pure _ _ _

/-- The attempts of one pass: at the current origin and its redirection, then at the others. -/
theorem apiReqOnce_attempts :
    Calls tryApiReq Unsent (2 + 2 * params.allOrigins.length) (6 + 5 * params.allOrigins.length)
      (apiReqOnce L params) := by
  have hrest := fallBack_attempts L params
  refine (Calls.modify _).bind_le _ _ (Nat.zero_add _).le (Nat.zero_add _).le fun _ =>
    Calls.read.bind_le _ _ (Nat.zero_add _).le (Nat.zero_add _).le fun s =>
      tryApiReq_attempts.bind_le (1 + 2 * params.allOrigins.length)
        (5 + 5 * params.allOrigins.length) (by omega) (by omega) fun initial => ?_
  cases initial with
  | err e => exact .pure _ _ _
  | null => exact (hrest _ none).mono (by omega) (by omega)
  | response result =>
    dsimp only
    split_ifs
    · refine (awaiting_attempts (followMisdirected_attempts L params result)).bind_le
        (2 * params.allOrigins.length) (5 * params.allOrigins.length + 1)
        (by omega) (by omega) fun redirected => ?_
      cases redirected with
      | err e => exact .pure _ _ _
      | null => exact hrest _ none
      | response result =>
        dsimp only
        split_ifs
        · exact .pure _ _ _
        · exact hrest _ (some result)
    · exact .pure _ _ _
    · exact (hrest _ (some result)).mono (by omega) (by omega)

theorem retryLoop_attempts {n m : ℕ} (hpass : Calls tryApiReq Unsent n m (apiReqOnce L params)) :
    ∀ (retries : ℕ) (result : ApiResult),
      Calls tryApiReq Unsent (retries * n) (retries * (m + 2)) (retryLoop L params retries result)
  | 0, result => .pure _ _ _
  | retries + 1, result => by
    rw [Nat.succ_mul, Nat.succ_mul]
    unfold retryLoop
    split_ifs
    · exact (Calls.ask (q := Question.sleep) trivial).bind_le (retries * n + n)
        (retries * (m + 2) + (m + 1)) (by omega) (by omega) fun _ =>
          (awaiting_attempts hpass).bind_le (retries * n) (retries * (m + 2)) (by omega) (by omega)
            fun result => retryLoop_attempts hpass retries result
    · exact .pure _ _ _

theorem apiReq_attempts :
    Calls tryApiReq Unsent
      ((PRIMARY_FAILOVER_RETRIES + 1) * (2 + 2 * params.allOrigins.length))
      (PRIMARY_FAILOVER_RETRIES + (PRIMARY_FAILOVER_RETRIES + 1) *
        (7 + 5 * params.allOrigins.length)) (apiReq L params) := by
  have hpass := apiReqOnce_attempts L params
  exact (awaiting_attempts hpass).bind_le _ _ (by unfold PRIMARY_FAILOVER_RETRIES; omega)
    (by unfold PRIMARY_FAILOVER_RETRIES; omega) fun result =>
      retryLoop_attempts L params hpass PRIMARY_FAILOVER_RETRIES result

/-- How much a call does at most, when `n` origins are configured. -/
structure Bounded (n : ℕ) (call : Prog ApiResult) : Prop where
  /-- requests and sign-ins are sent by the attempts only -/
  attempts : Calls tryApiReq Unsent ((PRIMARY_FAILOVER_RETRIES + 1) * (2 + 2 * n))
    (PRIMARY_FAILOVER_RETRIES + (PRIMARY_FAILOVER_RETRIES + 1) * (7 + 5 * n)) call
  requests : AtMost (weight 0 1 0) 2 tryApiReq
  signins : AtMost (weight 1 0 0) 2 tryApiReq
  /-- the awaits along every path: the call ends -/
  awaits : AtMost (weight 1 1 1)
    (PRIMARY_FAILOVER_RETRIES + (PRIMARY_FAILOVER_RETRIES + 1) * (27 + 25 * n)) call

/-- **A call makes a bounded number of attempts, each with two requests and two sign-ins at most,
whatever the servers reply and whatever other calls do in between.** -/
theorem apiReq_bounded : Bounded params.allOrigins.length (apiReq L params) where
  attempts := apiReq_attempts L params
  requests := tryApiReq_atMost
  signins := tryApiReq_atMost
  awaits := ((apiReq_attempts L params).atMost tryApiReq_atMost fun _ => weight_of_unsent).mono
    (by unfold PRIMARY_FAILOVER_RETRIES; omega)

end Call

end TypeDBDriver.Http.HttpDriver
