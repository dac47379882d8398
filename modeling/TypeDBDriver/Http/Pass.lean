import TypeDBDriver.Http.Driver

/-!
# One pass over the origins

A request runs alone, against a network that answers sign-ins and requests.

* `HttpNetwork`, `World`, `SigninSucceeds`: the network, and that it never refuses a sign-in.
* `attempt`, `Visit`, `visit`: a single request, and one that follows a redirect.
* `Pass`, `pass`: whom `apiReqOnce` turns to, and what they answer.
* `run_tryApiReq`: an attempt asks the current origin and no other.
* **`run_apiReqOnce`**: what a pass returns, and which origin it leaves behind.
-/

namespace TypeDBDriver.Http

open HttpDriver

/-- A network with a state of type `σ`; `none` is a server that cannot be reached. -/
structure HttpNetwork (σ : Type) where
  signin : String → σ → Option HttpReply × σ
  request : String → Token → σ → Option HttpReply × σ

variable {σ α : Type}

def HttpNetwork.answer (net : HttpNetwork σ) : Question → σ → Option HttpReply × σ
  | .signin origin, state => net.signin origin state
  | .request origin token _, state => net.request origin token state
  | .signinBody _ _, state | .body, state | .tick, state | .sleep, state => (none, state)

/-- Every sign-in that reaches a server succeeds. -/
def HttpNetwork.SigninSucceeds (net : HttpNetwork σ) : Prop :=
  ∀ origin state reply, (net.signin origin state).1 = some reply →
    reply.ok = true ∧ (tokenOf reply).isSome = true

/-- The driver and the state of the network. -/
abbrev World (σ : Type) : Type := HttpDriver × σ

/-- The result of a program that runs alone, and the world after it. -/
def HttpNetwork.run (net : HttpNetwork σ) (p : Prog α) (w : World σ) : α × World σ :=
  Async.run net.answer p w

/-- The world after a switch to an origin. -/
def World.switch (origin : String) (w : World σ) : World σ :=
  ({ w.1 with currentOrigin := origin, token := none }, w.2)

section Run

variable (net : HttpNetwork σ) (w : World σ)

@[simp] theorem run_pure (a : α) : net.run (pure a) w = (a, w) := rfl

@[simp] theorem run_bind {β : Type} (p : Prog α) (f : α → Prog β) :
    net.run (p >>= f) w = net.run (f (net.run p w).1) (net.run p w).2 :=
  Async.run_bind p f

@[simp] theorem run_read : net.run Async.read w = (w.1, w) := rfl

@[simp] theorem run_modify (f : HttpDriver → HttpDriver) :
    net.run (Async.modify f) w = ((), (f w.1, w.2)) := rfl

@[simp] theorem run_tick : net.run (Async.ask .tick) w = (none, w) := rfl

@[simp] theorem run_body : net.run (Async.ask .body) w = (none, w) := rfl

@[simp] theorem run_sleep : net.run (Async.ask .sleep) w = (none, w) := rfl

@[simp] theorem run_signinBody (origin : String) (reply : HttpReply) :
    net.run (Async.ask (.signinBody origin reply)) w = (none, w) := rfl

@[simp] theorem run_awaiting (p : Prog α) : net.run (awaiting p) w = net.run p w := by
  simp [awaiting]

@[simp] theorem run_switchOrigin (origin : String) :
    net.run (switchOrigin origin) w = ((), w.switch origin) := rfl

end Run

/-! ## Attempts -/

/-- The requests in a world that have been answered. -/
def World.received (w : World σ) : List Response := w.1.received

/-- A step that leaves the origin and the count of passes alone, and receives `new`. -/
structure World.Receives (w w' : World σ) (new : List Response) : Prop where
  currentOrigin : w'.1.currentOrigin = w.1.currentOrigin
  passes : w'.1.passes = w.1.passes
  received : w'.1.received = w.1.received ++ new

theorem World.Receives.trans {w w' w'' : World σ} {new new' : List Response}
    (h : w.Receives w' new) (h' : w'.Receives w'' new') : w.Receives w'' (new ++ new') where
  currentOrigin := h'.currentOrigin.trans h.currentOrigin
  passes := h'.passes.trans h.passes
  received := by rw [h'.received, h.received, List.append_assoc]

variable {net : HttpNetwork σ}

/-- A sign-in gives a token, or the server is not reached. -/
theorem run_signinOnce (hnet : net.SigninSucceeds) (w : World σ) :
    w.Receives (net.run signinOnce w).2 [] ∧
      ((∃ token, (net.run signinOnce w).1 = .ok token) ∨
        ∃ e, (net.run signinOnce w).1 = .error e ∧ tokenErrToResult e = .null) := by
  have hask : net.run (Async.ask (.signin w.1.currentOrigin)) w =
      ((net.signin w.1.currentOrigin w.2).1, (w.1, (net.signin w.1.currentOrigin w.2).2)) := rfl
  cases hreply : (net.signin w.1.currentOrigin w.2).1 with
  | none =>
    simp only [signinOnce, run_bind, run_read, hask, hreply, run_pure]
    exact ⟨⟨rfl, rfl, by simp⟩, .inr ⟨_, rfl, rfl⟩⟩
  | some reply =>
    obtain ⟨hok, htoken⟩ := hnet _ _ _ hreply
    obtain ⟨text, htext⟩ := Option.isSome_iff_exists.mp htoken
    simp only [signinOnce, run_bind, run_read, hask, hreply, run_signinBody, hok, htext, if_true,
      storeToken, run_modify, run_pure]
    exact ⟨⟨rfl, rfl, by simp⟩, .inl ⟨_, rfl⟩⟩

theorem run_getToken (hnet : net.SigninSucceeds) (w : World σ) :
    w.Receives (net.run getToken w).2 [] ∧
      ((∃ token, (net.run getToken w).1 = .ok token) ∨
        ∃ e, (net.run getToken w).1 = .error e ∧ tokenErrToResult e = .null) := by
  have hrefresh := run_signinOnce hnet w
  simp only [getToken, refreshToken, run_bind, run_read]
  cases w.1.token with
  | none => simpa using hrefresh
  | some token =>
    by_cases hempty : token.text = ""
    · simpa [hempty] using hrefresh
    · simp only [hempty, if_false, run_pure]
      exact ⟨⟨rfl, rfl, by simp⟩, .inl ⟨token, rfl⟩⟩

variable (net) in
/-- A response from the origin that was asked, or none. -/
theorem run_fetch (origin : String) (token : Token) (refreshed : Bool) (w : World σ) :
    (net.run (fetch origin token refreshed) w).1 = none ∧
        w.Receives (net.run (fetch origin token refreshed) w).2 [] ∨
      ∃ resp, (net.run (fetch origin token refreshed) w).1 = some resp ∧ resp.origin = origin ∧
        resp.serial = w.1.received.length ∧
        (net.request origin token w.2).1 = some resp.toHttpReply ∧
        w.Receives (net.run (fetch origin token refreshed) w).2 [resp] := by
  have hask : net.run (Async.ask (.request origin token refreshed)) w =
      ((net.request origin token w.2).1, (w.1, (net.request origin token w.2).2)) := rfl
  cases hreply : (net.request origin token w.2).1 with
  | none =>
    simp only [fetch, run_bind, hask, hreply, run_pure]
    exact .inl ⟨trivial, rfl, rfl, by simp⟩
  | some reply =>
    simp only [fetch, run_bind, hask, hreply, run_read, run_modify, run_pure]
    exact .inr ⟨_, rfl, rfl, rfl, rfl, rfl, rfl, rfl⟩

/-- What an attempt results in and receives: a response of the current origin, or none; a first
reply that is unauthorized is followed by a second attempt. -/
structure Attempted (net : HttpNetwork σ) (w w' : World σ) (x : Option Response)
    (new : List Response) : Prop where
  receives : w.Receives w' new
  origin : ∀ r, x = some r → r.origin = w.1.currentOrigin
  serial : ∀ r, x = some r → w.1.received.length ≤ r.serial ∧ r.serial < w'.1.received.length
  reply : ∀ r ∈ new, ∃ origin token state,
    (net.request origin token state).1 = some r.toHttpReply
  mem : ∀ r, x = some r → r ∈ new
  answered : ∀ r ∈ new, r.status ≠ HTTP_UNAUTHORIZED → x = some r

def TryResult.ofResponse : Option Response → TryResult
  | some resp => .response resp
  | none => .null

/-- A reply that is unauthorized. -/
def Unauthorized (net : HttpNetwork σ) (resp : Response) : Prop :=
  resp.status = HTTP_UNAUTHORIZED ∧ ∃ origin token state,
    (net.request origin token state).1 = some resp.toHttpReply

/-- An attempt without a result; the replies in it are unauthorized. -/
theorem attempted_none {w w' : World σ} {before : List Response} (h : w.Receives w' before)
    (hbefore : ∀ r ∈ before, Unauthorized net r) : Attempted net w w' none before where
  receives := h
  origin := nofun
  serial := nofun
  reply r hr := (hbefore r hr).2
  mem := nofun
  answered r hr hstatus := absurd (hbefore r hr).1 hstatus

/-- An attempt whose last reply is its result; the replies before it are unauthorized. -/
theorem attempted_fetch {w w₁ w' : World σ} {resp : Response} {before : List Response}
    {token : Token} (h₁ : w.Receives w₁ before) (h : w₁.Receives w' [resp])
    (horigin : resp.origin = w.1.currentOrigin) (hserial : resp.serial = w₁.1.received.length)
    (hreply : (net.request w.1.currentOrigin token w₁.2).1 = some resp.toHttpReply)
    (hbefore : ∀ r ∈ before, Unauthorized net r) :
    Attempted net w w' (some resp) (before ++ [resp]) where
  receives := h₁.trans h
  origin := by
    rintro r ⟨⟩
    exact horigin
  serial := by
    rintro r ⟨⟩
    rw [hserial, h.received, h₁.received]
    simp
  reply r hr := by
    rcases List.mem_append.mp hr with hr | hr
    · exact (hbefore r hr).2
    · rw [List.mem_singleton.mp hr]
      exact ⟨_, _, _, hreply⟩
  mem := by
    rintro r ⟨⟩
    simp
  answered r hr hstatus := by
    rcases List.mem_append.mp hr with hr | hr
    · exact absurd (hbefore r hr).1 hstatus
    · rw [List.mem_singleton.mp hr]

/-- The fetch of an attempt, and its result when nothing follows. -/
theorem attempted_of_fetch {w w₁ : World σ} {before : List Response} (token : Token)
    (refreshed : Bool)
    (h₁ : w.Receives w₁ before) (hbefore : ∀ r ∈ before, Unauthorized net r) :
    ∃ x new, (net.run (fetch w.1.currentOrigin token refreshed) w₁).1 = x ∧
      Attempted net w (net.run (fetch w.1.currentOrigin token refreshed) w₁).2 x new := by
  rcases run_fetch net w.1.currentOrigin token refreshed w₁ with
    ⟨hfetch, hreceives⟩ | ⟨resp, hfetch, horigin, hserial, hreply, hreceives⟩
  · have h := h₁.trans hreceives
    rw [List.append_nil] at h
    exact ⟨none, before, hfetch, attempted_none h hbefore⟩
  · exact ⟨some resp, before ++ [resp], hfetch,
      attempted_fetch h₁ hreceives horigin hserial hreply hbefore⟩

/-- **An attempt asks the current origin and no other.** -/
theorem run_tryApiReq (hnet : net.SigninSucceeds) (w : World σ) :
    ∃ x w' new, net.run tryApiReq w = (.ofResponse x, w') ∧ Attempted net w w' x new := by
  obtain ⟨htoken, hresult⟩ := run_getToken hnet w
  simp only [tryApiReq, run_bind, run_read, run_awaiting]
  rcases hresult with ⟨token, hresult⟩ | ⟨e, hresult, he⟩
  · obtain ⟨x, new, hfetch, hattempt⟩ := attempted_of_fetch token false htoken nofun
    rw [hresult]
    simp only [run_bind]
    rw [hfetch]
    cases x with
    | none => exact ⟨none, _, new, rfl, hattempt⟩
    | some resp =>
      by_cases hstatus : resp.status = HTTP_UNAUTHORIZED
      · simp only [hstatus, if_true, run_bind, refreshToken, run_awaiting]
        -- what was received up to here is this response, which is unauthorized
        have hnew : ∀ r ∈ new, Unauthorized net r := by
          intro r hr
          refine ⟨?_, hattempt.reply r hr⟩
          by_contra hne
          cases hattempt.answered r hr hne
          exact hne hstatus
        obtain ⟨hrefresh, hresult⟩ := run_signinOnce hnet
          (net.run (fetch w.1.currentOrigin token false) (net.run getToken w).2).2
        have hreceives := hattempt.receives.trans hrefresh
        rw [List.append_nil] at hreceives
        rcases hresult with ⟨token', hresult⟩ | ⟨e, hresult, he⟩
        · obtain ⟨x, new', hfetch', hattempt'⟩ := attempted_of_fetch token' true hreceives hnew
          rw [hresult]
          simp only [run_bind]
          rw [hfetch']
          cases x with
          | none => exact ⟨none, _, new', rfl, hattempt'⟩
          | some resp' => exact ⟨some resp', _, new', rfl, hattempt'⟩
        · rw [hresult]
          simp only [he, run_pure]
          exact ⟨none, _, new, rfl, attempted_none hreceives hnew⟩
      · simp only [hstatus, if_false, run_pure]
        exact ⟨some resp, _, new, rfl, hattempt⟩
  · rw [hresult]
    simp only [he, run_pure]
    exact ⟨none, _, [], rfl, attempted_none htoken nofun⟩

/-! ## Visits -/

/-- The response of an attempt, if there is one. -/
def attempt (net : HttpNetwork σ) (w : World σ) : Option Response × World σ :=
  match net.run tryApiReq w with
  | (.response resp, w') => (some resp, w')
  | (_, w') => (none, w')

theorem run_tryApiReq_eq (hnet : net.SigninSucceeds) (w : World σ) :
    net.run tryApiReq w = (.ofResponse (attempt net w).1, (attempt net w).2) := by
  obtain ⟨x, w', new, hrun, -⟩ := run_tryApiReq hnet w
  rw [attempt, hrun]
  cases x <;> rfl

theorem attempted_attempt (hnet : net.SigninSucceeds) (w : World σ) :
    ∃ new, Attempted net w (attempt net w).2 (attempt net w).1 new := by
  obtain ⟨x, w', new, hrun, h⟩ := run_tryApiReq hnet w
  refine ⟨new, ?_⟩
  rw [attempt, hrun]
  cases x <;> exact h

/-- An origin that was turned to, what it answered, and where its redirect led and what it
answered there, if there was one to follow. -/
structure Visit where
  origin : String
  answer : Option Response
  redirect : Option (String × Option Response)

namespace Visit

/-- The response that counts; a misdirected one that leads nowhere does not. -/
def result (v : Visit) : Option Response :=
  match v.redirect with
  | some (_, resp) => resp
  | none => v.answer.filter fun resp => resp.status ≠ HTTP_MISDIRECTED

/-- The last response of the visit. -/
def answered (v : Visit) : Option Response :=
  match v.redirect with
  | some (_, resp) => resp
  | none => v.answer

/-- The origin that the visit ended at. -/
def last (v : Visit) : String := (v.redirect.map Prod.fst).getD v.origin

def ok (v : Visit) : Bool := v.result.any fun resp => resp.ok

end Visit

section Visits

variable (L : URL) (params : DriverParams) (net : HttpNetwork σ)

/-- Where a response redirects to. -/
def misdirectedTo (resp : Response) (origin : String) : Option String :=
  if resp.status = HTTP_MISDIRECTED then redirectTarget L params resp origin else none

/-- An attempt, and a second one where the response redirects to. -/
def visit (w : World σ) : Visit × World σ :=
  let (answer, w₁) := attempt net w
  match answer.bind fun resp => misdirectedTo L params resp w.1.currentOrigin with
  | some target =>
    let (redirected, w₂) := attempt net (w₁.switch target)
    (⟨w.1.currentOrigin, answer, some (target, redirected)⟩, w₂)
  | none => (⟨w.1.currentOrigin, answer, none⟩, w₁)

/-- The origins that have not been tried, up to the first that answers ok. -/
def fallbackVisits (triedOrigins : List String) : List String → World σ → List Visit × World σ
  | [], w => ([], w)
  | origin :: origins, w =>
    if origin ∈ triedOrigins then fallbackVisits triedOrigins origins w
    else
      let (v, w) := visit L params net (w.switch origin)
      if v.ok then ([v], w)
      else
        let (vs, w) := fallbackVisits triedOrigins origins w
        (v :: vs, w)

/-- Whom one call of `apiReqOnce` turns to. -/
structure Pass where
  start : Visit
  fallbacks : List Visit

/-- The count of passes goes up. -/
def World.count (w : World σ) : World σ := ({ w.1 with passes := w.1.passes + 1 }, w.2)

def pass (w : World σ) : Pass × World σ :=
  let (start, w₁) := visit L params net w.count
  if start.ok then (⟨start, []⟩, w₁)
  else
    let (fallbacks, w₂) := fallbackVisits L params net [start.last, w.1.currentOrigin]
      params.allOrigins w₁
    (⟨start, fallbacks⟩, w₂)

end Visits

/-- The last response of a list of visits. -/
def lastAnswer (lastError : Option Response) : List Visit → Option Response
  | [] => lastError
  | v :: vs => lastAnswer (v.result.or lastError) vs

namespace Pass

/-- What `apiReqOnce` returns. -/
def result (p : Pass) : Option Response :=
  match p.start.result, lastAnswer none p.fallbacks with
  | some resp, some fallback => if fallback.ok then some fallback else some resp
  | some resp, none => some resp
  | none, fallback => fallback

/-- Where the last visit ended. -/
def last (p : Pass) : String := (p.fallbacks.getLast?.getD p.start).last

/-- The response of the start is returned after the fallbacks were tried. -/
def restored (p : Pass) : Bool :=
  p.start.result.isSome && !p.start.ok && !p.fallbacks.any Visit.ok

end Pass

def ApiResult.ofResponse : Option Response → ApiResult
  | some resp => .response resp
  | none => .err (driverError "HDR1" "Cannot connect to any server")

section Refinement

variable (L : URL) (params : DriverParams)

theorem run_followMisdirected (hnet : net.SigninSucceeds) (resp : Response) (w : World σ) :
    net.run (followMisdirected L params resp) w =
      match redirectTarget L params resp w.1.currentOrigin with
      | some target =>
        (.ofResponse (attempt net (w.switch target)).1, (attempt net (w.switch target)).2)
      | none => (.null, w) := by
  simp only [followMisdirected, switchToRedirectTarget, run_bind, run_awaiting, run_body, run_read]
  cases redirectTarget L params resp w.1.currentOrigin with
  | none => simp
  | some target => simp [run_tryApiReq_eq hnet]

/-- A visit, and what a program goes on with after it. -/
theorem run_visit {β : Type} (hnet : net.SigninSucceeds) (w : World σ) {M R : TryResult → Prog β}
    {N : Prog β} {K : Response → Prog β} (hnull : M .null = N)
    (hresponse : ∀ resp, M (.response resp) =
      if resp.status = HTTP_MISDIRECTED then awaiting (followMisdirected L params resp) >>= R
      else K resp)
    (hnull' : R .null = N) (hresponse' : ∀ resp, R (.response resp) = K resp) :
    net.run (awaiting tryApiReq >>= M) w =
      match (visit L params net w).1.result with
      | some resp => net.run (K resp) (visit L params net w).2
      | none => net.run N (visit L params net w).2 := by
  obtain ⟨new, hattempt⟩ := attempted_attempt hnet w
  simp only [run_bind, run_awaiting, run_tryApiReq_eq hnet]
  unfold visit
  rcases hx : attempt net w with ⟨_ | resp, w₁⟩
  · simp [TryResult.ofResponse, Visit.result, hnull]
  · have horigin : w₁.1.currentOrigin = w.1.currentOrigin := by
      rw [hx] at hattempt
      exact hattempt.receives.currentOrigin
    by_cases hstatus : resp.status = HTTP_MISDIRECTED
    · simp only [TryResult.ofResponse, hresponse, hstatus, if_true, run_bind, run_awaiting,
        run_followMisdirected L params hnet, horigin, Option.bind_some, misdirectedTo]
      cases redirectTarget L params resp w.1.currentOrigin with
      | none => simp [Visit.result, hstatus, hnull', Option.filter]
      | some target =>
        simp only [Visit.result]
        rcases attempt net (w₁.switch target) with ⟨_ | resp', w₂⟩
        · simp only [hnull']
        · simp only [hresponse']
    · simp [TryResult.ofResponse, hresponse, hstatus, misdirectedTo, Visit.result, Option.filter]

theorem lastAnswer_append (lastError : Option Response) (vs us : List Visit) :
    lastAnswer lastError (vs ++ us) = lastAnswer (lastAnswer lastError vs) us := by
  induction vs generalizing lastError with
  | nil => rfl
  | cons v vs ih => exact ih _

/-- What `fallbackLoop` does with the answer of the origin that it was redirected to. -/
def afterRedirect (triedOrigins origins : List String) (lastError : Option Response) :
    TryResult → Prog TryResult
  | .null => fallbackLoop L params triedOrigins origins lastError
  | .err e => pure (.err e)
  | .response resp =>
    if resp.ok then pure (.response resp)
    else fallbackLoop L params triedOrigins origins (some resp)

/-- The loop returns the last answer. -/
theorem run_fallbackLoop (hnet : net.SigninSucceeds) (triedOrigins origins : List String)
    (lastError : Option Response) (w : World σ) :
    net.run (fallbackLoop L params triedOrigins origins lastError) w =
      (.ofResponse (lastAnswer lastError (fallbackVisits L params net triedOrigins origins w).1),
        (fallbackVisits L params net triedOrigins origins w).2) := by
  induction origins generalizing lastError w with
  | nil => cases lastError <;> rfl
  | cons origin origins ih =>
    unfold fallbackLoop fallbackVisits
    by_cases htried : origin ∈ triedOrigins
    · simp only [htried, if_true]
      exact ih lastError w
    · simp only [htried, if_false]
      refine (run_bind net w _ _).trans ?_
      refine (run_visit L params hnet (w.switch origin)
        (R := afterRedirect L params triedOrigins origins lastError)
        (N := fallbackLoop L params triedOrigins origins lastError)
        (K := fun resp => if resp.ok then pure (.response resp)
          else fallbackLoop L params triedOrigins origins (some resp))
        rfl (fun _ => rfl) rfl (fun _ => rfl)).trans ?_
      generalize visit L params net (w.switch origin) = x
      obtain ⟨v, w₁⟩ := x
      cases hresult : v.result with
      | none => simp [Visit.ok, hresult, ih, lastAnswer]
      | some resp =>
        by_cases hok : resp.ok = true
        · simp [Visit.ok, hresult, hok, lastAnswer, TryResult.ofResponse]
        · simp [Visit.ok, hresult, hok, ih, lastAnswer]

end Refinement

/-! ## What visits receive -/

section Made

variable (L : URL) (params : DriverParams)

/-- A visit from one world to another, and the responses received in it. -/
structure Visit.Made (v : Visit) (w w' : World σ) (new : List Response) : Prop where
  currentOrigin : w'.1.currentOrigin = v.last
  passes : w'.1.passes = w.1.passes
  received : w'.1.received = w.1.received ++ new
  origin : ∀ r, v.answered = some r → r.origin = v.last
  serial : ∀ r, v.answered = some r →
    w.1.received.length ≤ r.serial ∧ r.serial < w'.1.received.length
  mem : ∀ r, v.answered = some r → r ∈ new
  ok : ∀ r ∈ new, r.ok = true → v.result = some r

theorem ok_ne {resp : Response} {status : ℕ} (hok : resp.ok = true) (hstatus : 300 ≤ status) :
    resp.status ≠ status := by
  simp only [HttpReply.ok, Bool.and_eq_true, decide_eq_true_eq] at hok
  omega

/-- The response that counts is the last one. -/
theorem Visit.answered_of_result {v : Visit} {r : Response} (h : v.result = some r) :
    v.answered = some r := by
  unfold Visit.result at h
  unfold Visit.answered
  split at h
  · exact h
  · exact (Option.filter_eq_some_iff.mp h).1

theorem visit_made (hnet : net.SigninSucceeds) (w : World σ) :
    ∃ new, (visit L params net w).1.Made w (visit L params net w).2 new := by
  obtain ⟨new, h⟩ := attempted_attempt hnet w
  rcases hx : attempt net w with ⟨answer, w₁⟩
  rw [hx] at h
  cases htarget : answer.bind fun resp => misdirectedTo L params resp w.1.currentOrigin with
  | none =>
    have hvisit : visit L params net w = (⟨w.1.currentOrigin, answer, none⟩, w₁) := by
      simp only [visit, hx, htarget]
    rw [hvisit]
    refine ⟨new, h.receives.currentOrigin, h.receives.passes, h.receives.received, h.origin,
      h.serial, h.mem, fun r hr hok => ?_⟩
    have hanswer : answer = some r := h.answered r hr (ok_ne hok (by decide))
    have hstatus : r.status ≠ HTTP_MISDIRECTED := ok_ne hok (by decide)
    simp [Visit.result, hanswer, Option.filter, hstatus]
  | some target =>
    obtain ⟨resp, rfl, htarget'⟩ := Option.bind_eq_some_iff.mp htarget
    obtain ⟨new', h'⟩ := attempted_attempt hnet (w₁.switch target)
    rcases hx' : attempt net (w₁.switch target) with ⟨redirected, w₂⟩
    rw [hx'] at h'
    have hvisit : visit L params net w =
        (⟨w.1.currentOrigin, some resp, some (target, redirected)⟩, w₂) := by
      simp only [visit, hx, htarget, hx']
    rw [hvisit]
    have hreceived : w₂.1.received = w.1.received ++ (new ++ new') := by
      rw [← List.append_assoc, ← h.receives.received]
      exact h'.receives.received
    refine ⟨new ++ new', h'.receives.currentOrigin, h'.receives.passes.trans h.receives.passes,
      hreceived, h'.origin, ?_, fun r hr => List.mem_append_right _ (h'.mem r hr), ?_⟩
    · intro r hr
      have hle : w.1.received.length ≤ w₁.1.received.length := by
        rw [h.receives.received, List.length_append]
        exact Nat.le_add_right _ _
      exact ⟨hle.trans (h'.serial r hr).1, (h'.serial r hr).2⟩
    · intro r hr hok
      rcases List.mem_append.mp hr with hr | hr
      · -- the first reply is misdirected
        have hanswer := Option.some.inj (h.answered r hr (ok_ne hok (by decide)))
        have hne : r.status ≠ HTTP_MISDIRECTED := ok_ne hok (by decide)
        rw [hanswer, misdirectedTo, if_neg hne] at htarget'
        cases htarget'
      · exact h'.answered r hr (ok_ne hok (by decide))

/-- Visits in a row, of which only the last may have answered ok. -/
structure FellBack (vs : List Visit) (w w' : World σ) (new : List Response) : Prop where
  currentOrigin : w'.1.currentOrigin = (vs.getLast?.map Visit.last).getD w.1.currentOrigin
  passes : w'.1.passes = w.1.passes
  received : w'.1.received = w.1.received ++ new
  origin : ∀ v ∈ vs, ∀ r, v.result = some r → r.origin = v.last
  serial : ∀ v ∈ vs, ∀ r, v.result = some r → w.1.received.length ≤ r.serial
  mem : ∀ v ∈ vs, ∀ r, v.result = some r → r ∈ new
  ok : ∀ r ∈ new, r.ok = true → ∃ v ∈ vs, v.result = some r
  stop : ∀ v ∈ vs, v.ok = true → vs.getLast? = some v

theorem FellBack.single {v : Visit} {origin : String} {w w' : World σ} {new : List Response}
    (h : v.Made (w.switch origin) w' new) : FellBack [v] w w' new where
  currentOrigin := h.currentOrigin
  passes := h.passes
  received := h.received
  origin u hu r hr := by
    rw [List.mem_singleton.mp hu] at hr ⊢
    exact h.origin r (Visit.answered_of_result hr)
  serial u hu r hr := by
    rw [List.mem_singleton.mp hu] at hr
    exact (h.serial r (Visit.answered_of_result hr)).1
  mem u hu r hr := by
    rw [List.mem_singleton.mp hu] at hr
    exact h.mem r (Visit.answered_of_result hr)
  ok r hr hok := ⟨v, List.mem_singleton_self v, h.ok r hr hok⟩
  stop u hu _ := by rw [List.mem_singleton.mp hu]; rfl

/-- A visit that was not ok, and those after it. -/
theorem FellBack.cons {v : Visit} {vs : List Visit} {origin : String} {w w₁ w' : World σ}
    {new new' : List Response} (h : v.Made (w.switch origin) w₁ new) (hv : v.ok = false)
    (hvs : FellBack vs w₁ w' new') : FellBack (v :: vs) w w' (new ++ new') where
  currentOrigin := by
    rw [hvs.currentOrigin, h.currentOrigin, List.getLast?_cons]
    cases vs.getLast? <;> rfl
  passes := hvs.passes.trans h.passes
  received := by
    rw [hvs.received, h.received, List.append_assoc]
    rfl
  origin u hu r hr := by
    rcases List.mem_cons.mp hu with rfl | hu
    · exact h.origin r (Visit.answered_of_result hr)
    · exact hvs.origin u hu r hr
  serial u hu r hr := by
    rcases List.mem_cons.mp hu with rfl | hu
    · exact (h.serial r (Visit.answered_of_result hr)).1
    · have hle : w.1.received.length ≤ w₁.1.received.length := by
        rw [h.received, List.length_append]
        exact Nat.le_add_right _ _
      exact hle.trans (hvs.serial u hu r hr)
  mem u hu r hr := by
    rcases List.mem_cons.mp hu with rfl | hu
    · exact List.mem_append_left _ (h.mem r (Visit.answered_of_result hr))
    · exact List.mem_append_right _ (hvs.mem u hu r hr)
  ok r hr hok := by
    rcases List.mem_append.mp hr with hr | hr
    · exact ⟨v, List.mem_cons_self, h.ok r hr hok⟩
    · obtain ⟨u, hu, hresult⟩ := hvs.ok r hr hok
      exact ⟨u, List.mem_cons_of_mem v hu, hresult⟩
  stop u hu hok := by
    rcases List.mem_cons.mp hu with rfl | hu
    · rw [hv] at hok
      cases hok
    · rw [List.getLast?_cons, hvs.stop u hu hok]
      rfl

theorem fallbackVisits_fellBack (hnet : net.SigninSucceeds) (triedOrigins origins : List String)
    (w : World σ) :
    ∃ new, FellBack (fallbackVisits L params net triedOrigins origins w).1 w
      (fallbackVisits L params net triedOrigins origins w).2 new := by
  induction origins generalizing w with
  | nil => exact ⟨[], rfl, rfl, by simp [fallbackVisits], nofun, nofun, nofun, nofun, nofun⟩
  | cons origin origins ih =>
    unfold fallbackVisits
    by_cases htried : origin ∈ triedOrigins
    · simp only [htried, if_true]
      exact ih w
    · simp only [htried, if_false]
      obtain ⟨new, hmade⟩ := visit_made L params hnet (w.switch origin)
      by_cases hok : (visit L params net (w.switch origin)).1.ok = true
      · simp only [hok, if_true]
        exact ⟨new, .single hmade⟩
      · simp only [hok]
        obtain ⟨new', h⟩ := ih (visit L params net (w.switch origin)).2
        exact ⟨new ++ new', .cons hmade (Bool.eq_false_iff.mpr hok) h⟩

theorem lastAnswer_of_getLast {v : Visit} {r : Response} {vs : List Visit}
    {lastError : Option Response} (hv : vs.getLast? = some v) (hr : v.result = some r) :
    lastAnswer lastError vs = some r := by
  obtain ⟨us, rfl⟩ := List.getLast?_eq_some_iff.mp hv
  simp [lastAnswer_append, lastAnswer, hr]

theorem mem_of_lastAnswer {r : Response} {vs : List Visit} {lastError : Option Response}
    (h : lastAnswer lastError vs = some r) :
    (∃ v ∈ vs, v.result = some r) ∨ lastError = some r := by
  induction vs generalizing lastError with
  | nil => exact .inr h
  | cons v vs ih =>
    rcases ih h with ⟨u, hu, hr⟩ | hr
    · exact .inl ⟨u, List.mem_cons_of_mem v hu, hr⟩
    · cases hresult : v.result with
      | none => exact .inr (by simpa [hresult] using hr)
      | some r' => exact .inl ⟨v, List.mem_cons_self, by simpa [hresult] using hr⟩

/-- A fallback answered ok just when the last answer is ok. -/
theorem FellBack.any_ok {vs : List Visit} {w w' : World σ} {new : List Response}
    (h : FellBack vs w w' new) :
    vs.any Visit.ok = (lastAnswer none vs).any fun resp => resp.ok := by
  rw [Bool.eq_iff_iff, List.any_eq_true, Option.any_eq_true]
  constructor
  · rintro ⟨v, hv, hok⟩
    obtain ⟨r, hr, hrok⟩ := (Option.any_eq_true _ _).mp hok
    exact ⟨r, lastAnswer_of_getLast (h.stop v hv hok) hr, hrok⟩
  · rintro ⟨r, hr, hok⟩
    obtain ⟨v, hv, hresult⟩ := (mem_of_lastAnswer hr).resolve_right nofun
    exact ⟨v, hv, (Option.any_eq_true _ _).mpr ⟨r, hresult, hok⟩⟩

/-- The start of a pass and its fallbacks. -/
theorem pass_made (hnet : net.SigninSucceeds) (w : World σ) :
    ∃ w₁ new₁ new₂, (pass L params net w).1.start.Made w.count w₁ new₁ ∧
      FellBack (pass L params net w).1.fallbacks w₁ (pass L params net w).2 new₂ ∧
      ((pass L params net w).1.start.ok = true → (pass L params net w).1.fallbacks = []) := by
  obtain ⟨new₁, hstart⟩ := visit_made L params hnet w.count
  unfold pass
  by_cases hok : (visit L params net w.count).1.ok = true
  · simp only [hok, if_true]
    exact ⟨_, new₁, [], hstart, ⟨rfl, rfl, by simp, nofun, nofun, nofun, nofun, nofun⟩,
      fun _ => trivial⟩
  · simp only [hok]
    obtain ⟨new₂, hfallbacks⟩ := fallbackVisits_fellBack L params hnet
      [(visit L params net w.count).1.last, w.1.currentOrigin] params.allOrigins
      (visit L params net w.count).2
    exact ⟨_, new₁, new₂, hstart, hfallbacks, fun h => absurd h hok⟩

theorem run_fallBack (hnet : net.SigninSucceeds) (triedOrigins : List String)
    (result : Option Response) (w : World σ) :
    net.run (fallBack L params triedOrigins result) w =
      match lastAnswer none (fallbackVisits L params net (w.1.currentOrigin :: triedOrigins)
          params.allOrigins w).1, result,
        (fallbackVisits L params net (w.1.currentOrigin :: triedOrigins)
          params.allOrigins w).2 with
      | some resp, none, w' => (.response resp, w')
      | some resp, some result, w' =>
        if resp.ok then (.response resp, w') else (.response result, w'.switch w.1.currentOrigin)
      | none, some result, w' => (.response result, w'.switch w.1.currentOrigin)
      | none, none, w' => (.err (driverError "HDR1" "Cannot connect to any server"), w') := by
  simp only [fallBack, run_bind, run_read, run_awaiting, tryFallbackOrigins,
    run_fallbackLoop L params hnet]
  rcases fallbackVisits L params net (w.1.currentOrigin :: triedOrigins) params.allOrigins w with
    ⟨vs, w'⟩
  simp only
  cases lastAnswer none vs with
  | none => cases result <;> rfl
  | some resp =>
    cases result with
    | none => rfl
    | some result =>
      by_cases hok : resp.ok = true
      · simp [TryResult.ofResponse, hok]
      · simp [TryResult.ofResponse, hok]

/-- **What a pass returns, and the world it leaves behind.** -/
theorem run_apiReqOnce (hnet : net.SigninSucceeds) (w : World σ) :
    net.run (apiReqOnce L params) w =
      (.ofResponse (pass L params net w).1.result,
        if (pass L params net w).1.restored
        then (pass L params net w).2.switch (pass L params net w).1.start.last
        else (pass L params net w).2) := by
  have hrun : net.run (apiReqOnce L params) w =
      match (visit L params net w.count).1.result with
      | some resp => net.run (if resp.ok then pure (.response resp)
          else fallBack L params [w.1.currentOrigin] (some resp)) (visit L params net w.count).2
      | none => net.run (fallBack L params [w.1.currentOrigin] none)
          (visit L params net w.count).2 :=
    run_visit L params hnet w.count rfl (fun _ => rfl) rfl (fun _ => rfl)
  obtain ⟨new₁, hstart⟩ := visit_made L params hnet w.count
  have hcurrent := hstart.currentOrigin
  rw [hrun]
  rcases hvisit : visit L params net w.count with ⟨start, w₁⟩
  rw [hvisit] at hcurrent
  simp only at hcurrent ⊢
  by_cases hok : start.ok = true
  · have hpass : pass L params net w = (⟨start, []⟩, w₁) := by simp [pass, hvisit, hok]
    obtain ⟨resp, hresult, hresp⟩ := (Option.any_eq_true _ _).mp hok
    rw [hpass, hresult]
    simp [hresp, hok, Pass.result, Pass.restored, hresult, lastAnswer, ApiResult.ofResponse]
  · have hfallBack := fun result =>
      run_fallBack L params hnet [w.1.currentOrigin] result w₁
    obtain ⟨new₂, hfell⟩ := fallbackVisits_fellBack L params hnet
      [start.last, w.1.currentOrigin] params.allOrigins w₁
    have hany := hfell.any_ok
    rw [hcurrent] at hfallBack
    rcases hfallbacks : fallbackVisits L params net [start.last, w.1.currentOrigin]
      params.allOrigins w₁ with ⟨vs, w₂⟩
    have hpass : pass L params net w = (⟨start, vs⟩, w₂) := by
      simp [pass, hvisit, hok, hfallbacks]
    rw [hfallbacks] at hany hfallBack
    rw [hpass]
    simp only at hany hfallBack ⊢
    clear hfell hvisit hrun hpass hfallbacks
    cases hresult : start.result with
    | none =>
      simp only [hfallBack]
      cases hanswer : lastAnswer none vs <;>
        simp [Pass.result, Pass.restored, hresult, hanswer, ApiResult.ofResponse]
    | some resp =>
      have hresp : ¬resp.ok = true := by simpa [Visit.ok, hresult] using hok
      simp only [hresp, Bool.false_eq_true, if_false, hfallBack]
      cases hanswer : lastAnswer none vs with
      | none =>
        rw [hanswer, Option.any_none] at hany
        simp [hok, hany, Pass.result, Pass.restored, hresult, hanswer, ApiResult.ofResponse]
      | some fallback =>
        rw [hanswer, Option.any_some] at hany
        by_cases hfallback : fallback.ok = true <;>
          simp [hok, hany, hfallback, Pass.result, Pass.restored, hresult, hanswer,
            ApiResult.ofResponse]

end Made

end TypeDBDriver.Http
