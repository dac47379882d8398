import TypeDBDriver.Http.Coherence

/-!
# Tokens and their origins

Any number of calls of `apiReq` on one driver, interleaved at their awaits.

* `calls`: the interleavings.
* `Bound`: the token at hand was issued by the current origin, and so was each stored one when it
  was stored; `Addressed`: a request carries a token of the origin it goes to.
* `Undisturbed`: the origin is still the one that was asked when a sign-in succeeds, and when a
  first request is unauthorized.
* `keeps_signinOnce`, `keeps_tryApiReq`, `keeps_apiReq`: what each function of the driver keeps.
* **`tokens_bound`**: in a run in which replies are undisturbed, every token is stored and sent for
  the origin that issued it. Otherwise a sign-in stores its token for an origin that another call
  has switched to.
-/

namespace TypeDBDriver.Http

open HttpDriver Transition

/-- The token at hand and all tokens stored so far are bound to their origins. -/
structure Bound (s : HttpDriver) : Prop where
  token : ∀ token, s.token = some token → token.issuer = s.currentOrigin
  stored : ∀ x ∈ s.stored, x.1.issuer = x.2

/-- A request carries a token of the origin it goes to. -/
def Addressed : Question → Prop
  | .request origin token _ => token.issuer = origin
  | _ => True

/-- A reply on which the driver acts for the origin that was asked finds it current. -/
def Undisturbed : Question → Option HttpReply → HttpDriver → Prop
  | .request origin _ false, some reply, s =>
    reply.status = HTTP_UNAUTHORIZED → s.currentOrigin = origin
  | .signinBody origin reply, _, s =>
    reply.ok = true → (tokenOf reply).isSome = true → s.currentOrigin = origin
  | _, _, _ => True

instance (q : Question) (reply : Option HttpReply) (s : HttpDriver) :
    Decidable (Undisturbed q reply s) := by
  unfold Undisturbed
  split <;> infer_instance

/-- Calls on one driver, interleaved at their awaits. -/
def calls (L : URL) (params : DriverParams) :
    System (Async.Pool HttpDriver Question (Option HttpReply) ApiResult)
      (Async.PoolAction (Option HttpReply) Unit) :=
  Async.pool (fun _ => apiReq L params) fun s => s = .fresh params.remoteOrigin

abbrev Keeps {α : Type} (p : Prog α) : Prop := Async.Keeps Bound Addressed Undisturbed p

/-! ## Sign-in -/

theorem bound_switchOrigin {s : HttpDriver} (h : Bound s) (origin : String) :
    Bound { s with currentOrigin := origin, token := none } := ⟨nofun, h.stored⟩

theorem bound_storeToken {s : HttpDriver} (h : Bound s) {token : Token}
    (htoken : token.issuer = s.currentOrigin) :
    Bound { s with token := some token, stored := s.stored ++ [(token, s.currentOrigin)] } where
  token := by
    rintro t ⟨⟩
    exact htoken
  stored x hx := by
    rcases List.mem_append.mp hx with hx | hx
    · exact h.stored x hx
    · rw [List.mem_singleton.mp hx]
      exact htoken

/-- At the end of an asynchronous function other calls go on. -/
theorem wp_awaiting {α : Type} {p : Prog α} {post : α → HttpDriver → Prop} {s : HttpDriver}
    (h : Async.wp Bound Addressed Undisturbed p
      (fun a s' => Bound s' ∧ ∀ s'', Bound s'' → post a s'') s) :
    Async.wp Bound Addressed Undisturbed (awaiting p) post s := by
  simp only [awaiting, Async.wp_bind, Async.wp_ask, Async.wp_pure]
  refine Async.wp_mono h fun a s' hs' => ⟨hs'.1, trivial, fun _ s'' hs'' _ => ?_⟩
  exact hs'.2 s'' hs''

theorem keeps_awaiting {α : Type} {p : Prog α} (h : Keeps p) : Keeps (awaiting p) := fun s hs =>
  wp_awaiting (Async.wp_mono (h s hs) fun _ _ hs' => ⟨hs', fun _ hs'' => hs''⟩)

/-- A token of the origin that was current, if any. -/
def TokenOf (origin : String) : Except ApiErrorResponse Token → Prop
  | .ok token => token.issuer = origin
  | .error _ => True

/-- A sign-in gives a token of the origin that was current at its start. -/
theorem wp_signinOnce {s : HttpDriver} (hs : Bound s) :
    Async.wp Bound Addressed Undisturbed signinOnce
      (fun r s' => Bound s' ∧ TokenOf s.currentOrigin r) s := by
  simp only [signinOnce, Async.wp_bind, Async.wp_read, Async.wp_ask]
  refine ⟨hs, trivial, fun reply s₁ hs₁ _ => ?_⟩
  cases reply with
  | none => exact ⟨hs₁, trivial⟩
  | some resp =>
    simp only [Async.wp_bind, Async.wp_ask]
    refine ⟨hs₁, trivial, fun _ s₂ hs₂ hundisturbed => ?_⟩
    cases htoken : (if resp.ok = true then tokenOf resp else none) with
    | some text =>
      obtain ⟨hok, htext⟩ := Option.ite_none_right_eq_some.mp htoken
      have hcurrent : s₂.currentOrigin = s.currentOrigin := hundisturbed hok (by rw [htext]; rfl)
      exact ⟨bound_storeToken hs₂ hcurrent.symm, rfl⟩
    | none =>
      cases resp.body.bind fun json => apiError json resp.status with
      | some error => exact ⟨hs₂, trivial⟩
      | none => exact ⟨hs₂, trivial⟩

theorem wp_refreshToken {s : HttpDriver} (hs : Bound s) :
    Async.wp Bound Addressed Undisturbed refreshToken
      (fun r s' => Bound s' ∧ TokenOf s.currentOrigin r) s :=
  wp_awaiting (Async.wp_mono (wp_signinOnce hs) fun _ _ ⟨hs', hr⟩ =>
    ⟨hs', fun _ hs'' => ⟨hs'', hr⟩⟩)

theorem wp_getToken {s : HttpDriver} (hs : Bound s) :
    Async.wp Bound Addressed Undisturbed getToken
      (fun r s' => Bound s' ∧ TokenOf s.currentOrigin r) s := by
  simp only [getToken, Async.wp_bind, Async.wp_read]
  cases htoken : s.token with
  | none => exact wp_refreshToken hs
  | some token =>
    by_cases hempty : token.text = ""
    · simp only [hempty, if_true]
      exact wp_refreshToken hs
    · simp only [hempty, if_false, Async.wp_pure]
      exact ⟨hs, hs.token token htoken⟩

/-! ## Requests -/

/-- A request with a token of its origin; if a first one is unauthorized, its origin is current. -/
theorem wp_fetch {s : HttpDriver} (hs : Bound s) {origin : String} {token : Token}
    (htoken : token.issuer = origin) (refreshed : Bool) :
    Async.wp Bound Addressed Undisturbed (fetch origin token refreshed)
      (fun r s' => Bound s' ∧ ∀ resp, r = some resp → refreshed = false →
        resp.status = HTTP_UNAUTHORIZED → s'.currentOrigin = origin) s := by
  simp only [fetch, Async.wp_bind, Async.wp_ask]
  refine ⟨hs, htoken, fun reply s₁ hs₁ hundisturbed => ?_⟩
  cases reply with
  | none => exact ⟨hs₁, nofun⟩
  | some reply =>
    refine ⟨⟨hs₁.token, hs₁.stored⟩, ?_⟩
    rintro resp ⟨⟩ rfl hstatus
    exact hundisturbed hstatus

theorem keeps_tryApiReq : Keeps tryApiReq := by
  intro s hs
  simp only [tryApiReq, Async.wp_bind, Async.wp_read]
  refine wp_awaiting (Async.wp_mono (wp_getToken hs) fun tokenResp s₁ ⟨hs₁, htoken⟩ =>
    ⟨hs₁, fun s₂ hs₂ => ?_⟩)
  cases tokenResp with
  | error e => exact hs₂
  | ok token =>
    simp only [Async.wp_bind]
    refine Async.wp_mono (wp_fetch hs₂ htoken false) fun resp s₃ ⟨hs₃, hcurrent⟩ => ?_
    cases resp with
    | none => exact hs₃
    | some resp =>
      by_cases hstatus : resp.status = HTTP_UNAUTHORIZED
      · simp only [hstatus, if_true, Async.wp_bind]
        have horigin := hcurrent resp rfl rfl hstatus
        refine wp_awaiting (Async.wp_mono (wp_refreshToken hs₃) fun tokenResp s₄ ⟨hs₄, htoken⟩ =>
          ⟨hs₄, fun s₅ hs₅ => ?_⟩)
        rw [horigin] at htoken
        cases tokenResp with
        | error e => exact hs₅
        | ok token =>
          simp only [Async.wp_bind]
          refine Async.wp_mono (wp_fetch hs₅ htoken true) fun resp s₆ ⟨hs₆, _⟩ => ?_
          cases resp <;> exact hs₆
      · simp only [hstatus, if_false]
        exact hs₃

theorem keeps_switchOrigin (origin : String) : Keeps (switchOrigin origin) :=
  .modify fun _ hs => bound_switchOrigin hs origin

section Loops

variable (L : URL) (params : DriverParams)

theorem keeps_switchToRedirectTarget (resp : Response) :
    Keeps (switchToRedirectTarget L params resp) := by
  refine .bind (.ask trivial) fun _ => .bind .read fun s => ?_
  cases redirectTarget L params resp s.currentOrigin with
  | some newOrigin => exact .bind (keeps_switchOrigin newOrigin) fun _ => .pure true
  | none => exact .pure false

theorem keeps_followMisdirected (resp : Response) :
    Keeps (followMisdirected L params resp) := by
  refine .bind (keeps_awaiting (keeps_switchToRedirectTarget L params resp)) fun switched => ?_
  cases switched with
  | true => exact keeps_awaiting keeps_tryApiReq
  | false => exact .pure _

theorem keeps_fallbackLoop (triedOrigins origins : List String) (lastError : Option Response) :
    Keeps (fallbackLoop L params triedOrigins origins lastError) := by
  induction origins generalizing lastError with
  | nil => cases lastError <;> exact .pure _
  | cons origin origins ih =>
    unfold fallbackLoop
    split
    · exact ih lastError
    · refine .bind (keeps_switchOrigin origin) fun _ =>
        .bind (keeps_awaiting keeps_tryApiReq) fun initial => ?_
      cases initial with
      | null => exact ih lastError
      | err e => exact .pure _
      | response initial =>
        simp only
        split
        · refine .bind (keeps_awaiting (keeps_followMisdirected L params initial))
            fun redirected => ?_
          cases redirected with
          | null => exact ih lastError
          | err e => exact .pure _
          | response resp =>
            simp only
            split
            · exact .pure _
            · exact ih (some resp)
        · split
          · exact .pure _
          · exact ih (some initial)

theorem keeps_fallBack (triedOrigins : List String) (result : Option Response) :
    Keeps (fallBack L params triedOrigins result) := by
  refine .bind .read fun s => .bind (keeps_awaiting (keeps_fallbackLoop L params _ _ _))
    fun fallback => ?_
  cases fallback with
  | err e => exact .pure _
  | null =>
    cases result with
    | none => exact .pure _
    | some result => exact .bind (keeps_switchOrigin s.currentOrigin) fun _ => .pure _
  | response resp =>
    cases result with
    | none => exact .pure _
    | some result =>
      simp only
      split
      · exact .pure _
      · exact .bind (keeps_switchOrigin s.currentOrigin) fun _ => .pure _

theorem keeps_apiReqOnce : Keeps (apiReqOnce L params) := by
  refine .bind (.modify fun s hs => ⟨hs.token, hs.stored⟩) fun _ => .bind .read fun s =>
    .bind (keeps_awaiting keeps_tryApiReq) fun initial => ?_
  cases initial with
  | err e => exact .pure _
  | null => exact keeps_fallBack L params _ none
  | response result =>
    simp only
    split
    · refine .bind (keeps_awaiting (keeps_followMisdirected L params result)) fun redirected => ?_
      cases redirected with
      | err e => exact .pure _
      | null => exact keeps_fallBack L params _ none
      | response result =>
        simp only
        split
        · exact .pure _
        · exact keeps_fallBack L params _ (some result)
    · split
      · exact .pure _
      · exact keeps_fallBack L params _ (some result)

theorem keeps_retryLoop (retries : ℕ) (result : ApiResult) :
    Keeps (retryLoop L params retries result) := by
  induction retries generalizing result with
  | zero => exact .pure _
  | succ retries ih =>
    unfold retryLoop
    split
    · exact .bind (.ask trivial) fun _ =>
        .bind (keeps_awaiting (keeps_apiReqOnce L params)) fun result => ih result
    · exact .pure _

theorem keeps_apiReq : Keeps (apiReq L params) :=
  .bind (keeps_awaiting (keeps_apiReqOnce L params)) fun result => keeps_retryLoop L params _ result

end Loops

/-- **In every interleaving with undisturbed replies, tokens are stored and sent for the origins
that issued them.** -/
theorem tokens_bound (L : URL) (params : DriverParams)
    {p : Async.Pool HttpDriver Question (Option HttpReply) ApiResult}
    (h : (calls L params).Reaches (Async.AllowedStep Undisturbed) p) :
    (∀ x ∈ p.shared.stored, x.1.issuer = x.2) ∧
      ∀ origin token refreshed, .request origin token refreshed ∈ p.sent →
        token.issuer = origin := by
  have hinit : ∀ s, s = .fresh params.remoteOrigin → Bound s := by
    rintro s rfl
    exact ⟨nofun, nofun⟩
  have hinv := Async.pool_invariant hinit (fun _ => keeps_apiReq L params) h
  exact ⟨hinv.shared.stored, fun origin token refreshed hsent => hinv.sent _ hsent⟩

/-- The reply to a sign-in that succeeds. -/
def signedIn (text : String) : Option HttpReply :=
  some ⟨200, some (.object [("token", .string text)])⟩

/-- Two servers. -/
def twoServers : System (Async.Pool HttpDriver Question (Option HttpReply) ApiResult)
    (Async.PoolAction (Option HttpReply) Unit) :=
  calls ⟨fun _ => none, fun _ => none⟩ (.basic ["a", "b"])

theorem twoServers_init : twoServers.Init ⟨.fresh "a", [], []⟩ := ⟨rfl, rfl, rfl⟩

/-- A call signs in and sends its request. -/
theorem tokens_bound_run : ∃ p, twoServers.Reaches (Async.AllowedStep Undisturbed) p ∧
    p.shared.stored ≠ [] ∧ (∀ x ∈ p.shared.stored, x.1.issuer = x.2) ∧
      ∀ origin token refreshed, .request origin token refreshed ∈ p.sent →
        token.issuer = origin := by
  have hrun : (twoServers.runChecked
      (Async.allowedTest fun q reply s => decide (Undisturbed q reply s)) ⟨.fresh "a", [], []⟩
      [.start (), .resume 0 (signedIn "t"), .resume 0 none, .resume 0 none, .resume 0 none]).any
      (fun p => decide (p.shared.stored = [(⟨"t", "a"⟩, "a")])) = true := by rfl
  obtain ⟨p, hp, hstored⟩ := exists_reaches
    (Async.allowedStep_of_test fun q reply s => of_decide_eq_true) twoServers_init hrun
  exact ⟨p, hp, by rw [of_decide_eq_true hstored]; nofun, tokens_bound _ _ hp⟩

/-- While one call signs in at a server, another one that could not reach it switches to the
next. -/
theorem not_tokens_bound :
    ¬∀ p, twoServers.Reachable p → ∀ x ∈ p.shared.stored, x.1.issuer = x.2 := by
  intro h
  have hrun : (twoServers.runChecked (fun _ _ => true) ⟨.fresh "a", [], []⟩
      [.start (), .start (), .resume 0 none, .resume 0 none, .resume 0 none, .resume 0 none,
        .resume 1 (signedIn "t"), .resume 1 none]).any
      (fun p => decide (p.shared.stored = [(⟨"t", "a"⟩, "b")])) = true := by rfl
  obtain ⟨p, hp, hstored⟩ := exists_reachable twoServers_init hrun
  have horigin : "a" = "b" :=
    h p hp (⟨"t", "a"⟩, "b") (by rw [of_decide_eq_true hstored]; exact List.mem_cons_self)
  exact absurd horigin (by decide)

end TypeDBDriver.Http
