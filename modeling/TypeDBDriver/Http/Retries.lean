import TypeDBDriver.Http.Coherence

/-!
# Waiting for a primary

`apiReq` makes up to `PRIMARY_FAILOVER_RETRIES` further passes while its result is misdirected.

* `worldAt`: the world before each pass.
* `WaitsOut`: if every response is misdirected, all passes are made, and an answer that is ok is
  returned.
* `run_awaiting_retryLoop`: one pass, and the passes after it.
* **`waitsOut_iff`**: all passes are made just when in each pass but the last some misdirected
  response names another origin that answers. A misdirected response without a usable hint is taken
  for a server that could not be reached, and the driver gives up.
-/

namespace TypeDBDriver.Http

open HttpDriver

variable {σ : Type} (L : URL) (params : DriverParams) {net : HttpNetwork σ}

/-! ## One pass -/

/-- The visits of a pass. -/
def Pass.visits (p : Pass) : List Visit := p.start :: p.fallbacks

/-- The response named another origin, and that origin answered. -/
def Visit.Redirected (v : Visit) : Prop := ∃ target resp, v.redirect = some (target, some resp)

/-- What a pass receives, and what it makes of it. -/
theorem apiReqOnce_received (hnet : net.SigninSucceeds) (w : World σ) :
    ∃ new, (net.run (apiReqOnce L params) w).2.1.received = w.1.received ++ new ∧
      (net.run (apiReqOnce L params) w).2.1.passes = w.1.passes + 1 ∧
      (∀ v ∈ (pass L params net w).1.visits, ∀ r, v.result = some r → r ∈ new) ∧
      ∀ r ∈ new, r.ok = true → (pass L params net w).1.result = some r := by
  obtain ⟨w₁, new₁, new₂, hstart, hfell, hnone⟩ := pass_made L params hnet w
  have hreceived : (pass L params net w).2.1.received = w.1.received ++ (new₁ ++ new₂) := by
    rw [hfell.received, hstart.received, List.append_assoc]
    rfl
  have hpasses : (pass L params net w).2.1.passes = w.1.passes + 1 :=
    hfell.passes.trans hstart.passes
  refine ⟨new₁ ++ new₂, ?_, ?_, ?_, ?_⟩
  · rw [run_apiReqOnce L params hnet]
    split <;> exact hreceived
  · rw [run_apiReqOnce L params hnet]
    split <;> exact hpasses
  · intro v hv r hr
    rcases List.mem_cons.mp hv with rfl | hv
    · exact List.mem_append_left _ (hstart.mem r (Visit.answered_of_result hr))
    · exact List.mem_append_right _ (hfell.mem v hv r hr)
  · intro r hr hok
    rcases List.mem_append.mp hr with hr | hr
    · have hresult := hstart.ok r hr hok
      have hstartOk : (pass L params net w).1.start.ok = true := by simp [Visit.ok, hresult, hok]
      exact result_of_start hresult hfell (by rw [hnone hstartOk]; rfl)
    · obtain ⟨v, hv, hresult⟩ := hfell.ok r hr hok
      have hvok : v.ok = true := by simp [Visit.ok, hresult, hok]
      rw [Pass.result, lastAnswer_of_getLast (hfell.stop v hv hvok) hresult]
      cases (pass L params net w).1.start.result <;> simp [hok]

theorem Pass.exists_visit {p : Pass} {r : Response} (h : p.result = some r) :
    ∃ v ∈ p.visits, v.result = some r := by
  have hfallback : ∀ r, lastAnswer none p.fallbacks = some r →
      ∃ v ∈ p.visits, v.result = some r := by
    intro r hr
    obtain ⟨v, hv, hvr⟩ := (mem_of_lastAnswer hr).resolve_right nofun
    exact ⟨v, List.mem_cons_of_mem _ hv, hvr⟩
  cases hstart : p.start.result with
  | none => exact hfallback r (by rw [← result_of_none hstart, h])
  | some resp =>
    rw [Pass.result, hstart] at h
    cases hanswer : lastAnswer none p.fallbacks with
    | none =>
      rw [hanswer] at h
      exact ⟨p.start, List.mem_cons_self, hstart.trans h⟩
    | some fallback =>
      rw [hanswer] at h
      by_cases hok : fallback.ok = true
      · simp only [hok, if_true] at h
        exact hfallback r (hanswer.trans h)
      · simp only [hok] at h
        exact ⟨p.start, List.mem_cons_self, hstart.trans h⟩

/-- A pass has a result as soon as one of its visits has. -/
theorem Pass.result_isSome {p : Pass} {v : Visit} (hv : v ∈ p.visits)
    (h : v.result.isSome = true) : p.result.isSome = true := by
  cases hstart : p.start.result with
  | some resp =>
    rw [Pass.result, hstart]
    cases lastAnswer none p.fallbacks with
    | none => rfl
    | some fallback => by_cases hok : fallback.ok = true <;> simp [hok]
  | none =>
    have hfallback : v ∈ p.fallbacks := by
      rcases List.mem_cons.mp hv with rfl | hv
      · rw [hstart] at h
        cases h
      · exact hv
    have hne : (p.fallbacks.filter fun v => v.result.isSome) ≠ [] :=
      List.ne_nil_of_mem (List.mem_filter.mpr ⟨hfallback, h⟩)
    obtain ⟨r, -, hr⟩ := (lastAnswer_of_lastResponder (List.getLast?_eq_some_getLast hne)).2
    rw [result_of_none hstart, hr]
    rfl

theorem redirected_of_result {v : Visit} {r : Response} (hr : v.result = some r)
    (hstatus : r.status = HTTP_MISDIRECTED) : v.Redirected := by
  unfold Visit.result at hr
  split at hr
  case h_1 target resp hredirect => exact ⟨target, r, by rw [hredirect, hr]⟩
  case h_2 =>
    have hne := (Option.filter_eq_some_iff.mp hr).2
    simp [hstatus] at hne

/-- After a pass in which every response was misdirected, the driver waits just when one of them
led to an answer. -/
theorem misdirected_iff (hnet : net.SigninSucceeds) {w : World σ} {new : List Response}
    (hnew : (net.run (apiReqOnce L params) w).2.1.received = w.1.received ++ new)
    (hstatus : ∀ r ∈ new, r.status = HTTP_MISDIRECTED) :
    (net.run (apiReqOnce L params) w).1.status = HTTP_MISDIRECTED ↔
      ∃ v ∈ (pass L params net w).1.visits, v.Redirected := by
  obtain ⟨new', hnew', -, hmem, -⟩ := apiReqOnce_received L params hnet w
  obtain rfl := List.append_cancel_left (hnew.symm.trans hnew')
  rw [run_apiReqOnce L params hnet]
  constructor
  · intro h
    cases hresult : (pass L params net w).1.result with
    | none =>
      rw [hresult] at h
      cases h
    | some r =>
      obtain ⟨v, hv, hr⟩ := Pass.exists_visit hresult
      exact ⟨v, hv, redirected_of_result hr (hstatus r (hmem v hv r hr))⟩
  · rintro ⟨v, hv, target, resp, hredirect⟩
    have hsome : v.result.isSome = true := by simp [Visit.result, hredirect]
    obtain ⟨r, hr⟩ := Option.isSome_iff_exists.mp (Pass.result_isSome hv hsome)
    obtain ⟨u, hu, hur⟩ := Pass.exists_visit hr
    rw [hr]
    exact hstatus r (hmem u hu r hur)

/-! ## All passes -/

section Retries

variable (net)

/-- The world before the `k`-th further pass, if every pass is made. -/
def worldAt : ℕ → World σ → World σ
  | 0, w => w
  | k + 1, w => worldAt k (net.run (apiReqOnce L params) w).2

/-- The responses that a call of `apiReq` receives. -/
def replies (w : World σ) : List Response :=
  (net.run (apiReq L params) w).2.1.received.drop w.1.received.length

/-- The driver waits for a primary, and returns its answer. -/
structure WaitsOut (w : World σ) : Prop where
  passes : (∀ r ∈ replies L params net w, r.status = HTTP_MISDIRECTED) →
    (net.run (apiReq L params) w).2.1.passes = w.1.passes + (PRIMARY_FAILOVER_RETRIES + 1)
  answer : ∀ r ∈ replies L params net w, r.ok = true →
    (net.run (apiReq L params) w).1 = .response r

end Retries

/-- A pass, and up to `n` after it. -/
def passes (n : ℕ) : Prog ApiResult :=
  awaiting (apiReqOnce L params) >>= retryLoop L params n

theorem run_passes_zero (w : World σ) :
    net.run (passes L params 0) w = net.run (apiReqOnce L params) w := by
  simp [passes, retryLoop]

theorem run_passes_succ (n : ℕ) (w : World σ) :
    net.run (passes L params (n + 1)) w =
      if (net.run (apiReqOnce L params) w).1.status = HTTP_MISDIRECTED then
        net.run (passes L params n) (net.run (apiReqOnce L params) w).2
      else net.run (apiReqOnce L params) w := by
  simp only [passes, run_bind, run_awaiting, retryLoop]
  split <;> simp

theorem apiReqOnce_ok (hnet : net.SigninSucceeds) (w : World σ) :
    ∃ new, (net.run (apiReqOnce L params) w).2.1.received = w.1.received ++ new ∧
      ∀ r ∈ new, r.ok = true → (net.run (apiReqOnce L params) w).1 = .response r := by
  obtain ⟨new, hnew, -, -, hok⟩ := apiReqOnce_received L params hnet w
  refine ⟨new, hnew, fun r hr hrok => ?_⟩
  rw [run_apiReqOnce L params hnet, hok r hr hrok]
  rfl

/-- An answer that is ok is returned. -/
theorem passes_ok (hnet : net.SigninSucceeds) (n : ℕ) (w : World σ) :
    ∃ new, (net.run (passes L params n) w).2.1.received = w.1.received ++ new ∧
      ∀ r ∈ new, r.ok = true → (net.run (passes L params n) w).1 = .response r := by
  induction n generalizing w with
  | zero =>
    rw [run_passes_zero]
    exact apiReqOnce_ok L params hnet w
  | succ n ih =>
    obtain ⟨new, hnew, hok⟩ := apiReqOnce_ok L params hnet w
    rw [run_passes_succ]
    split
    case isFalse => exact ⟨new, hnew, hok⟩
    case isTrue hstatus =>
      obtain ⟨more, hmore, hreturned⟩ := ih (net.run (apiReqOnce L params) w).2
      refine ⟨new ++ more, by rw [hmore, hnew, List.append_assoc], fun r hr hrok => ?_⟩
      rcases List.mem_append.mp hr with hr | hr
      · -- an answer that is ok is not misdirected
        rw [hok r hr hrok] at hstatus
        exact absurd hstatus (ok_ne hrok (by decide))
      · exact hreturned r hr hrok

/-- **If every response is misdirected, all passes are made just when each but the last leads to an
answer.** -/
theorem passes_iff (hnet : net.SigninSucceeds) (n : ℕ) (w : World σ) {new : List Response}
    (hnew : (net.run (passes L params n) w).2.1.received = w.1.received ++ new)
    (hstatus : ∀ r ∈ new, r.status = HTTP_MISDIRECTED) :
    (net.run (passes L params n) w).2.1.passes = w.1.passes + (n + 1) ↔
      ∀ k < n, ∃ v ∈ (pass L params net (worldAt L params net k w)).1.visits, v.Redirected := by
  induction n generalizing w new with
  | zero =>
    obtain ⟨-, -, hcount, -⟩ := apiReqOnce_received L params hnet w
    rw [run_passes_zero, hcount]
    exact iff_of_true rfl fun k hk => absurd hk (Nat.not_lt_zero k)
  | succ n ih =>
    obtain ⟨first, hfirst, hcount, -⟩ := apiReqOnce_received L params hnet w
    rw [run_passes_succ] at hnew ⊢
    rw [Nat.forall_lt_succ_left]
    split at hnew
    case isFalse hresult =>
      obtain rfl := List.append_cancel_left (hnew.symm.trans hfirst)
      rw [if_neg hresult, hcount, worldAt, ← misdirected_iff L params hnet hnew hstatus]
      exact iff_of_false (by omega) fun h => hresult h.1
    case isTrue hresult =>
      obtain ⟨more, hmore, -⟩ := passes_ok L params hnet n
        (net.run (apiReqOnce L params) w).2
      have happend : new = first ++ more := by
        rw [hmore, hfirst, List.append_assoc] at hnew
        exact (List.append_cancel_left hnew).symm
      rw [happend] at hstatus
      have hfirstStatus : ∀ r ∈ first, r.status = HTTP_MISDIRECTED := fun r hr =>
        hstatus r (List.mem_append_left _ hr)
      have hrest := ih (net.run (apiReqOnce L params) w).2 hmore fun r hr =>
        hstatus r (List.mem_append_right _ hr)
      rw [hcount] at hrest
      rw [if_pos hresult, worldAt, ← misdirected_iff L params hnet hfirst hfirstStatus]
      rw [show w.1.passes + (n + 1 + 1) = w.1.passes + 1 + (n + 1) by omega, hrest]
      exact (and_iff_right hresult).symm

/-- **The driver waits for a primary just when, as long as every response is misdirected, each pass
but the last finds an origin that another one names.** -/
theorem waitsOut_iff (net : HttpNetwork σ) (hnet : net.SigninSucceeds) (w : World σ) :
    WaitsOut L params net w ↔
      ((∀ r ∈ replies L params net w, r.status = HTTP_MISDIRECTED) →
        ∀ k < PRIMARY_FAILOVER_RETRIES,
          ∃ v ∈ (pass L params net (worldAt L params net k w)).1.visits, v.Redirected) := by
  obtain ⟨new, hnew, hok⟩ := passes_ok L params hnet
    PRIMARY_FAILOVER_RETRIES w
  have hreplies : replies L params net w = new := by
    show (net.run (passes L params PRIMARY_FAILOVER_RETRIES) w).2.1.received.drop _ = new
    rw [hnew, List.drop_left]
  have hiff := passes_iff L params hnet PRIMARY_FAILOVER_RETRIES w hnew
  constructor
  · intro h hstatus
    exact (hiff (hreplies ▸ hstatus)).mp (h.passes hstatus)
  · intro h
    refine ⟨fun hstatus => ?_, fun r hr hrok => hok r (hreplies ▸ hr) hrok⟩
    exact (hiff (hreplies ▸ hstatus)).mpr (h hstatus)

/-- A server that can be reached. -/
def HttpNetwork.Reachable (net : HttpNetwork σ) (origin : String) : Prop :=
  ∀ state, (net.signin origin state).1.isSome = true ∧
    ∀ token, (net.request origin token state).1.isSome = true

/-- The only server is misdirected and names no primary: the driver gives up after one pass. -/
theorem not_waitsOut :
    ¬∀ (L : URL) (params : DriverParams) (net : HttpNetwork Unit) (w : World Unit),
      net.SigninSucceeds → (∃ origin ∈ params.allOrigins, net.Reachable origin) →
        WaitsOut L params net w := by
  intro h
  have hwaits := h ⟨fun _ => none, fun _ => none⟩ (.basic ["a"])
    (fixedNetwork fun _ => some ⟨421, none⟩) (.fresh "a", ()) (signinSucceeds_fixedNetwork _)
    ⟨"a", List.mem_singleton_self _, fun _ => ⟨rfl, fun _ => rfl⟩⟩
  have hpasses : 1 = 0 + 4 := hwaits.passes fun r hr => by
    rw [List.mem_singleton.mp (show r ∈ [⟨⟨421, none⟩, "a", 0⟩] from hr)]
    rfl
  exact absurd hpasses (by decide)

/-- Two servers that name each other are asked in every pass. -/
theorem waitsOut_election :
    WaitsOut ⟨fun _ => none, fun _ => none⟩ (.basic ["a", "b"])
      (fixedNetwork fun origin => some ⟨421, some (.object [("code", .string "RPL"),
        ("message", .string "not the primary"),
        ("primaryAddress", .string (if origin = "a" then "b" else "a"))])⟩) (.fresh "a", ()) := by
  refine (waitsOut_iff _ _ _ (signinSucceeds_fixedNetwork _) _).mpr fun _ k hk => ?_
  rcases k with _ | _ | _ | k
  · exact ⟨_, List.mem_cons_self, "b", _, rfl⟩
  · exact ⟨_, List.mem_cons_self, "a", _, rfl⟩
  · exact ⟨_, List.mem_cons_self, "b", _, rfl⟩
  · exact absurd hk (by simp [PRIMARY_FAILOVER_RETRIES])

end TypeDBDriver.Http
