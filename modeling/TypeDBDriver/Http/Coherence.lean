import TypeDBDriver.Http.Pass

/-!
# The answer of a pass and the current origin

* `Coherent`: a response that is returned comes from the origin that is current afterwards, and the
  response of the start is returned unless a fallback answers ok.
* `lastResponder`: the last visit with a response.
* `Pass.Settled`: what makes an answer coherent.
* **`coherent_iff`**: an answer is coherent just when its pass is settled. It is not where an
  unreachable origin is tried after the last response, or where the start is misdirected and names
  no other origin.
-/

namespace TypeDBDriver.Http

open HttpDriver

variable {σ : Type} {net : HttpNetwork σ}

/-- The answer of `apiReqOnce` and the current origin after it agree. -/
structure Coherent (L : URL) (params : DriverParams) (net : HttpNetwork σ) (w : World σ) :
    Prop where
  origin : ∀ r, (net.run (apiReqOnce L params) w).1 = .response r →
    (net.run (apiReqOnce L params) w).2.1.currentOrigin = r.origin
  start : ∀ r, (pass L params net w).1.start.answered = some r → r.ok = false →
    (∃ v ∈ (pass L params net w).1.fallbacks, v.ok = true) ∨
      (net.run (apiReqOnce L params) w).1 = .response r

/-- The last visit with a response. -/
def lastResponder (vs : List Visit) : Option Visit :=
  (vs.filter fun v => v.result.isSome).getLast?

/-- A fallback answered ok, or the start has a response, or the start did not answer and the
visits ended at the last origin with a response. -/
def Pass.Settled (p : Pass) : Prop :=
  p.fallbacks.any Visit.ok = true ∨ p.start.result.isSome = true ∨
    p.start.answered = none ∧ ∀ v, lastResponder p.fallbacks = some v → v.last = p.last

/-- The origin that a pass leaves behind. -/
def Pass.currentOrigin (p : Pass) : String := if p.restored then p.start.last else p.last

@[simp] theorem ofResponse_eq_response {x : Option Response} {r : Response} :
    ApiResult.ofResponse x = .response r ↔ x = some r := by
  cases x <;> simp [ApiResult.ofResponse]

theorem lastAnswer_eq (vs : List Visit) (lastError : Option Response) :
    lastAnswer lastError vs = ((lastResponder vs).bind Visit.result).or lastError := by
  unfold lastResponder
  induction vs generalizing lastError with
  | nil => rfl
  | cons v vs ih =>
    rw [lastAnswer, ih, List.filter_cons]
    cases hresult : v.result with
    | none => simp
    | some r =>
      simp only [Option.isSome_some, if_true, List.getLast?_cons]
      cases hlast : (vs.filter fun v => v.result.isSome).getLast? with
      | none => simp [hresult]
      | some u =>
        have hu := (List.mem_filter.mp (List.mem_of_getLast? hlast)).2
        obtain ⟨r', hr'⟩ := Option.isSome_iff_exists.mp hu
        simp [hr']

/-- The last responder has the last answer. -/
theorem lastAnswer_of_lastResponder {vs : List Visit} {v : Visit} (h : lastResponder vs = some v) :
    v ∈ vs ∧ ∃ r, v.result = some r ∧ lastAnswer none vs = some r := by
  obtain ⟨hv, hsome⟩ := List.mem_filter.mp (List.mem_of_getLast? h)
  obtain ⟨r, hr⟩ := Option.isSome_iff_exists.mp hsome
  exact ⟨hv, r, hr, by simp [lastAnswer_eq, h, hr]⟩

theorem exists_lastResponder {vs : List Visit} {r : Response} (h : lastAnswer none vs = some r) :
    ∃ v, lastResponder vs = some v ∧ v.result = some r := by
  rw [lastAnswer_eq, Option.or_none] at h
  exact Option.bind_eq_some_iff.mp h

section Settled

variable {p : Pass} {w w₁ w' : World σ} {new₁ new₂ : List Response}

/-- The visits of a pass end where its last visit ends. -/
theorem FellBack.currentOrigin_last (hfell : FellBack p.fallbacks w₁ w' new₂)
    (hstart : p.start.Made w w₁ new₁) : w'.1.currentOrigin = p.last := by
  rw [hfell.currentOrigin, hstart.currentOrigin, Pass.last]
  cases p.fallbacks.getLast? <;> rfl

/-- A fallback that answered ok is returned, and is where the visits ended. -/
theorem FellBack.result_of_ok (hfell : FellBack p.fallbacks w₁ w' new₂)
    (hok : p.fallbacks.any Visit.ok = true) :
    ∃ r, p.result = some r ∧ r.ok = true ∧ r.origin = p.last := by
  obtain ⟨v, hv, hvok⟩ := List.any_eq_true.mp hok
  obtain ⟨r, hr, hrok⟩ := (Option.any_eq_true _ _).mp hvok
  have hlast := hfell.stop v hv hvok
  refine ⟨r, ?_, hrok, ?_⟩
  · rw [Pass.result, lastAnswer_of_getLast hlast hr]
    cases p.start.result <;> simp [hrok]
  · rw [hfell.origin v hv r hr, Pass.last, hlast]
    rfl

/-- The start's response is returned if no fallback answered ok. -/
theorem result_of_start {r : Response} (hr : p.start.result = some r)
    (hfell : FellBack p.fallbacks w₁ w' new₂) (hok : p.fallbacks.any Visit.ok = false) :
    p.result = some r := by
  have hany := hfell.any_ok
  rw [hok] at hany
  rw [Pass.result, hr]
  cases hanswer : lastAnswer none p.fallbacks with
  | none => rfl
  | some fallback =>
    rw [hanswer] at hany
    have hfallback : fallback.ok = false := by simpa using hany.symm
    simp [hfallback]

theorem result_of_none (hr : p.start.result = none) : p.result = lastAnswer none p.fallbacks := by
  rw [Pass.result, hr]

theorem agree_of_ok (hfell : FellBack p.fallbacks w₁ w' new₂)
    (hok : p.fallbacks.any Visit.ok = true) {r : Response} (hr : p.result = some r) :
    p.currentOrigin = r.origin := by
  obtain ⟨r', hr', -, horigin⟩ := hfell.result_of_ok hok
  rw [hr'] at hr
  rw [← Option.some.inj hr, horigin, Pass.currentOrigin, Pass.restored, hok]
  simp

theorem agree_of_start (hstart : p.start.Made w w₁ new₁) (hfell : FellBack p.fallbacks w₁ w' new₂)
    (hnone : p.start.ok = true → p.fallbacks = []) {r : Response} (hr : p.start.result = some r)
    (hok : p.fallbacks.any Visit.ok = false) :
    p.result = some r ∧ p.currentOrigin = r.origin := by
  refine ⟨result_of_start hr hfell hok, ?_⟩
  rw [hstart.origin r (Visit.answered_of_result hr), Pass.currentOrigin, Pass.restored, hok, hr]
  by_cases hstartOk : p.start.ok = true
  · simp [hstartOk, Pass.last, hnone hstartOk]
  · simp [hstartOk]

/-- Without a response of the start, the last responder's response is returned. -/
theorem agree_of_none (hfell : FellBack p.fallbacks w₁ w' new₂) (hr : p.start.result = none) :
    (∀ r, p.result = some r → p.currentOrigin = r.origin) ↔
      ∀ v, lastResponder p.fallbacks = some v → v.last = p.last := by
  have hcurrent : p.currentOrigin = p.last := by simp [Pass.currentOrigin, Pass.restored, hr]
  rw [result_of_none hr, hcurrent]
  constructor
  · intro h v hv
    obtain ⟨hmem, r, hresult, hanswer⟩ := lastAnswer_of_lastResponder hv
    rw [h r hanswer, hfell.origin v hmem r hresult]
  · intro h r hanswer
    obtain ⟨v, hv, hresult⟩ := exists_lastResponder hanswer
    obtain ⟨hmem, -⟩ := lastAnswer_of_lastResponder hv
    rw [← h v hv, hfell.origin v hmem r hresult]

/-- Without a response of the start that counts, what it answered is not returned. -/
theorem answered_ne_result (hstart : p.start.Made w w₁ new₁)
    (hfell : FellBack p.fallbacks w₁ w' new₂) (hr : p.start.result = none) {r : Response}
    (hanswered : p.start.answered = some r) : r.ok = false ∧ p.result ≠ some r := by
  constructor
  · by_contra hok
    have hsome := hstart.ok r (hstart.mem r hanswered) (by simpa using hok)
    rw [hr] at hsome
    cases hsome
  · intro hresult
    rw [result_of_none hr] at hresult
    obtain ⟨v, hv, hvr⟩ := (mem_of_lastAnswer hresult).resolve_right nofun
    -- the fallbacks' responses come later
    have hle := hfell.serial v hv r hvr
    have hlt := (hstart.serial r hanswered).2
    omega

end Settled

theorem currentOrigin_apiReqOnce (L : URL) (params : DriverParams)
    (hnet : net.SigninSucceeds) (w : World σ) :
    (net.run (apiReqOnce L params) w).2.1.currentOrigin =
      (pass L params net w).1.currentOrigin := by
  obtain ⟨w₁, new₁, new₂, hstart, hfell, -⟩ := pass_made L params hnet w
  rw [run_apiReqOnce L params hnet, Pass.currentOrigin]
  split
  · rfl
  · exact hfell.currentOrigin_last hstart

/-- **The answer of a pass agrees with the current origin just when the pass is settled.** -/
theorem coherent_iff (L : URL) (params : DriverParams) (net : HttpNetwork σ)
    (hnet : net.SigninSucceeds) (w : World σ) :
    Coherent L params net w ↔ (pass L params net w).1.Settled := by
  obtain ⟨w₁, new₁, new₂, hstart, hfell, hnone⟩ := pass_made L params hnet w
  have hcurrent := currentOrigin_apiReqOnce L params hnet w
  have hresult : (net.run (apiReqOnce L params) w).1 =
      .ofResponse (pass L params net w).1.result := by rw [run_apiReqOnce L params hnet]
  have hcoherent : Coherent L params net w ↔
      (∀ r, (pass L params net w).1.result = some r →
        (pass L params net w).1.currentOrigin = r.origin) ∧
      ∀ r, (pass L params net w).1.start.answered = some r → r.ok = false →
        (∃ v ∈ (pass L params net w).1.fallbacks, v.ok = true) ∨
          (pass L params net w).1.result = some r := by
    constructor
    · rintro ⟨horigin, hstart⟩
      simpa only [hresult, hcurrent, ofResponse_eq_response] using And.intro horigin hstart
    · rintro ⟨horigin, hstart⟩
      constructor <;> simpa only [hresult, hcurrent, ofResponse_eq_response]
  rw [hcoherent, Pass.Settled]
  generalize (pass L params net w).1 = p at *
  cases hok : p.fallbacks.any Visit.ok with
  | true =>
    refine iff_of_true ⟨fun r hr => agree_of_ok hfell hok hr, fun r _ _ => ?_⟩ (.inl rfl)
    exact .inl (List.any_eq_true.mp hok)
  | false =>
    have hnot : ¬∃ v ∈ p.fallbacks, v.ok = true := by
      rw [← List.any_eq_true, hok]
      simp
    cases hr : p.start.result with
    | some r =>
      obtain ⟨hreturned, horigin⟩ := agree_of_start hstart hfell hnone hr hok
      refine iff_of_true ⟨fun r' hr' => ?_, fun r' hr' _ => .inr ?_⟩ (.inr (.inl rfl))
      · rw [hreturned] at hr'
        rw [← Option.some.inj hr', horigin]
      · rw [Visit.answered_of_result hr] at hr'
        rw [← hr', hreturned]
    | none =>
      rw [agree_of_none hfell hr]
      constructor
      · rintro ⟨hlast, hanswered⟩
        refine .inr (.inr ⟨Option.eq_none_iff_forall_ne_some.mpr fun r hsome => ?_, hlast⟩)
        obtain ⟨hrok, hne⟩ := answered_ne_result hstart hfell hr hsome
        exact (hanswered r hsome hrok).elim hnot hne
      · rintro (h | h | ⟨hanswered, hlast⟩)
        · cases h
        · cases h
        · exact ⟨hlast, fun r hsome => by rw [hanswered] at hsome; cases hsome⟩

/-- Every origin answers all requests alike, or cannot be reached. -/
def fixedNetwork (reply : String → Option HttpReply) : HttpNetwork Unit where
  signin origin state :=
    ((reply origin).map fun _ => ⟨200, some (.object [("token", .string "t")])⟩, state)
  request origin _ state := (reply origin, state)

theorem signinSucceeds_fixedNetwork (reply : String → Option HttpReply) :
    (fixedNetwork reply).SigninSucceeds := by
  intro origin state r hr
  obtain ⟨-, -, rfl⟩ := Option.map_eq_some_iff.mp hr
  exact ⟨rfl, rfl⟩

/-- A driver that has not sent anything. -/
def HttpDriver.fresh (origin : String) : HttpDriver := ⟨none, origin, [], [], 0⟩

/-- A server that answers 500 between two that cannot be reached: its response is returned, and the
last of the unreachable ones is current. -/
theorem not_coherent :
    ¬∀ (L : URL) (params : DriverParams) (net : HttpNetwork Unit) (w : World Unit),
      net.SigninSucceeds → Coherent L params net w := by
  intro h
  have hcoherent := h ⟨fun _ => none, fun _ => none⟩ (.basic ["a", "b", "c"])
    (fixedNetwork fun origin => if origin = "b" then some ⟨500, none⟩ else none)
    (.fresh "a", ()) (signinSucceeds_fixedNetwork _)
  have horigin : "c" = "b" := hcoherent.origin ⟨⟨500, none⟩, "b", 0⟩ rfl
  exact absurd horigin (by decide)

/-- With the unreachable servers first, the pass is settled. -/
theorem coherent_settled :
    Coherent ⟨fun _ => none, fun _ => none⟩ (.basic ["a", "c", "b"])
      (fixedNetwork fun origin => if origin = "b" then some ⟨500, none⟩ else none)
      (.fresh "a", ()) := by
  refine (coherent_iff _ _ _ (signinSucceeds_fixedNetwork _) _).mpr (.inr (.inr ⟨rfl, ?_⟩))
  rintro v ⟨⟩
  rfl

end TypeDBDriver.Http
