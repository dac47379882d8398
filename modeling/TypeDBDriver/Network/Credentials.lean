import Mathlib.Data.List.Basic
import TypeDBDriver.Lib.Transition

/-!
# Automatic token renewal

Any number of requests on clones of one stub share the cell of their call credentials. A request
injects the cell's token into its call; if the server rejects the token, the request resets the
cell, signs in, sets the new token and calls once more.

* `AuthServer`, `CallCredentials`, `Phase`, `StubState`, `advance`: the server's tokens, the shared
  cell, where a request stands, and its next step.
* `credentialsSystem`: all interleavings; tokens issued before its start may expire at any time.
* `recalled_invalid_iff`: a second call is rejected exactly when no token was injected into it.
* **`ended_own_of_reaches`**: if every second call finds a token in the cell, no request ends with
  the invalid-token error.
-/

namespace TypeDBDriver

open Transition

/-- A token, by its place in the order of issue. -/
abbrev Token : Type := ℕ

/-- The tokens that the server issued and those of them that expired. -/
structure AuthServer where
  issued : ℕ
  expired : List Token

/-- Whether a request that is no sign-in is let through with what was injected into it. -/
def AuthServer.accepts (s : AuthServer) : Option Token → Prop
  | some t => t < s.issued ∧ t ∉ s.expired
  | none => False

instance (s : AuthServer) : DecidablePred s.accepts
  | some t => inferInstanceAs (Decidable (t < s.issued ∧ t ∉ s.expired))
  | none => inferInstanceAs (Decidable False)

/-- The shared credentials, with the token cell. -/
structure CallCredentials where
  token : Option Token

namespace CallCredentials

def setToken (t : Token) (_ : CallCredentials) : CallCredentials := ⟨some t⟩

def resetToken (_ : CallCredentials) : CallCredentials := ⟨none⟩

def inject (c : CallCredentials) : Option Token := c.token

end CallCredentials

/-- How a request ends: with the server's own answer, or with the invalid-token error. -/
inductive Answer (α : Type)
  | own (answer : α)
  | tokenCredentialInvalid
  deriving DecidableEq

/-- Where a request stands. -/
inductive Phase (α : Type)
  /-- about to inject the token into the first call -/
  | fresh
  | called (token : Option Token)
  /-- the first call was rejected: about to reset the token -/
  | rejected
  /-- about to sign in -/
  | tokenReset
  /-- about to set the token -/
  | signedIn (token : Token)
  /-- about to inject the token into the second call -/
  | renewed
  | recalled (token : Option Token)
  /-- a connection-open request, which carries the credentials and is a sign-in -/
  | opening
  | opened (token : Token) (answer : α)
  | ended (answer : Answer α)
  deriving DecidableEq

structure StubState (α : Type) where
  credentials : CallCredentials
  server : AuthServer
  requests : List (Phase α)

namespace StubState

variable {α : Type}

/-- The server issues the next token. -/
def issue (s : StubState α) : StubState α :=
  { s with server := { s.server with issued := s.server.issued + 1 } }

/-- The next step of a request, where `answer` is what the server answers if it is let through. -/
def advance (s : StubState α) (answer : α) : Phase α → Option (StubState α × Phase α)
  | .fresh => some (s, .called s.credentials.inject)
  | .called token =>
    some (s, if s.server.accepts token then .ended (.own answer) else .rejected)
  | .rejected => some ({ s with credentials := s.credentials.resetToken }, .tokenReset)
  | .tokenReset => some (s.issue, .signedIn s.server.issued)
  | .signedIn token =>
    some ({ s with credentials := s.credentials.setToken token }, .renewed)
  | .renewed => some (s, .recalled s.credentials.inject)
  -- there is no third call
  | .recalled token =>
    some (s, .ended (if s.server.accepts token then .own answer else .tokenCredentialInvalid))
  | .opening => some (s.issue, .opened s.server.issued answer)
  | .opened token answer =>
    some ({ s with credentials := s.credentials.setToken token }, .ended (.own answer))
  | .ended _ => none

end StubState

inductive StubAction (α : Type)
  /-- a request starts -/
  | single
  | connectionOpen
  /-- the `i`-th request takes its next step -/
  | advance (i : ℕ) (answer : α)
  | expire (token : Token)

variable {α : Type}

/-- All interleavings of any number of requests. Tokens below `old` were issued before the start;
they may expire, those issued later do not. -/
def credentialsSystem (α : Type) (old : ℕ) : System (StubState α) (StubAction α) where
  Init s := s.server.issued = old ∧ (∀ t ∈ s.server.expired, t < old) ∧
    (∀ t, s.credentials.token = some t → t < old) ∧ s.requests = []
  step s
    | .single => some { s with requests := s.requests ++ [.fresh] }
    | .connectionOpen => some { s with requests := s.requests ++ [.opening] }
    | .advance i answer => do
      let phase ← s.requests[i]?
      let (s', phase') ← s.advance answer phase
      some { s' with requests := s.requests.set i phase' }
    | .expire token =>
      if token < old then
        some { s with server := { s.server with expired := token :: s.server.expired } }
      else none

/-! ## The invariant -/

/-- The cell holds no token that was issued before the start. -/
def StubState.Renewing (old : ℕ) (s : StubState α) : Prop :=
  ∀ t, s.credentials.token = some t → old ≤ t

/-- What is known when a request is in a phase. -/
def Phase.Fits (old : ℕ) (s : StubState α) : Phase α → Prop
  | tokenReset | renewed => s.Renewing old
  | signedIn t => s.Renewing old ∧ old ≤ t ∧ t < s.server.issued
  | recalled token => ∀ t, token = some t → old ≤ t ∧ t < s.server.issued
  | opened t _ => old ≤ t ∧ t < s.server.issued
  | _ => True

structure StubState.Invariant (old : ℕ) (s : StubState α) : Prop where
  old_le : old ≤ s.server.issued
  expired : ∀ t ∈ s.server.expired, t < old
  cell : ∀ t, s.credentials.token = some t → old ≤ t → t < s.server.issued
  fits : ∀ p ∈ s.requests, p.Fits old s

variable {old : ℕ} {s s' : StubState α}

theorem Phase.Fits.mono {p : Phase α} (h : p.Fits old s)
    (hissued : s.server.issued ≤ s'.server.issued) (hcell : s.Renewing old → s'.Renewing old) :
    p.Fits old s' := by
  cases p with
  | tokenReset | renewed => exact hcell h
  | signedIn t => exact ⟨hcell h.1, h.2.1, Nat.lt_of_lt_of_le h.2.2 hissued⟩
  | recalled token => exact fun t ht => ⟨(h t ht).1, Nat.lt_of_lt_of_le (h t ht).2 hissued⟩
  | opened t answer => exact ⟨h.1, Nat.lt_of_lt_of_le h.2 hissued⟩
  | _ => trivial

/-- A token set by a request is one issued since the start. -/
theorem StubState.Invariant.setToken (hs : s.Invariant old) {t : Token} (hold : old ≤ t)
    (hissued : t < s.server.issued) :
    { s with credentials := s.credentials.setToken t }.Invariant old ∧
      { s with credentials := s.credentials.setToken t }.Renewing old := by
  have hrenew : { s with credentials := s.credentials.setToken t }.Renewing old := by
    rintro u ⟨⟩
    exact hold
  refine ⟨⟨hs.old_le, hs.expired, ?_, fun p hp => ?_⟩, hrenew⟩
  · rintro u ⟨⟩ -
    exact hissued
  · exact (hs.fits p hp).mono (Nat.le_refl _) fun _ => hrenew

theorem StubState.Invariant.issue (hs : s.Invariant old) : s.issue.Invariant old where
  old_le := Nat.le_succ_of_le hs.old_le
  expired := hs.expired
  cell t ht hold := Nat.lt_succ_of_lt (hs.cell t ht hold)
  fits p hp := (hs.fits p hp).mono (Nat.le_succ _) id

/-- What one step of a request keeps, and what is known after it. -/
theorem StubState.Invariant.advance (hs : s.Invariant old) {p p' : Phase α} (hp : p.Fits old s)
    {answer : α} (h : s.advance answer p = some (s', p')) :
    s'.Invariant old ∧ p'.Fits old s' ∧ s'.requests = s.requests := by
  cases p with
  | fresh | recalled token =>
    obtain ⟨rfl, rfl⟩ := Prod.mk.inj (Option.some.inj h)
    exact ⟨hs, trivial, rfl⟩
  | called token =>
    obtain ⟨rfl, rfl⟩ := Prod.mk.inj (Option.some.inj h)
    refine ⟨hs, ?_, rfl⟩
    split_ifs <;> trivial
  | ended answer => cases h
  | rejected =>
    obtain ⟨rfl, rfl⟩ := Prod.mk.inj (Option.some.inj h)
    refine ⟨⟨hs.old_le, hs.expired, nofun, fun q hq => ?_⟩, nofun, rfl⟩
    exact (hs.fits q hq).mono (Nat.le_refl _) fun _ => nofun
  | tokenReset =>
    obtain ⟨rfl, rfl⟩ := Prod.mk.inj (Option.some.inj h)
    exact ⟨hs.issue, ⟨hp, hs.old_le, Nat.lt_succ_self _⟩, rfl⟩
  | signedIn t =>
    obtain ⟨rfl, rfl⟩ := Prod.mk.inj (Option.some.inj h)
    obtain ⟨hinv, hrenew⟩ := hs.setToken hp.2.1 hp.2.2
    exact ⟨hinv, hrenew, rfl⟩
  | renewed =>
    obtain ⟨rfl, rfl⟩ := Prod.mk.inj (Option.some.inj h)
    exact ⟨hs, fun t ht => ⟨hp t ht, hs.cell t ht (hp t ht)⟩, rfl⟩
  | opening =>
    obtain ⟨rfl, rfl⟩ := Prod.mk.inj (Option.some.inj h)
    exact ⟨hs.issue, ⟨hs.old_le, Nat.lt_succ_self _⟩, rfl⟩
  | opened t answer =>
    obtain ⟨rfl, rfl⟩ := Prod.mk.inj (Option.some.inj h)
    exact ⟨(hs.setToken hp.1 hp.2).1, trivial, rfl⟩

theorem StubState.Invariant.push (hs : s.Invariant old) {p : Phase α} (hp : p.Fits old s) :
    { s with requests := s.requests ++ [p] }.Invariant old where
  old_le := hs.old_le
  expired := hs.expired
  cell := hs.cell
  fits q hq := by
    rcases List.mem_append.mp hq with hq | hq
    · exact (hs.fits q hq).mono (Nat.le_refl _) id
    · rw [List.mem_singleton.mp hq]
      exact hp.mono (Nat.le_refl _) id

/-- The state after a step of the `i`-th request. -/
theorem advance_eq_some {i : ℕ} {answer : α}
    (h : (credentialsSystem α old).step s (.advance i answer) = some s') :
    ∃ p p' s₁, s.requests[i]? = some p ∧ s.advance answer p = some (s₁, p') ∧
      s' = { s₁ with requests := s.requests.set i p' } := by
  obtain ⟨p, hp, h⟩ := Option.bind_eq_some_iff.mp h
  obtain ⟨⟨s₁, p'⟩, hadv, h⟩ := Option.bind_eq_some_iff.mp h
  exact ⟨p, p', s₁, hp, hadv, (Option.some.inj h).symm⟩

theorem StubState.Invariant.step (hs : s.Invariant old) {a : StubAction α}
    (h : (credentialsSystem α old).step s a = some s') : s'.Invariant old := by
  cases a with
  | single =>
    obtain rfl := Option.some.inj h
    exact hs.push trivial
  | connectionOpen =>
    obtain rfl := Option.some.inj h
    exact hs.push trivial
  | advance i answer =>
    obtain ⟨p, p', s₁, hp, hadv, rfl⟩ := advance_eq_some h
    obtain ⟨hinv, hp', hreq⟩ := hs.advance (hs.fits p (List.mem_of_getElem? hp)) hadv
    refine ⟨hinv.old_le, hinv.expired, hinv.cell, fun q hq => ?_⟩
    rcases List.mem_or_eq_of_mem_set hq with hq | rfl
    · exact (hinv.fits q (hreq ▸ hq)).mono (Nat.le_refl _) id
    · exact hp'.mono (Nat.le_refl _) id
  | expire t =>
    simp only [credentialsSystem] at h
    split_ifs at h with ht
    obtain rfl := Option.some.inj h
    refine ⟨hs.old_le, fun u hu => ?_, hs.cell, fun q hq => ?_⟩
    · rcases List.mem_cons.mp hu with rfl | hu
      · exact ht
      · exact hs.expired u hu
    · exact (hs.fits q hq).mono (Nat.le_refl _) id

theorem StubState.invariant_of_reaches {C : StubState α → StubAction α → Prop}
    (h : (credentialsSystem α old).Reaches C s) : s.Invariant old := by
  refine Reaches.invariant _ (fun s hs => ?_) (fun s a t hs _ hstep => hs.step hstep) h
  obtain ⟨hissued, hexpired, hcell, hnil⟩ := hs
  refine ⟨Nat.le_of_eq hissued.symm, hexpired, fun t ht hold => ?_, by rw [hnil]; nofun⟩
  exact absurd hold (Nat.not_le_of_lt (hcell t ht))

/-- Whatever was injected into a second call was issued since the start, and is accepted. -/
theorem StubState.Invariant.accepts_iff (hs : s.Invariant old) {token : Option Token}
    (h : .recalled token ∈ s.requests) : s.server.accepts token ↔ token ≠ none := by
  cases token with
  | none => simp [AuthServer.accepts]
  | some t =>
    obtain ⟨hold, hissued⟩ := hs.fits _ h t rfl
    have hexpired : t ∉ s.server.expired := fun ht =>
      Nat.not_le_of_lt (hs.expired t ht) hold
    simp [AuthServer.accepts, hissued, hexpired]

/-- **A second call is rejected exactly when no token was injected into it**, in every state that
any interleaving leads to. -/
theorem recalled_invalid_iff (hs : (credentialsSystem α old).Reachable s) {i : ℕ}
    {token : Option Token} (hi : s.requests[i]? = some (.recalled token)) {answer : α}
    (h : (credentialsSystem α old).step s (.advance i answer) = some s') :
    s'.requests[i]? = some (.ended .tokenCredentialInvalid) ↔ token = none := by
  have haccepts := (StubState.invariant_of_reaches hs).accepts_iff (List.mem_of_getElem? hi)
  obtain ⟨p, p', s₁, hp, hadv, rfl⟩ := advance_eq_some h
  obtain rfl := Option.some.inj (hi.symm.trans hp)
  obtain ⟨rfl, rfl⟩ := Prod.mk.inj (Option.some.inj hadv)
  have hlt : i < s.requests.length := (List.getElem?_eq_some_iff.mp hi).1
  simp only [List.getElem?_set_self hlt, haccepts]
  split_ifs with ht <;> simp_all

/-! ## Runs in which second calls find a token -/

/-- A second call is injected while the cell holds a token: the last write to the cell was not a
reset by another request. -/
def FindsToken (s : StubState α) : StubAction α → Prop
  | .advance i _ => s.requests[i]? = some .renewed → s.credentials.token ≠ none
  | _ => True

/-- Neither ended with the invalid-token error nor about to. -/
def Phase.Own : Phase α → Prop
  | recalled token => token ≠ none
  | ended answer => answer ≠ .tokenCredentialInvalid
  | _ => True

theorem own_step (hs : s.Invariant old) (hown : ∀ p ∈ s.requests, p.Own) {a : StubAction α}
    (hc : FindsToken s a) (h : (credentialsSystem α old).step s a = some s') :
    ∀ p ∈ s'.requests, p.Own := by
  cases a with
  | single | connectionOpen =>
    obtain rfl := Option.some.inj h
    intro q hq
    rcases List.mem_append.mp hq with hq | hq
    · exact hown q hq
    · rw [List.mem_singleton.mp hq]
      trivial
  | expire t =>
    simp only [credentialsSystem] at h
    split_ifs at h
    obtain rfl := Option.some.inj h
    exact hown
  | advance i answer =>
    obtain ⟨p, p', s₁, hp, hadv, rfl⟩ := advance_eq_some h
    have hmem := List.mem_of_getElem? hp
    intro q hq
    rcases List.mem_or_eq_of_mem_set hq with hq | rfl
    · exact hown q hq
    cases p with
    | ended => cases hadv
    | renewed =>
      obtain ⟨rfl, rfl⟩ := Prod.mk.inj (Option.some.inj hadv)
      exact hc hp
    | recalled token =>
      obtain ⟨rfl, rfl⟩ := Prod.mk.inj (Option.some.inj hadv)
      have haccepts := (hs.accepts_iff hmem).mpr (hown _ hmem)
      rw [if_pos haccepts]
      nofun
    | called token =>
      obtain ⟨rfl, rfl⟩ := Prod.mk.inj (Option.some.inj hadv)
      split_ifs
      · nofun
      · trivial
    | opened t answer =>
      obtain ⟨rfl, rfl⟩ := Prod.mk.inj (Option.some.inj hadv)
      nofun
    | _ =>
      obtain ⟨rfl, rfl⟩ := Prod.mk.inj (Option.some.inj hadv)
      trivial

/-- A bound on the steps that a request has left. -/
def Phase.left : Phase α → ℕ
  | fresh => 7
  | called _ => 6
  | rejected => 5
  | tokenReset => 4
  | signedIn _ => 3
  | renewed | opening => 2
  | recalled _ | opened _ _ => 1
  | ended _ => 0

/-- A request that has not ended can take its next step, whatever the others do. -/
theorem exists_advance {i : ℕ} {p : Phase α} (hi : s.requests[i]? = some p)
    (hp : ∀ answer, p ≠ .ended answer) (answer : α) :
    ∃ s' p', (credentialsSystem α old).step s (.advance i answer) = some s' ∧
      s'.requests[i]? = some p' ∧ p'.left < p.left := by
  have hadv : ∃ s₁ p', s.advance answer p = some (s₁, p') ∧ p'.left < p.left := by
    cases p with
    | ended answer => exact absurd rfl (hp answer)
    | called token =>
      refine ⟨_, _, rfl, ?_⟩
      split_ifs <;> simp [Phase.left]
    | _ => exact ⟨_, _, rfl, by simp [Phase.left]⟩
  obtain ⟨s₁, p', hadv, hleft⟩ := hadv
  have hlt : i < s.requests.length := (List.getElem?_eq_some_iff.mp hi).1
  refine ⟨{ s₁ with requests := s.requests.set i p' }, p', ?_, ?_, hleft⟩
  · simp only [credentialsSystem, hi, hadv, Option.bind_eq_bind, Option.bind_some]
  · exact List.getElem?_set_self hlt

/-- **Token renewal is invisible** in every interleaving in which each second call finds a token in
the cell: a request has ended with the server's own answer, or it can take its next step, of which
it has at most seven. -/
theorem ended_own_of_reaches (h : (credentialsSystem α old).Reaches FindsToken s) {i : ℕ}
    {p : Phase α} (hi : s.requests[i]? = some p) :
    (∃ answer, p = .ended (.own answer)) ∨ ((∀ answer, p ≠ .ended answer) ∧
      ∀ answer, ∃ s' p', (credentialsSystem α old).step s (.advance i answer) = some s' ∧
        s'.requests[i]? = some p' ∧ p'.left < p.left) := by
  have hown : ∀ p ∈ s.requests, p.Own :=
    Reaches.invariant_with (fun s => ∀ p ∈ s.requests, p.Own)
      (fun _ hs => StubState.invariant_of_reaches hs)
      (fun s hs => by rw [hs.2.2.2]; nofun)
      (fun _ _ _ hs hown hc hstep => own_step hs hown hc hstep) h
  by_cases hp : ∀ answer, p ≠ .ended answer
  · exact .inr ⟨hp, exists_advance hi hp⟩
  · obtain ⟨answer, rfl⟩ := by simpa using hp
    have hne := hown _ (List.mem_of_getElem? hi)
    cases answer with
    | own a => exact .inl ⟨a, rfl⟩
    | tokenCredentialInvalid => exact absurd rfl hne

/-! ## Two requests -/

/-- `FindsToken`, as a test. -/
def findsToken (s : StubState Unit) : StubAction Unit → Bool
  | .advance i _ => s.requests[i]? ≠ some .renewed || s.credentials.token ≠ none
  | _ => true

theorem findsToken_spec (s : StubState Unit) (a : StubAction Unit) (h : findsToken s a = true) :
    FindsToken s a := by
  cases a with
  | advance i answer => simpa [findsToken, FindsToken, imp_iff_not_or] using h
  | _ => trivial

/-- Steps of requests, by their numbers. -/
def advances (steps : List ℕ) : List (StubAction Unit) := steps.map fun i => .advance i ()

/-- The cell holds a token that has expired. -/
def expiredState : StubState Unit := ⟨⟨some 0⟩, ⟨1, [0]⟩, []⟩

theorem expiredState_init : (credentialsSystem Unit 1).Init expiredState :=
  ⟨rfl, by decide, by rintro t ⟨⟩; decide, rfl⟩

/-- Both requests are rejected, and both renew the token before either calls again. -/
theorem ended_own_both : ∃ s : StubState Unit, (credentialsSystem Unit 1).Reachable s ∧
    s.requests.length = 2 ∧ ∀ p, s.requests[1]? = some p → p = .ended (.own ()) := by
  have hrun : ((credentialsSystem Unit 1).runChecked findsToken expiredState
      ([.single, .single] ++ advances [0, 1, 0, 1, 0, 1, 0, 1, 0, 1, 0, 1, 0, 1])).any
      (fun s => decide (s.requests.length = 2 ∧ s.requests[1]? ≠ none ∧
        ∀ p ∈ s.requests, p.left = 0)) = true := by decide
  obtain ⟨s, hs, hp⟩ := exists_reaches findsToken_spec expiredState_init hrun
  obtain ⟨hlen, -, hleft⟩ := of_decide_eq_true hp
  refine ⟨s, Reaches.mono (fun _ _ _ => trivial) hs, hlen, fun p hi => ?_⟩
  rcases ended_own_of_reaches hs hi with ⟨answer, h⟩ | ⟨-, h⟩
  · exact h
  · obtain ⟨s', p', -, -, hlt⟩ := h ()
    rw [hleft p (List.mem_of_getElem? hi)] at hlt
    cases hlt

/-- One request resets the cell between the renewal and the second call of the other. -/
theorem not_ended_own : ¬ ∀ s : StubState Unit, (credentialsSystem Unit 1).Reachable s →
    ∀ p ∈ s.requests, p ≠ .ended .tokenCredentialInvalid := by
  intro h
  have hrun : ((credentialsSystem Unit 1).runChecked (fun _ _ => true) expiredState
      ([.single, .single] ++ advances [0, 0, 1, 1, 1, 1, 1, 0, 1, 1])).any
      (fun s => decide (.ended .tokenCredentialInvalid ∈ s.requests)) = true := by decide
  obtain ⟨s, hs, hp⟩ := exists_reachable expiredState_init hrun
  exact h s hs _ (of_decide_eq_true hp) rfl

end TypeDBDriver
