import Mathlib.Data.List.Forall2
import Mathlib.Tactic.Common

/-!
# Decoders that may panic

A decoder accepts what it reads, refuses it with an error, or panics. It follows a list of checks
and assertions on its input when it ends as the first of them that fails says.

* `Decode`, `okOr`, `unwrap`: decoders, and what they do with an absent field.
* `Part`, `Verdict`, `verdict`, `verdicts`: checks and assertions; how a decoder and a list end.
* `Follows`: a decoder ends as its list says, with a rule for each construct.
* `Clean`: every assertion that fails stands behind a check that fails.
* **`returns_iff`**: a decoder returns exactly when its list is clean.
-/

/-- A computation that ends in a value or an error, or panics. -/
abbrev Decode (ε α : Type) : Type := ExceptT ε Option α

namespace Decode

variable {ε α β : Type}

/-- `ok_or`. -/
def okOr (e : ε) (x : Option α) : Decode ε α :=
  match x with
  | some a => pure a
  | none => throw e

/-- `unwrap`, which panics without a value. -/
def unwrap (x : Option α) : Decode ε α := ExceptT.mk (x.map .ok)

/-- A result of a function that does not panic. -/
def fromResult (x : Except ε α) : Decode ε α := ExceptT.mk (some x)

theorem run_bind (x : Decode ε α) (f : α → Decode ε β) :
    (x >>= f).run = x.run.bind fun r =>
      match r with
      | .ok a => (f a).run
      | .error e => some (.error e) := by
  rw [ExceptT.run_bind]
  cases x.run with
  | none => rfl
  | some r => cases r <;> rfl

/-- The decoder does not panic. -/
def Returns (x : Decode ε α) : Prop := x.run ≠ none

inductive Verdict
  | accepted
  | refused
  | panics
  deriving DecidableEq

/-- The first verdict that is not `accepted`. -/
def Verdict.andThen : Verdict → Verdict → Verdict
  | accepted, w => w
  | v, _ => v

@[simp] theorem Verdict.accepted_andThen (v : Verdict) : accepted.andThen v = v := rfl

@[simp] theorem Verdict.andThen_accepted (v : Verdict) : v.andThen accepted = v := by
  cases v <;> rfl

theorem Verdict.andThen_assoc (u v w : Verdict) :
    (u.andThen v).andThen w = u.andThen (v.andThen w) := by
  cases u <;> rfl

/-- How a decoder ends. -/
def verdict (x : Decode ε α) : Verdict :=
  match x.run with
  | some (.ok _) => .accepted
  | some (.error _) => .refused
  | none => .panics

/-- A condition on the input: a failed check is an error, a failed assertion a panic. -/
inductive Part
  | check (passes : Bool)
  | assertion (passes : Bool)

def Part.verdict : Part → Verdict
  | check passes => if passes then .accepted else .refused
  | assertion passes => if passes then .accepted else .panics

/-- The first verdict on a list of parts that is not `accepted`. -/
def verdicts : List Part → Verdict
  | [] => .accepted
  | p :: ps => p.verdict.andThen (verdicts ps)

theorem verdicts_append (ps qs : List Part) :
    verdicts (ps ++ qs) = (verdicts ps).andThen (verdicts qs) := by
  induction ps with
  | nil => rfl
  | cons p ps ih => rw [List.cons_append, verdicts, verdicts, ih, Verdict.andThen_assoc]

/-- The decoder ends as the list of parts says. -/
def Follows (x : Decode ε α) (ps : List Part) : Prop := verdict x = verdicts ps

variable {x : Decode ε α} {f : α → Decode ε β} {ps qs : List Part}

theorem follows_pure (a : α) : Follows (pure a : Decode ε α) [] := rfl

theorem follows_throw (e : ε) : Follows (throw e : Decode ε α) [.check false] := rfl

theorem follows_okOr (e : ε) (o : Option α) : Follows (okOr e o) [.check o.isSome] := by
  cases o <;> rfl

theorem follows_unwrap (o : Option α) : Follows (unwrap o : Decode ε α) [.assertion o.isSome] := by
  cases o <;> rfl

theorem Follows.bind (hx : Follows x ps) (hf : ∀ a, Follows (f a) qs) :
    Follows (x >>= f) (ps ++ qs) := by
  rw [Follows, verdicts_append, ← hx]
  unfold verdict
  rw [run_bind]
  cases x.run with
  | none => rfl
  | some r =>
    cases r with
    | error e => rfl
    | ok a => exact hf a

/-- An assertion that passes. -/
theorem Follows.assertion (hx : Follows x ps) {b : Bool} (hb : b = true) :
    Follows x (.assertion b :: ps) := by
  rw [hb]
  exact hx

/-- Nothing runs after an assertion that fails. -/
theorem follows_panic {b : Bool} (hb : b = false) :
    Follows (unwrap none >>= f) (.assertion b :: qs) := by
  rw [hb]
  rfl

/-- The last step of a decoder, which builds its result. -/
theorem Follows.build (hx : Follows x ps) (g : α → β) :
    Follows (x >>= fun a => pure (g a)) ps := by
  have h := hx.bind fun a => follows_pure (ε := ε) (g a)
  rwa [List.append_nil] at h

theorem Follows.map (hx : Follows x ps) (g : α → β) : Follows (g <$> x) ps := by
  rw [← bind_pure_comp]
  exact hx.build g

/-- The parts of an optional field. -/
def optionalParts (parts : α → List Part) : Option α → List Part
  | none => []
  | some a => parts a

/-- A field that has to be there is checked, then decoded. -/
theorem follows_required (e : ε) {parts : α → List Part} (hf : ∀ a, Follows (f a) (parts a))
    (o : Option α) : Follows (okOr e o >>= f) (.check o.isSome :: optionalParts parts o) := by
  cases o with
  | none => rfl
  | some a =>
    have hbind : okOr e (some a) >>= f = f a := pure_bind a f
    rw [hbind]
    exact hf a

/-- `map(f).transpose()` of an optional field. -/
def transpose (f : α → Decode ε β) : Option α → Decode ε (Option β)
  | none => pure none
  | some a => some <$> f a

theorem follows_transpose {parts : α → List Part} (hf : ∀ a, Follows (f a) (parts a))
    (o : Option α) : Follows (transpose f o) (optionalParts parts o) := by
  cases o with
  | none => exact follows_pure none
  | some a => exact (hf a).map some

/-- The elements of a list are decoded in order, up to the first that is not accepted. -/
theorem follows_mapM {parts : α → List Part} (hf : ∀ a, Follows (f a) (parts a))
    (l : List α) : Follows (l.mapM f) (l.flatMap parts) := by
  induction l with
  | nil =>
    rw [List.mapM_nil, List.flatMap_nil]
    exact follows_pure []
  | cons a l ih =>
    rw [List.mapM_cons, List.flatMap_cons]
    exact (hf a).bind fun b => ih.build fun bs => b :: bs

/-! ## Accepting -/

/-- The decoder accepts with a value. -/
def Accepts (x : Decode ε α) (a : α) : Prop := x.run = some (.ok a)

@[simp] theorem accepts_pure {a b : α} : Accepts (pure a : Decode ε α) b ↔ a = b := by
  show some (Except.ok a) = some (.ok b) ↔ a = b
  simp

@[simp] theorem not_accepts_throw (e : ε) (a : α) : ¬Accepts (throw e : Decode ε α) a := by
  intro h
  cases h

@[simp] theorem accepts_bind {b : β} :
    Accepts (x >>= f) b ↔ ∃ a, Accepts x a ∧ Accepts (f a) b := by
  simp only [Accepts, run_bind]
  rcases x.run with _ | _ | a <;> simp

@[simp] theorem accepts_map {g : α → β} {b : β} :
    Accepts (g <$> x) b ↔ ∃ a, Accepts x a ∧ g a = b := by
  rw [← bind_pure_comp, accepts_bind]
  simp

@[simp] theorem accepts_okOr {e : ε} {o : Option α} {a : α} :
    Accepts (okOr e o) a ↔ o = some a := by
  cases o <;> simp [okOr]

@[simp] theorem accepts_unwrap {o : Option α} {a : α} :
    Accepts (unwrap o : Decode ε α) a ↔ o = some a := by
  cases o <;> simp [Accepts, unwrap]

/-! ## Returning -/

/-- Every assertion that fails stands behind a check that fails. -/
def Clean (ps : List Part) : Prop :=
  ∀ before after, ps = before ++ Part.assertion false :: after → Part.check false ∈ before

theorem clean_nil : Clean [] := by
  intro before after h
  simp at h

theorem clean_cons {p : Part} :
    Clean (p :: ps) ↔ p.verdict = .refused ∨ p.verdict = .accepted ∧ Clean ps := by
  constructor
  · intro h
    rcases p with (_ | _) | (_ | _)
    · exact Or.inl rfl
    · refine Or.inr ⟨rfl, ?_⟩
      intro before after hps
      have hmem := h (.check true :: before) after (by rw [hps, List.cons_append])
      simpa using hmem
    · have hmem := h [] ps rfl
      cases hmem
    · refine Or.inr ⟨rfl, ?_⟩
      intro before after hps
      have hmem := h (.assertion true :: before) after (by rw [hps, List.cons_append])
      simpa using hmem
  · intro h before after hps
    cases before with
    | nil =>
      rw [List.nil_append, List.cons.injEq] at hps
      rw [hps.1] at h
      rcases h with h | ⟨h, -⟩ <;> cases h
    | cons b before =>
      rw [List.cons_append, List.cons.injEq] at hps
      rcases h with h | ⟨-, h⟩
      · rcases p with (_ | _) | (_ | _)
        · rw [← hps.1]
          exact List.mem_cons_self
        · cases h
        · cases h
        · cases h
      · exact List.mem_cons_of_mem b (h before after hps.2)

theorem clean_iff : Clean ps ↔ verdicts ps ≠ .panics := by
  induction ps with
  | nil => simp [clean_nil, verdicts]
  | cons p ps ih =>
    rw [clean_cons, ih, verdicts]
    cases p.verdict <;> simp [Verdict.andThen]

/-- **A decoder returns exactly when its list is clean.** -/
theorem returns_iff (h : Follows x ps) : Returns x ↔ Clean ps := by
  rw [clean_iff, ← h, Returns, verdict]
  cases x.run with
  | none => simp
  | some r => cases r <;> simp

theorem not_returns (h : Follows x ps) (hps : verdicts ps = .panics) : ¬Returns x := by
  rw [returns_iff h, clean_iff, not_not]
  exact hps

end Decode
