import Mathlib.Tactic.Common

/-!
# Labelled transition systems with a partial step function

* `System`: initial states and a partial step.
* `System.Reaches C`: the states of the runs all of whose steps meet the condition `C`, which may
  look at the state before the step and at the action; `System.Reachable` puts no condition.
* **`Reaches.invariant`**, **`Reaches.invariant_with`**: what holds initially and is kept by every
  step holds in every state reached, where the step may use what is known of all reached states.
* `System.runAll`, `System.runChecked`, `exists_reaches`: a list of actions is executed, and its
  end is reached.
-/

namespace Transition

/-- A labelled transition system: initial states and a partial step function. -/
structure System (σ α : Type*) where
  Init : σ → Prop
  step : σ → α → Option σ

variable {σ α : Type*} (S : System σ α)

/-- The states reached by runs all of whose steps meet `C` in the state before the step. -/
inductive System.Reaches (C : σ → α → Prop) : σ → Prop
  | init {s : σ} : S.Init s → System.Reaches C s
  | step {s t : σ} {a : α} : System.Reaches C s → C s a → S.step s a = some t → System.Reaches C t

/-- The states reached by any run. -/
abbrev System.Reachable : σ → Prop := S.Reaches fun _ _ => True

variable {S}

theorem Reaches.mono {C D : σ → α → Prop} (h : ∀ s a, C s a → D s a) {s : σ}
    (hs : S.Reaches C s) : S.Reaches D s := by
  induction hs with
  | init hi => exact .init hi
  | step _ hc ht ih => exact .step ih (h _ _ hc) ht

/-- **Invariant rule.** -/
theorem Reaches.invariant {C : σ → α → Prop} (I : σ → Prop) (hinit : ∀ s, S.Init s → I s)
    (hstep : ∀ s a t, I s → C s a → S.step s a = some t → I t) {s : σ} (hs : S.Reaches C s) :
    I s := by
  induction hs with
  | init hi => exact hinit _ hi
  | step _ hc ht ih => exact hstep _ _ _ ih hc ht

/-- **Invariant rule**, where a step may use an invariant `J` that is already known. -/
theorem Reaches.invariant_with {C : σ → α → Prop} (I : σ → Prop) {J : σ → Prop}
    (hJ : ∀ s, S.Reaches C s → J s) (hinit : ∀ s, S.Init s → I s)
    (hstep : ∀ s a t, J s → I s → C s a → S.step s a = some t → I t) {s : σ}
    (hs : S.Reaches C s) : I s := by
  induction hs with
  | init hi => exact hinit _ hi
  | step hs hc ht ih => exact hstep _ _ _ (hJ _ hs) ih hc ht

/-- The state after a list of actions, those left out that are not enabled when their turn comes. -/
def System.runAll (S : System σ α) (s : σ) : List α → σ
  | [] => s
  | a :: as => System.runAll S ((S.step s a).getD s) as

theorem reaches_runAll {C : σ → α → Prop} (hc : ∀ s a, C s a) :
    ∀ {as : List α} {s : σ}, S.Reaches C s → S.Reaches C (S.runAll s as)
  | [], s, hs => hs
  | a :: as, s, hs => by
    have hnext : S.Reaches C ((S.step s a).getD s) := by
      cases ht : S.step s a with
      | none => exact hs
      | some t => exact hs.step (hc s a) ht
    rw [System.runAll]
    exact reaches_runAll hc hnext

/-! ## Executing a run -/

/-- The state after a list of actions each of which passes the test `c` when its turn comes. -/
def System.runChecked (S : System σ α) (c : σ → α → Bool) (s : σ) : List α → Option σ
  | [] => some s
  | a :: as => if c s a then (S.step s a).bind fun t => System.runChecked S c t as else none

theorem reaches_of_runChecked {C : σ → α → Prop} {c : σ → α → Bool}
    (hc : ∀ s a, c s a = true → C s a) :
    ∀ {as : List α} {s t : σ}, S.Reaches C s → S.runChecked c s as = some t → S.Reaches C t
  | [], s, t, hs, h => by
    obtain rfl : s = t := Option.some.inj h
    exact hs
  | a :: as, s, t, hs, h => by
    unfold System.runChecked at h
    split_ifs at h with ha
    obtain ⟨u, hu, h⟩ := Option.bind_eq_some_iff.mp h
    exact reaches_of_runChecked hc (hs.step (hc s a ha) hu) h

/-- A test that the state after an executed run passes holds in some state reached. -/
theorem exists_reaches {C : σ → α → Prop} {c : σ → α → Bool} (hc : ∀ s a, c s a = true → C s a)
    {as : List α} {s : σ} (hs : S.Init s) {p : σ → Bool}
    (h : (S.runChecked c s as).any p = true) : ∃ t, S.Reaches C t ∧ p t = true := by
  obtain ⟨t, ht, hp⟩ := (Option.any_eq_true _ _).mp h
  exact ⟨t, reaches_of_runChecked hc (.init hs) ht, hp⟩

theorem exists_reachable {as : List α} {s : σ} (hs : S.Init s) {p : σ → Bool}
    (h : (S.runChecked (fun _ _ => true) s as).any p = true) :
    ∃ t, S.Reachable t ∧ p t = true :=
  exists_reaches (fun _ _ _ => trivial) hs h

end Transition
