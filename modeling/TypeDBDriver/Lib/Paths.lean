import Mathlib.Algebra.BigOperators.Group.List.Basic
import Mathlib.Algebra.Order.Ring.Nat
import TypeDBDriver.Lib.Async

/-!
# The paths of an asynchronous program

Along a path every read returns any state, and every question gets any reply: nothing is assumed of
the tasks that run in between, nor of the world that answers.

* `Async.Asks`: the questions along a path, up to any of its awaits; `asks_questions`.
* `Async.AtMost`: a bound on the weight of the questions along every path, added up by `bind`.
* `Async.Calls`: programs that call another one a bounded number of times, and ask a bounded number
  of further questions.
* **`Calls.atMost`**: the bound that follows from one for the program that is called.
-/

namespace Async

variable {S Q R α β γ σ : Type}

theorem bind_pure (p : Async S Q R α) : p.bind pure = p := by
  induction p with
  | pure a => rfl
  | get k ih => exact congrArg get (funext ih)
  | set s p ih => exact congrArg (set s) ih
  | await q k ih => exact congrArg (await q) (funext ih)

theorem bind_assoc (p : Async S Q R α) (f : α → Async S Q R β) (g : β → Async S Q R γ) :
    (p.bind f).bind g = p.bind fun a => (f a).bind g := by
  induction p with
  | pure a => rfl
  | get k ih => exact congrArg get (funext ih)
  | set s p ih => exact congrArg (set s) ih
  | await q k ih => exact congrArg (await q) (funext ih)

/-- The questions along a path of a program, up to one of its awaits. -/
inductive Asks : Async S Q R α → List Q → Prop
  | nil (p : Async S Q R α) : Asks p []
  | get {k : S → Async S Q R α} {qs : List Q} (s : S) : Asks (k s) qs → Asks (get k) qs
  | set {p : Async S Q R α} {qs : List Q} (s : S) : Asks p qs → Asks (set s p) qs
  | await {k : R → Async S Q R α} {qs : List Q} (q : Q) (r : R) :
    Asks (k r) qs → Asks (await q k) (q :: qs)

/-- A path through two programs is one through the first, and maybe one through the second. -/
theorem Asks.of_bind {p : Async S Q R α} {f : α → Async S Q R β} {qs : List Q}
    (h : Asks (p.bind f) qs) :
    ∃ first second, qs = first ++ second ∧ Asks p first ∧
      (second = [] ∨ ∃ a, Asks (f a) second) := by
  induction p generalizing qs with
  | pure a => exact ⟨[], qs, rfl, .nil _, .inr ⟨a, h⟩⟩
  | get k ih =>
    cases h with
    | nil => exact ⟨[], [], rfl, .nil _, .inl rfl⟩
    | get s h =>
      obtain ⟨first, second, hqs, hfirst, hsecond⟩ := ih s h
      exact ⟨first, second, hqs, .get s hfirst, hsecond⟩
  | set s p ih =>
    cases h with
    | nil => exact ⟨[], [], rfl, .nil _, .inl rfl⟩
    | set _ h =>
      obtain ⟨first, second, hqs, hfirst, hsecond⟩ := ih h
      exact ⟨first, second, hqs, .set s hfirst, hsecond⟩
  | await q k ih =>
    cases h with
    | nil => exact ⟨[], [], rfl, .nil _, .inl rfl⟩
    | await _ r h =>
      obtain ⟨first, second, rfl, hfirst, hsecond⟩ := ih r h
      exact ⟨q :: first, second, rfl, .await q r hfirst, hsecond⟩

/-- The questions of a task that runs alone. -/
def questions (answer : Q → σ → R × σ) : Async S Q R α → S × σ → List Q
  | pure _, _ => []
  | get k, w => questions answer (k w.1) w
  | set s p, w => questions answer p (s, w.2)
  | await q k, w => q :: questions answer (k (answer q w.2).1) (w.1, (answer q w.2).2)

/-- A run takes a path. -/
theorem asks_questions (answer : Q → σ → R × σ) (p : Async S Q R α) (w : S × σ) :
    Asks p (questions answer p w) := by
  induction p generalizing w with
  | pure a => exact .nil _
  | get k ih => exact .get w.1 (ih w.1 w)
  | set s p ih => exact .set s (ih (s, w.2))
  | await q k ih => exact .await q _ (ih _ _)

/-! ## Weights -/

/-- The questions along every path weigh at most `n`. -/
def AtMost (weight : Q → ℕ) (n : ℕ) (p : Async S Q R α) : Prop :=
  ∀ qs, Asks p qs → (qs.map weight).sum ≤ n

namespace AtMost

variable {weight : Q → ℕ} {n m : ℕ} {p : Async S Q R α}

theorem mono (h : AtMost weight n p) (hnm : n ≤ m) : AtMost weight m p :=
  fun qs hqs => Nat.le_trans (h qs hqs) hnm

theorem pure (n : ℕ) (a : α) : AtMost weight n (Pure.pure a : Async S Q R α) := by
  intro qs hqs
  cases hqs
  exact Nat.zero_le n

theorem get {k : S → Async S Q R α} (h : ∀ s, AtMost weight n (k s)) :
    AtMost weight n (Async.get k) := by
  intro qs hqs
  cases hqs with
  | nil => exact Nat.zero_le n
  | get s hqs => exact h s qs hqs

theorem set (s : S) (h : AtMost weight n p) : AtMost weight n (Async.set s p) := by
  intro qs hqs
  cases hqs with
  | nil => exact Nat.zero_le n
  | set _ hqs => exact h qs hqs

theorem await {q : Q} {k : R → Async S Q R α} (h : ∀ r, AtMost weight n (k r)) :
    AtMost weight (weight q + n) (Async.await q k) := by
  intro qs hqs
  cases hqs with
  | nil => exact Nat.zero_le _
  | await _ r hqs =>
    rw [List.map_cons, List.sum_cons]
    exact Nat.add_le_add_left (h r _ hqs) _

theorem bind {f : α → Async S Q R β} (hp : AtMost weight n p) (hf : ∀ a, AtMost weight m (f a)) :
    AtMost weight (n + m) (p >>= f) := by
  intro qs hqs
  obtain ⟨first, second, rfl, hfirst, hsecond⟩ := Asks.of_bind hqs
  rw [List.map_append, List.sum_append]
  refine Nat.add_le_add (hp first hfirst) ?_
  rcases hsecond with rfl | ⟨a, hsecond⟩
  · exact Nat.zero_le m
  · exact hf a second hsecond

/-- A budget of `n'` for the first program and `m` for the second. -/
theorem bind_le {f : α → Async S Q R β} {n' : ℕ} (hp : AtMost weight n' p) (m : ℕ)
    (hn : n' + m ≤ n) (hf : ∀ a, AtMost weight m (f a)) : AtMost weight n (p >>= f) :=
  (hp.bind hf).mono hn

theorem read : AtMost weight 0 (Async.read : Async S Q R S) := .get fun s => .pure 0 s

theorem modify (f : S → S) : AtMost weight 0 (Async.modify f : Async S Q R Unit) :=
  .get fun s => .set (f s) (.pure 0 ())

theorem ask (q : Q) : AtMost weight (weight q) (Async.ask q : Async S Q R R) :=
  .await fun r => .pure 0 r

end AtMost

/-! ## Calls -/

/-- Along every path the program calls `call` at most `n` times, and asks at most `m` questions
besides, all of them quiet. -/
inductive Calls (call : Async S Q R β) (Quiet : Q → Prop) : ℕ → ℕ → Async S Q R α → Prop
  | pure (n m : ℕ) (a : α) : Calls call Quiet n m (pure a)
  | get {n m : ℕ} {k : S → Async S Q R α} :
    (∀ s, Calls call Quiet n m (k s)) → Calls call Quiet n m (get k)
  | set {n m : ℕ} {p : Async S Q R α} (s : S) :
    Calls call Quiet n m p → Calls call Quiet n m (set s p)
  | await {n m : ℕ} {q : Q} {k : R → Async S Q R α} :
    Quiet q → (∀ r, Calls call Quiet n m (k r)) → Calls call Quiet n (m + 1) (await q k)
  | call {n m : ℕ} {k : β → Async S Q R α} :
    (∀ b, Calls call Quiet n m (k b)) → Calls call Quiet (n + 1) m (bind call k)

namespace Calls

variable {call : Async S Q R β} {Quiet : Q → Prop} {n m n' m' : ℕ} {p : Async S Q R α}

theorem mono (h : Calls call Quiet n m p) (hn : n ≤ n') (hm : m ≤ m') :
    Calls call Quiet n' m' p := by
  induction h generalizing n' m' with
  | pure n m a => exact .pure n' m' a
  | get _ ih => exact .get fun s => ih s hn hm
  | set s _ ih => exact .set s (ih hn hm)
  | await hq _ ih =>
    obtain ⟨m', rfl⟩ : ∃ i, m' = i + 1 := Nat.exists_eq_add_one_of_ne_zero (by omega)
    exact .await hq fun r => ih r hn (Nat.le_of_succ_le_succ hm)
  | call _ ih =>
    obtain ⟨n', rfl⟩ : ∃ i, n' = i + 1 := Nat.exists_eq_add_one_of_ne_zero (by omega)
    exact .call fun b => ih b (Nat.le_of_succ_le_succ hn) hm

theorem bind {f : α → Async S Q R γ} (hp : Calls call Quiet n m p)
    (hf : ∀ a, Calls call Quiet n' m' (f a)) :
    Calls call Quiet (n + n') (m + m') (p >>= f) := by
  show Calls call Quiet (n + n') (m + m') (p.bind f)
  induction hp with
  | pure n m a => exact (hf a).mono (Nat.le_add_left _ _) (Nat.le_add_left _ _)
  | get _ ih => exact .get ih
  | set s _ ih => exact .set s ih
  | await hq _ ih =>
    rw [Nat.add_right_comm]
    exact .await hq ih
  | call _ ih =>
    rw [bind_assoc, Nat.add_right_comm]
    exact .call ih

theorem bind_le {f : α → Async S Q R γ} {n₀ m₀ : ℕ} (hp : Calls call Quiet n₀ m₀ p) (n' m' : ℕ)
    (hn : n₀ + n' ≤ n) (hm : m₀ + m' ≤ m) (hf : ∀ a, Calls call Quiet n' m' (f a)) :
    Calls call Quiet n m (p >>= f) :=
  (hp.bind hf).mono hn hm

/-- The program that is called. -/
theorem self (call : Async S Q R β) (Quiet : Q → Prop) : Calls call Quiet 1 0 call := by
  have h : Calls call Quiet 1 0 (call.bind Async.pure) := .call fun b => .pure 0 0 b
  rwa [bind_pure] at h

theorem read : Calls call Quiet 0 0 (Async.read : Async S Q R S) := .get fun s => .pure 0 0 s

theorem modify (f : S → S) : Calls call Quiet 0 0 (Async.modify f : Async S Q R Unit) :=
  .get fun s => .set (f s) (.pure 0 0 ())

theorem ask {q : Q} (hq : Quiet q) : Calls call Quiet 0 1 (Async.ask q : Async S Q R R) :=
  .await hq fun r => .pure 0 0 r

/-- **What the calls and the quiet questions weigh together.** -/
theorem atMost {weight : Q → ℕ} {c d : ℕ} (hcall : AtMost weight c call)
    (hquiet : ∀ q, Quiet q → weight q ≤ d) (h : Calls call Quiet n m p) :
    AtMost weight (n * c + m * d) p := by
  induction h with
  | pure n m a => exact .pure _ a
  | get _ ih => exact .get ih
  | set s _ ih => exact .set s ih
  | await hq _ ih =>
    rw [Nat.succ_mul, Nat.add_comm (_ * d), Nat.add_left_comm]
    exact (AtMost.await ih).mono (Nat.add_le_add_right (hquiet _ hq) _)
  | call _ ih =>
    rw [Nat.succ_mul, Nat.add_comm (_ * c), Nat.add_assoc]
    exact hcall.bind ih

end Calls

end Async
