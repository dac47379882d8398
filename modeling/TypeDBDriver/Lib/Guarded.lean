import Mathlib.Tactic.Common

/-!
# Programs with guards of read-write locks

One thread takes and drops guards of locks that are not re-entrant. Other threads change the state
whenever a guard is dropped.

* `Guarded`: programs that read and write the state and take guards, which are dropped in reverse
  order; `withGuard`: a program under a guard.
* `Guarded.run`, `Outcome`: a program returns, panics, or waits for a lock that it holds itself.
* **`run_bind`**, **`run_withGuard`**: the outcome of composed programs.
-/

/-- A guard allows to read or to write. -/
inductive GuardMode
  | read
  | write
  deriving DecidableEq

/-- A program over a state `S` with locks `L`. -/
inductive Guarded (L S α : Type)
  | pure (a : α)
  | panic
  | get (k : S → Guarded L S α)
  | set (s : S) (p : Guarded L S α)
  | acquire (lock : L) (mode : GuardMode) (p : Guarded L S α)
  /-- the guard taken last is dropped -/
  | release (p : Guarded L S α)

/-- The guards that a thread holds, the last one first. -/
abbrev Guards (L : Type) : Type := List (L × GuardMode)

/-- How a program ends: with the guards it holds then, and the count of those it has dropped. -/
inductive Guarded.Outcome (L S α : Type)
  | returned (a : α) (dropped : ℕ) (guards : Guards L) (s : S)
  | panicked (guards : Guards L) (s : S)
  /-- the thread waits for a lock that it holds -/
  | deadlocked (lock : L) (mode : GuardMode)

namespace Guarded

variable {L S α β : Type}

def bind : Guarded L S α → (α → Guarded L S β) → Guarded L S β
  | pure a, f => f a
  | panic, _ => panic
  | get k, f => get fun s => bind (k s) f
  | set s p, f => set s (bind p f)
  | acquire lock mode p, f => acquire lock mode (bind p f)
  | release p, f => release (bind p f)

instance : Monad (Guarded L S) where
  pure := pure
  bind := bind

def read : Guarded L S S := get pure

def modify (f : S → S) : Guarded L S Unit := get fun s => set (f s) (pure ())

/-- `None` panics. -/
def unwrap : Option α → Guarded L S α
  | some a => pure a
  | none => panic

/-- A program under a guard, which is dropped at its end. -/
def withGuard (lock : L) (mode : GuardMode) (p : Guarded L S α) : Guarded L S α :=
  acquire lock mode (bind p fun a => release (pure a))

def Outcome.bind (outcome : Outcome L S α) (f : α → ℕ → Guards L → S → Outcome L S β) :
    Outcome L S β :=
  match outcome with
  | returned a dropped guards s => f a dropped guards s
  | panicked guards s => panicked guards s
  | deadlocked lock mode => deadlocked lock mode

namespace Outcome

variable {f : α → ℕ → Guards L → S → Outcome L S β}

@[simp] theorem returned_bind (a : α) (dropped : ℕ) (guards : Guards L) (s : S) :
    (returned a dropped guards s).bind f = f a dropped guards s := rfl

@[simp] theorem panicked_bind (guards : Guards L) (s : S) :
    (panicked guards s : Outcome L S α).bind f = panicked guards s := rfl

@[simp] theorem deadlocked_bind (lock : L) (mode : GuardMode) :
    (deadlocked lock mode : Outcome L S α).bind f = deadlocked lock mode := rfl

end Outcome

variable [DecidableEq L] (others : ℕ → S → S)

/-- Run a program, where the other threads do `others n` after the `n`-th guard is dropped. -/
def run : Guarded L S α → ℕ → Guards L → S → Outcome L S α
  | pure a, dropped, guards, s => .returned a dropped guards s
  | panic, _, guards, s => .panicked guards s
  | get k, dropped, guards, s => run (k s) dropped guards s
  | set s p, dropped, guards, _ => run p dropped guards s
  | acquire lock mode p, dropped, guards, s =>
    if lock ∈ guards.map Prod.fst then .deadlocked lock mode
    else run p dropped ((lock, mode) :: guards) s
  | release p, dropped, guards, s => run p (dropped + 1) guards.tail (others dropped s)

variable {others} {dropped : ℕ} {guards : Guards L} {s : S}

@[simp] theorem run_pure (a : α) :
    run others (Pure.pure a : Guarded L S α) dropped guards s = .returned a dropped guards s := rfl

@[simp] theorem run_panic :
    run others (panic : Guarded L S α) dropped guards s = .panicked guards s := rfl

@[simp] theorem run_bind (p : Guarded L S α) (f : α → Guarded L S β) :
    run others (p >>= f) dropped guards s =
      (run others p dropped guards s).bind fun a => run others (f a) := by
  show run others (bind p f) dropped guards s = _
  induction p generalizing dropped guards s with
  | pure a => rfl
  | panic => rfl
  | get k ih => exact ih _
  | set s p ih => exact ih
  | acquire lock mode p ih =>
    unfold bind run
    split
    · rfl
    · exact ih
  | release p ih => exact ih

@[simp] theorem run_read :
    run others (read : Guarded L S S) dropped guards s = .returned s dropped guards s := rfl

@[simp] theorem run_modify (f : S → S) :
    run others (modify f : Guarded L S Unit) dropped guards s =
      .returned () dropped guards (f s) := rfl

@[simp] theorem run_unwrap_some (a : α) :
    run others (unwrap (some a) : Guarded L S α) dropped guards s =
      .returned a dropped guards s := rfl

@[simp] theorem run_unwrap_none :
    run others (unwrap none : Guarded L S α) dropped guards s = .panicked guards s := rfl

/-- A program under a guard deadlocks if the lock is held, and drops its guard in the end. -/
@[simp] theorem run_withGuard (lock : L) (mode : GuardMode) (p : Guarded L S α) :
    run others (withGuard lock mode p) dropped guards s =
      if lock ∈ guards.map Prod.fst then .deadlocked lock mode
      else (run others p dropped ((lock, mode) :: guards) s).bind fun a dropped guards s =>
        .returned a (dropped + 1) guards.tail (others dropped s) := by
  show (if lock ∈ guards.map Prod.fst then Outcome.deadlocked lock mode
    else run others (p >>= fun a => release (pure a)) dropped ((lock, mode) :: guards) s) = _
  rw [run_bind]
  rfl

/-- A thread without guards gets every lock. -/
theorem run_withGuard_nil (lock : L) (mode : GuardMode) (p : Guarded L S α) :
    run others (withGuard lock mode p) dropped [] s =
      (run others p dropped [(lock, mode)] s).bind fun a dropped guards s =>
        .returned a (dropped + 1) guards.tail (others dropped s) := by
  rw [run_withGuard]
  rfl

end Guarded
