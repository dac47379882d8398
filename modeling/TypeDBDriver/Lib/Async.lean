import TypeDBDriver.Lib.Transition

/-!
# Cooperative asynchronous programs

Tasks share a state and run without interruption from one `await` to the next.

* `Async`: programs that read and write the shared state and await replies.
* `Async.run`: one task alone, against a world that answers what it asks.
* `Async.advance`, `Async.pool`: a task up to its next await; any number of tasks, interleaved at
  their awaits.
* `Async.wp`: what has to hold for a program to keep an invariant at its awaits and to ask only
  good questions, while other tasks run in between; `wp_bind`, `wp_mono`.
* `Async.Keeps`: programs that keep an invariant, closed under composition.
* **`Async.pool_invariant`**: if every program does, then so does every interleaving.
-/

open Transition

/-- A program over a shared state `S` that asks questions `Q` and gets replies `R`. -/
inductive Async (S Q R α : Type)
  | pure (a : α)
  | get (k : S → Async S Q R α)
  | set (s : S) (p : Async S Q R α)
  | await (q : Q) (k : R → Async S Q R α)

namespace Async

variable {S Q R α β σ : Type}

/-- The second program continues with the result of the first. -/
def bind : Async S Q R α → (α → Async S Q R β) → Async S Q R β
  | pure a, f => f a
  | get k, f => get fun s => bind (k s) f
  | set s p, f => set s (bind p f)
  | await q k, f => await q fun r => bind (k r) f

instance : Monad (Async S Q R) where
  pure := pure
  bind := bind

/-- Read the shared state. -/
def read : Async S Q R S := get pure

/-- Change the shared state. -/
def modify (f : S → S) : Async S Q R Unit := get fun s => set (f s) (pure ())

/-- Ask, and await the reply. -/
def ask (q : Q) : Async S Q R R := await q pure

/-! ## One task -/

/-- Run a task against a world that answers its questions. -/
def run (answer : Q → σ → R × σ) : Async S Q R α → S × σ → α × (S × σ)
  | pure a, w => (a, w)
  | get k, w => run answer (k w.1) w
  | set s p, w => run answer p (s, w.2)
  | await q k, w =>
    let (r, σ') := answer q w.2
    run answer (k r) (w.1, σ')

section Run

variable {answer : Q → σ → R × σ} {w : S × σ}

@[simp] theorem run_pure (a : α) :
    run answer (Pure.pure a : Async S Q R α) w = (a, w) := rfl

@[simp] theorem run_bind (p : Async S Q R α) (f : α → Async S Q R β) :
    run answer (p >>= f) w = run answer (f (run answer p w).1) (run answer p w).2 := by
  show run answer (bind p f) w = _
  induction p generalizing w with
  | pure a => rfl
  | get k ih => exact ih _
  | set s p ih => exact ih
  | await q k ih => exact ih _

@[simp] theorem run_read : run answer (read : Async S Q R S) w = (w.1, w) := rfl

@[simp] theorem run_modify (f : S → S) :
    run answer (modify f : Async S Q R Unit) w = ((), (f w.1, w.2)) := rfl

@[simp] theorem run_ask (q : Q) : run answer (ask q : Async S Q R R) w =
    ((answer q w.2).1, (w.1, (answer q w.2).2)) := rfl

end Run

/-! ## Many tasks -/

/-- A task up to its next await, or its end. -/
def advance : Async S Q R α → S → S × Async S Q R α
  | pure a, s => (s, pure a)
  | get k, s => advance (k s) s
  | set s p, _ => advance p s
  | await q k, s => (s, await q k)

/-- What a suspended task has asked. -/
def asked : Async S Q R α → List Q
  | await q _ => [q]
  | _ => []

/-- The shared state, the tasks at their awaits, and every question asked so far. -/
structure Pool (S Q R α : Type) where
  shared : S
  tasks : List (Async S Q R α)
  sent : List Q

inductive PoolAction (R ι : Type)
  | start (call : ι)
  /-- the `i`-th task gets its reply -/
  | resume (i : ℕ) (reply : R)

/-- Any number of calls, interleaved at their awaits. -/
def pool {ι : Type} (program : ι → Async S Q R α) (Init : S → Prop) :
    System (Pool S Q R α) (PoolAction R ι) where
  Init p := Init p.shared ∧ p.tasks = [] ∧ p.sent = []
  step p
    | .start call =>
      let (s, task) := (program call).advance p.shared
      some ⟨s, p.tasks ++ [task], p.sent ++ task.asked⟩
    | .resume i reply =>
      match p.tasks[i]? with
      | some (await _ k) =>
        let (s, task) := (k reply).advance p.shared
        some ⟨s, p.tasks.set i task, p.sent ++ task.asked⟩
      | _ => none

/-! ## Rely and guarantee -/

section Rely

variable (Inv : S → Prop) (Good : Q → Prop) (Allowed : Q → R → S → Prop)

/-- The invariant holds at every await, every question is good, and `post` holds in the end,
if the other tasks keep the invariant and every reply is allowed when it comes. -/
def wp : Async S Q R α → (α → S → Prop) → S → Prop
  | pure a, post, s => post a s
  | get k, post, s => wp (k s) post s
  | set s p, post, _ => wp p post s
  | await q k, post, s => Inv s ∧ Good q ∧ ∀ r s', Inv s' → Allowed q r s' → wp (k r) post s'

variable {Inv Good Allowed} {post : α → S → Prop} {s : S}

theorem wp_bind {p : Async S Q R α} {f : α → Async S Q R β} {post : β → S → Prop} :
    wp Inv Good Allowed (p >>= f) post s ↔
      wp Inv Good Allowed p (fun a s => wp Inv Good Allowed (f a) post s) s := by
  show wp Inv Good Allowed (bind p f) post s ↔ _
  induction p generalizing s with
  | pure a => exact Iff.rfl
  | get k ih => exact ih _
  | set s' p ih => exact ih
  | await q k ih =>
    refine and_congr_right fun _ => and_congr_right fun _ => ?_
    exact forall₄_congr fun r s' _ _ => ih r

theorem wp_mono {p : Async S Q R α} {post' : α → S → Prop}
    (h : wp Inv Good Allowed p post s) (hpost : ∀ a s, post a s → post' a s) :
    wp Inv Good Allowed p post' s := by
  induction p generalizing s with
  | pure a => exact hpost a s h
  | get k ih => exact ih _ h
  | set s' p ih => exact ih h
  | await q k ih => exact ⟨h.1, h.2.1, fun r s' hs' hr => ih r (h.2.2 r s' hs' hr)⟩

@[simp] theorem wp_pure (a : α) :
    wp Inv Good Allowed (Pure.pure a : Async S Q R α) post s ↔ post a s := Iff.rfl

@[simp] theorem wp_read {post : S → S → Prop} :
    wp Inv Good Allowed (read : Async S Q R S) post s ↔ post s s := Iff.rfl

@[simp] theorem wp_modify {f : S → S} {post : Unit → S → Prop} :
    wp Inv Good Allowed (modify f : Async S Q R Unit) post s ↔ post () (f s) := Iff.rfl

@[simp] theorem wp_ask {q : Q} {post : R → S → Prop} :
    wp Inv Good Allowed (ask q : Async S Q R R) post s ↔
      Inv s ∧ Good q ∧ ∀ r s', Inv s' → Allowed q r s' → post r s' := Iff.rfl

/-- A program that keeps the invariant, whatever the others do. -/
def Keeps (Inv : S → Prop) (Good : Q → Prop) (Allowed : Q → R → S → Prop)
    (p : Async S Q R α) : Prop := ∀ s, Inv s → wp Inv Good Allowed p (fun _ s => Inv s) s

namespace Keeps

theorem pure (a : α) : Keeps Inv Good Allowed (Pure.pure a : Async S Q R α) := fun _ hs => hs

theorem bind {p : Async S Q R α} {f : α → Async S Q R β} (hp : Keeps Inv Good Allowed p)
    (hf : ∀ a, Keeps Inv Good Allowed (f a)) : Keeps Inv Good Allowed (p >>= f) := by
  intro s hs
  rw [wp_bind]
  exact wp_mono (hp s hs) fun a s' hs' => hf a s' hs'

theorem read : Keeps Inv Good Allowed (Async.read : Async S Q R S) := fun _ hs => hs

theorem modify {f : S → S} (hf : ∀ s, Inv s → Inv (f s)) :
    Keeps Inv Good Allowed (Async.modify f : Async S Q R Unit) := fun s hs => hf s hs

theorem ask {q : Q} (hq : Good q) : Keeps Inv Good Allowed (Async.ask q : Async S Q R R) :=
  fun _ hs => ⟨hs, hq, fun _ _ hs' _ => hs'⟩

end Keeps

/-- A suspended task goes on to keep the invariant, whatever the others do. -/
def Suspended (Inv : S → Prop) (Good : Q → Prop) (Allowed : Q → R → S → Prop) :
    Async S Q R α → Prop
  | await q k => ∀ r s, Inv s → Allowed q r s → wp Inv Good Allowed (k r) (fun _ s => Inv s) s
  | _ => True

theorem advance_of_wp {p : Async S Q R α} (h : wp Inv Good Allowed p (fun _ s => Inv s) s) :
    Inv (p.advance s).1 ∧ Suspended Inv Good Allowed (p.advance s).2 ∧
      ∀ q ∈ (p.advance s).2.asked, Good q := by
  induction p generalizing s with
  | pure a => exact ⟨h, trivial, nofun⟩
  | get k ih => exact ih _ h
  | set s' p ih => exact ih h
  | await q k =>
    refine ⟨h.1, h.2.2, fun q' hq' => ?_⟩
    rw [List.mem_singleton.mp hq']
    exact h.2.1

/-- The reply is allowed when it comes. -/
def AllowedStep {ι : Type} (Allowed : Q → R → S → Prop) (p : Pool S Q R α) :
    PoolAction R ι → Prop
  | .start _ => True
  | .resume i reply => ∀ q k, p.tasks[i]? = some (await q k) → Allowed q reply p.shared

/-- A test of the replies of an executed run. -/
def allowedTest {ι : Type} (allowed : Q → R → S → Bool) (p : Pool S Q R α) :
    PoolAction R ι → Bool
  | .start _ => true
  | .resume i reply =>
    match p.tasks[i]? with
    | some (await q _) => allowed q reply p.shared
    | _ => true

theorem allowedStep_of_test {ι : Type} {allowed : Q → R → S → Bool}
    (h : ∀ q r s, allowed q r s = true → Allowed q r s) (p : Pool S Q R α) (a : PoolAction R ι)
    (ha : allowedTest allowed p a = true) : AllowedStep Allowed p a := by
  cases a with
  | start call => trivial
  | resume i reply =>
    intro q k hi
    rw [allowedTest, hi] at ha
    exact h q reply p.shared ha

structure Pool.Invariant (Inv : S → Prop) (Good : Q → Prop) (Allowed : Q → R → S → Prop)
    (p : Pool S Q R α) : Prop where
  shared : Inv p.shared
  tasks : ∀ t ∈ p.tasks, Suspended Inv Good Allowed t
  sent : ∀ q ∈ p.sent, Good q

/-- **If every program keeps the invariant and asks only good questions, then so does every
interleaving in which the replies are allowed when they come.** -/
theorem pool_invariant {ι : Type} {program : ι → Async S Q R α} {Init : S → Prop}
    (hinit : ∀ s, Init s → Inv s)
    (hprogram : ∀ call, Keeps Inv Good Allowed (program call))
    {p : Pool S Q R α} (h : (pool program Init).Reaches (AllowedStep Allowed) p) :
    p.Invariant Inv Good Allowed := by
  refine Reaches.invariant _ (fun p hp => ?_) (fun p a p' hp hc hstep => ?_) h
  · obtain ⟨hshared, htasks, hsent⟩ := hp
    exact ⟨hinit _ hshared, by rw [htasks]; nofun, by rw [hsent]; nofun⟩
  · cases a with
    | start call =>
      obtain rfl := Option.some.inj hstep
      obtain ⟨hinv, htask, hasked⟩ := advance_of_wp (hprogram call _ hp.shared)
      refine ⟨hinv, fun t ht => ?_, fun q hq => ?_⟩
      · rcases List.mem_append.mp ht with ht | ht
        · exact hp.tasks t ht
        · rw [List.mem_singleton.mp ht]
          exact htask
      · exact (List.mem_append.mp hq).elim (hp.sent q) (hasked q)
    | resume i reply =>
      simp only [pool] at hstep
      split at hstep
      case h_2 => cases hstep
      case h_1 q k hi =>
        obtain rfl := Option.some.inj hstep
        have hwp := hp.tasks _ (List.mem_of_getElem? hi) reply _ hp.shared (hc q k hi)
        obtain ⟨hinv, htask, hasked⟩ := advance_of_wp hwp
        refine ⟨hinv, fun t ht => ?_, fun q hq => ?_⟩
        · rcases List.mem_or_eq_of_mem_set ht with ht | rfl
          · exact hp.tasks t ht
          · exact htask
        · exact (List.mem_append.mp hq).elim (hp.sent q) (hasked q)

end Rely

end Async
