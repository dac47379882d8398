import TypeDBDriver.Common.Error
import TypeDBDriver.Ffi.Memory
import TypeDBDriver.Lib.Transition

/-!
# The error flag of the C interface

* `Native`: native code over the slot `LAST_ERROR` of its thread; `none` is a panic, which ends the
  process.
* `okRecord` and the conversions of a result built on it; `checkError`, `getLastError`.
* `Conversion`, `Call`, `Thread`, `threadSystem`: a thread that makes any calls, with a record of how
  the last operation went.
* `run_convertAll`: an operation leaves its last error in the slot, or leaves the slot as it was.
* **`reflects_iff`**: the flag reflects the last operation in a class of runs just when no operation
  succeeds while an error is pending; a success does not clear the flag.
-/

namespace TypeDBDriver.Ffi

open Transition (System)

/-- Native code of a thread. -/
abbrev Native (α : Type) : Type := StateT (Option Error) Option α

/-- A pointer that may be null, with what it points to. -/
abbrev Pointer (α : Type) : Type := Option α

variable {α : Type}

/-! ## The conversions of a result -/

def recordError (err : Error) : Native Unit := set (some err)

def okRecord : Result α → Native (Option α)
  | .ok value => pure (some value)
  | .error err => do
    recordError err
    pure none

def okRecordFlatten : Option (Result α) → Native (Option α)
  | some result => okRecord result
  | none => pure none

def releaseOptional (t : Option α) : Pointer α := t

/-- `release_string` of a text that there may be. -/
def releaseStringOrNull : Option String → Native (Pointer CString)
  | some str => StateT.lift ((releaseString str).map some)
  | none => pure none

def tryRelease (result : Result α) : Native (Pointer α) := do
  pure (releaseOptional (← okRecord result))

def tryReleaseOptional (result : Option (Result α)) : Native (Pointer α) := do
  pure (releaseOptional (← okRecordFlatten result))

def tryReleaseString (result : Result String) : Native (Pointer CString) := do
  releaseStringOrNull (← okRecord result)

def tryReleaseOptionalString (result : Option (Result String)) : Native (Pointer CString) := do
  releaseStringOrNull (← okRecordFlatten result)

def tryReleaseOptionalArc (result : Option α) : Pointer α := result

def tryReleaseArc (result : Result α) : Native (Pointer α) := do
  pure (tryReleaseOptionalArc (← okRecord result))

def unwrapOrDefault [Inhabited α] (result : Result α) : Native α := do
  pure ((← okRecord result).getD default)

def unwrapVoid (result : Result Unit) : Native Unit := do
  let _ ← okRecord result
  pure ()

def checkError : Native Bool := do
  pure (← get).isSome

/-- The error is taken out of the slot. -/
def getLastError : Native (Pointer Error) := do
  let prev ← get
  set (none : Option Error)
  pure (releaseOptional prev)

/-! ## Operations -/

/-- A conversion that an exported function makes of a result with values in `V`. -/
inductive Conversion (V : Type)
  | tryRelease (result : Result V)
  | tryReleaseOptional (result : Option (Result V))
  | tryReleaseString (result : Result String)
  | tryReleaseOptionalString (result : Option (Result String))
  | tryReleaseArc (result : Result V)
  | unwrapOrDefault (result : Result V)
  | unwrapVoid (result : Result Unit)

variable {V : Type} [Inhabited V]

namespace Conversion

def run : Conversion V → Native Unit
  | tryRelease result => do let _ ← Ffi.tryRelease result; pure ()
  | tryReleaseOptional result => do let _ ← Ffi.tryReleaseOptional result; pure ()
  | tryReleaseString result => do let _ ← Ffi.tryReleaseString result; pure ()
  | tryReleaseOptionalString result => do let _ ← Ffi.tryReleaseOptionalString result; pure ()
  | tryReleaseArc result => do let _ ← Ffi.tryReleaseArc result; pure ()
  | unwrapOrDefault result => do let _ ← Ffi.unwrapOrDefault result; pure ()
  | unwrapVoid result => Ffi.unwrapVoid result

/-- The error of the result, if it has one. -/
def error? : Conversion V → Option Error
  | tryRelease (.error e) | tryReleaseOptional (some (.error e)) | tryReleaseString (.error e)
  | tryReleaseOptionalString (some (.error e)) | tryReleaseArc (.error e)
  | unwrapOrDefault (.error e) | unwrapVoid (.error e) => some e
  | _ => none

end Conversion

/-- The conversions of one exported function, in order: one opens a driver with the addresses that
another has parsed. A function that converts nothing cannot fail. -/
def convertAll : List (Conversion V) → Native Unit
  | [] => pure ()
  | conversion :: conversions => do
    conversion.run
    convertAll conversions

/-- The error that an operation fails with: its last one. -/
def failure (conversions : List (Conversion V)) : Option Error :=
  (conversions.filterMap Conversion.error?).getLast?

/-- A call of the C interface. -/
inductive Call (V : Type)
  | operation (conversions : List (Conversion V))
  | checkError
  | getLastError

structure Thread where
  lastError : Option Error
  /-- ghost: the error of the most recent operation, unless it was taken -/
  pending : Option Error

def Thread.step (s : Thread) : Call V → Option Thread
  | .operation conversions =>
    ((convertAll conversions).run s.lastError).map fun r => ⟨r.2, failure conversions⟩
  | .checkError => (checkError.run s.lastError).map fun r => ⟨r.2, s.pending⟩
  | .getLastError => (getLastError.run s.lastError).map fun r => ⟨r.2, none⟩

/-- A thread, which starts without an error. -/
def threadSystem (V : Type) [Inhabited V] : System Thread (Call V) where
  Init s := s = ⟨none, none⟩
  step := Thread.step

/-- What the flag and the error say is how the most recent operation went. -/
structure Reflects (s : Thread) : Prop where
  flag : (checkError.run s.lastError).map Prod.fst = some s.pending.isSome
  error : (getLastError.run s.lastError).map Prod.fst = some s.pending

theorem reflects_iff_eq {s : Thread} : Reflects s ↔ s.lastError = s.pending := by
  constructor
  · intro h
    exact Option.some.inj h.error
  · intro h
    exact ⟨by rw [h]; rfl, by rw [h]; rfl⟩

/-- A text that is handed out leaves the slot as it was. -/
theorem run_releaseStringOrNull {str : Option String} {slot : Option Error}
    {r : Pointer CString × Option Error} (h : (releaseStringOrNull str).run slot = some r) :
    r.2 = slot := by
  cases str with
  | none => exact (Prod.mk.inj (Option.some.inj h)).2.symm
  | some str =>
    obtain ⟨c, -, hc⟩ := Option.bind_eq_some_iff.mp h
    exact (Prod.mk.inj (Option.some.inj hc)).2.symm

theorem run_ok_string {str : String} {slot slot' : Option Error}
    (h : (Conversion.tryReleaseString (.ok str) : Conversion V).run.run slot =
      some ((), slot')) : slot' = slot := by
  obtain ⟨⟨c, slot₁⟩, hrun, hslot⟩ := Option.bind_eq_some_iff.mp h
  have hrelease : (releaseStringOrNull (some str)).run slot = some (c, slot₁) := hrun
  have hsame : slot₁ = slot := run_releaseStringOrNull hrelease
  rw [← (Prod.mk.inj (Option.some.inj hslot)).2, hsame]

/-- A conversion leaves its error in the slot, or leaves the slot as it was. -/
theorem run_conversion {conversion : Conversion V} {slot slot' : Option Error}
    (h : conversion.run.run slot = some ((), slot')) : slot' = conversion.error?.or slot := by
  cases conversion with
  | tryRelease result | tryReleaseArc result | unwrapOrDefault result | unwrapVoid result =>
    cases result <;> exact (Prod.mk.inj (Option.some.inj h)).2.symm
  | tryReleaseOptional result =>
    rcases result with _ | _ | _ <;> exact (Prod.mk.inj (Option.some.inj h)).2.symm
  | tryReleaseString result =>
    cases result with
    | error e => exact (Prod.mk.inj (Option.some.inj h)).2.symm
    | ok str => exact run_ok_string (V := V) h
  | tryReleaseOptionalString result =>
    rcases result with _ | e | str
    · exact (Prod.mk.inj (Option.some.inj h)).2.symm
    · exact (Prod.mk.inj (Option.some.inj h)).2.symm
    · exact run_ok_string (V := V) h

/-- **An operation leaves its last error in the slot, or leaves the slot as it was.** -/
theorem run_convertAll {conversions : List (Conversion V)} {slot slot' : Option Error}
    (h : (convertAll conversions).run slot = some ((), slot')) :
    slot' = (failure conversions).or slot := by
  induction conversions generalizing slot with
  | nil => exact (Prod.mk.inj (Option.some.inj h)).2.symm
  | cons conversion conversions ih =>
    obtain ⟨⟨⟨⟩, slot₁⟩, hone, hrest⟩ := Option.bind_eq_some_iff.mp h
    rw [ih hrest, run_conversion hone]
    unfold failure
    rw [List.filterMap_cons]
    cases conversion.error? with
    | none => rfl
    | some e =>
      rw [List.getLast?_cons]
      cases (conversions.filterMap Conversion.error?).getLast? <;> rfl

/-! ## Runs -/

variable {s s' : Thread}

/-- The operation succeeds only where no error is pending. -/
def ClearBefore (s : Thread) : Call V → Prop
  | .operation conversions => failure conversions = none → s.lastError = none
  | _ => True

/-- **A step keeps the flag right just when it meets the condition.** -/
theorem step_reflects {call : Call V} (h : Reflects s) (hstep : s.step call = some s') :
    Reflects s' ↔ ClearBefore s call := by
  rw [reflects_iff_eq] at h ⊢
  cases call with
  | operation conversions =>
    obtain ⟨⟨⟨⟩, slot⟩, hrun, rfl⟩ := Option.map_eq_some_iff.mp hstep
    have hslot := run_convertAll hrun
    subst hslot
    show (failure conversions).or s.lastError = failure conversions ↔
      (failure conversions = none → s.lastError = none)
    cases failure conversions with
    | none => simp
    | some e => simp
  | checkError =>
    obtain rfl := Option.some.inj hstep
    exact iff_of_true h trivial
  | getLastError =>
    obtain rfl := Option.some.inj hstep
    exact iff_of_true rfl trivial

/-- **The flag reflects the last operation in a class of runs**, whatever the class, exactly when in
none of them an operation succeeds while an error waits to be taken. -/
theorem reflects_iff (C : Thread → Call V → Prop) :
    (∀ s, (threadSystem V).Reaches C s → Reflects s) ↔
      ∀ s call s', (threadSystem V).Reaches C s → C s call →
        (threadSystem V).step s call = some s' → ClearBefore s call := by
  constructor
  · intro h s call s' hs hc hstep
    exact (step_reflects (h s hs) hstep).mp (h s' (hs.step hc hstep))
  · intro h s hs
    induction hs with
    | init hi =>
      obtain rfl := hi
      exact reflects_iff_eq.mpr rfl
    | step hs hc hstep ih => exact (step_reflects ih hstep).mpr (h _ _ _ hs hc hstep)

/-- A database is not found, its error is left, and the names of all databases are fetched. -/
def staleRun : List (Call Unit) :=
  [.operation [.tryReleaseArc (.error (.other "not found"))], .operation [.tryRelease (.ok ())]]

theorem not_reflects : ¬ ∀ s, (threadSystem Unit).Reachable s → Reflects s := by
  intro h
  have hrun : ((threadSystem Unit).runChecked (fun _ _ => true) ⟨none, none⟩ staleRun).any
      (fun s => s.lastError.isSome && s.pending.isNone) = true := by decide
  obtain ⟨s, hs, hp⟩ := Transition.exists_reachable rfl hrun
  have heq := reflects_iff_eq.mp (h s hs)
  rw [heq] at hp
  cases hpending : s.pending <;> simp [hpending] at hp

end TypeDBDriver.Ffi
