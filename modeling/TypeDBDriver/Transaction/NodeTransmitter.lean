import TypeDBDriver.Lib.Transition
import Mathlib.Data.List.GetD
import Mathlib.Tactic.SplitIfs

/-!
# The request transmitter of the Node driver

A transaction's requests are gathered in a buffer, which a timer empties into the stream. Functions
run without interruption; timers fire when none runs.

* `BatchDispatcher`, `sendNow`, `setSchedule`, `dispatch`, `dispatchNow`, `onTimeout`, `close`: one
  dispatcher, with what was asked of its stream.
* `RequestTransmitter`, `system`: all dispatchers of a driver, and every order of calls and timers.
* `Sound`: the requests go to the stream once, in order, all of them before its end.
* `Scheduled`: the flag is set just while a timer is pending. It always is.
* `Careful`: no request comes after the end of the stream, which comes when none is buffered.
* **`sound_of_careful`**: in careful runs every dispatcher is sound, and the next step keeps them
  so just when it is careful.
-/

namespace TypeDBDriver.Node

open Transition (System)

variable {ρ : Type}

/-! ## One dispatcher -/

/-- What is asked of a stream. -/
inductive StreamCall (ρ : Type)
  | write (batch : List ρ)
  | «end»
  deriving DecidableEq

def BATCH_WINDOW_SMALL_MILLIS : ℕ := 1
def BATCH_WINDOW_LARGE_MILLIS : ℕ := 3

structure BatchDispatcher (ρ : Type) where
  /-- the calls on the stream so far -/
  transactionStream : List (StreamCall ρ)
  bufferedRequests : List ρ
  isRunning : Bool
  /-- the waits of the timers that are pending -/
  timers : List ℕ
  /-- ghost: the requests dispatched so far -/
  dispatched : List ρ

namespace BatchDispatcher

/-- The constructor. -/
def new : BatchDispatcher ρ := ⟨[], [], false, [], []⟩

def sendNow (d : BatchDispatcher ρ) : BatchDispatcher ρ :=
  { d with
    transactionStream := d.transactionStream ++ [.write d.bufferedRequests]
    bufferedRequests := [] }

def setSchedule (first : Bool) (d : BatchDispatcher ρ) : BatchDispatcher ρ :=
  let wait := if first then BATCH_WINDOW_SMALL_MILLIS else BATCH_WINDOW_LARGE_MILLIS
  { d with timers := d.timers ++ [wait] }

def sendScheduledBatch (d : BatchDispatcher ρ) : BatchDispatcher ρ :=
  if d.isRunning then d else setSchedule true { d with isRunning := true }

/-- `_bufferedRequests.push`. -/
def push (req : ρ) (d : BatchDispatcher ρ) : BatchDispatcher ρ :=
  { d with bufferedRequests := d.bufferedRequests ++ [req], dispatched := d.dispatched ++ [req] }

def dispatch (req : ρ) (d : BatchDispatcher ρ) : BatchDispatcher ρ := (d.push req).sendScheduledBatch

def dispatchNow (req : ρ) (d : BatchDispatcher ρ) : BatchDispatcher ρ := (d.push req).sendNow

/-- The callback of a timer. -/
def onTimeout (d : BatchDispatcher ρ) : BatchDispatcher ρ :=
  if d.bufferedRequests.length > 0 then setSchedule false d.sendNow
  else { d with isRunning := false }

/-- The pending timer at a position fires. -/
def fire (timer : ℕ) (d : BatchDispatcher ρ) : Option (BatchDispatcher ρ) :=
  if timer < d.timers.length then some (onTimeout { d with timers := d.timers.eraseIdx timer })
  else none

/-- `close`, less the entry in the transmitter. -/
def close (d : BatchDispatcher ρ) : BatchDispatcher ρ :=
  { d with transactionStream := d.transactionStream ++ [.end] }

/-- The requests of the batches that were written. -/
def written (d : BatchDispatcher ρ) : List ρ :=
  d.transactionStream.flatMap fun
    | .write batch => batch
    | .end => []

/-- The stream was ended. -/
def Ended (d : BatchDispatcher ρ) : Prop := .end ∈ d.transactionStream

/-- What is promised of a dispatcher. -/
structure Sound (d : BatchDispatcher ρ) : Prop where
  /-- the batches are the dispatched requests in order, each once, up to those in the buffer -/
  inOrder : d.written ++ d.bufferedRequests = d.dispatched
  /-- when the stream ends, all are written -/
  complete : d.Ended → d.written = d.dispatched
  /-- what is buffered will be flushed -/
  pending : d.bufferedRequests ≠ [] → ¬ d.Ended → d.timers ≠ []
  /-- nothing is written after the end -/
  quiet : ∀ before after, d.transactionStream = before ++ .end :: after →
    ∀ batch, .write batch ∉ after

/-- The flag is set just while a timer is pending, of which there is one at most, and there is one
while anything is buffered. -/
structure Scheduled (d : BatchDispatcher ρ) : Prop where
  timers : d.timers.length = if d.isRunning then 1 else 0
  buffered : d.bufferedRequests ≠ [] → d.isRunning = true

theorem Scheduled.timers_ne_nil {d : BatchDispatcher ρ} (h : d.Scheduled)
    (hb : d.bufferedRequests ≠ []) : d.timers ≠ [] := by
  have hlen := h.timers
  rw [h.buffered hb, if_pos rfl] at hlen
  rintro hnil
  rw [hnil] at hlen
  cases hlen

/-! ### What the functions do -/

@[simp] theorem written_sendNow (d : BatchDispatcher ρ) :
    d.sendNow.written = d.written ++ d.bufferedRequests := by
  simp [written, sendNow]

@[simp] theorem written_close (d : BatchDispatcher ρ) : d.close.written = d.written := by
  simp [written, close]

@[simp] theorem ended_sendNow (d : BatchDispatcher ρ) : d.sendNow.Ended ↔ d.Ended := by
  simp [Ended, sendNow]

theorem ended_close (d : BatchDispatcher ρ) : d.close.Ended := by simp [Ended, close]

/-- Scheduling touches neither the stream nor the buffer. -/
theorem sendScheduledBatch_eq (d : BatchDispatcher ρ) :
    d.sendScheduledBatch.transactionStream = d.transactionStream ∧
      d.sendScheduledBatch.bufferedRequests = d.bufferedRequests ∧
      d.sendScheduledBatch.dispatched = d.dispatched ∧
      d.sendScheduledBatch.isRunning = true := by
  rw [sendScheduledBatch]
  split_ifs with h
  · exact ⟨rfl, rfl, rfl, h⟩
  · exact ⟨rfl, rfl, rfl, rfl⟩

theorem Scheduled.push_sendScheduledBatch {d : BatchDispatcher ρ} (h : d.Scheduled) (req : ρ) :
    (d.dispatch req).Scheduled := by
  refine ⟨?_, fun _ => (sendScheduledBatch_eq (d.push req)).2.2.2⟩
  have htimers := h.timers
  rw [dispatch, (sendScheduledBatch_eq (d.push req)).2.2.2, if_pos rfl, sendScheduledBatch]
  split_ifs with hrun
  · have hrunning : d.isRunning = true := hrun
    rw [hrunning, if_pos rfl] at htimers
    exact htimers
  · have hrunning : ¬ d.isRunning = true := hrun
    rw [if_neg hrunning] at htimers
    simp [setSchedule, push, htimers]

theorem Scheduled.dispatchNow {d : BatchDispatcher ρ} (h : d.Scheduled) (req : ρ) :
    (d.dispatchNow req).Scheduled := ⟨h.timers, fun hne => absurd rfl hne⟩

theorem Scheduled.close {d : BatchDispatcher ρ} (h : d.Scheduled) : d.close.Scheduled :=
  ⟨h.timers, h.buffered⟩

/-- A timer that fires was the only one, and leaves another one behind if it sends a batch. -/
theorem fire_eq_some {d d' : BatchDispatcher ρ} {timer : ℕ} (h : d.Scheduled)
    (hfire : d.fire timer = some d') :
    (d.bufferedRequests ≠ [] ∧
      d' = { d.sendNow with timers := [BATCH_WINDOW_LARGE_MILLIS], isRunning := true }) ∨
    (d.bufferedRequests = [] ∧ d' = { d with timers := [], isRunning := false }) := by
  rw [fire] at hfire
  split_ifs at hfire with hlt
  obtain rfl := Option.some.inj hfire
  have htimers := h.timers
  have hrun : d.isRunning = true := by
    by_contra hrun
    rw [if_neg hrun] at htimers
    omega
  rw [hrun, if_pos rfl] at htimers
  have herase : d.timers.eraseIdx timer = [] := by
    rw [← List.length_eq_zero_iff, List.length_eraseIdx_of_lt hlt]
    omega
  rw [onTimeout, herase]
  split_ifs with hb
  · left
    refine ⟨List.length_pos_iff.mp hb, ?_⟩
    simp [setSchedule, sendNow, hrun]
  · right
    have hnil : d.bufferedRequests = [] := List.length_eq_zero_iff.mp (Nat.eq_zero_of_not_pos hb)
    exact ⟨hnil, rfl⟩

theorem Scheduled.fire {d d' : BatchDispatcher ρ} {timer : ℕ} (h : d.Scheduled)
    (hfire : d.fire timer = some d') : d'.Scheduled := by
  rcases fire_eq_some h hfire with ⟨-, rfl⟩ | ⟨hb, rfl⟩
  · exact ⟨rfl, fun _ => rfl⟩
  · exact ⟨rfl, fun hne => absurd hb hne⟩

/-! ### Soundness of one dispatcher -/

theorem sound_new : (new : BatchDispatcher ρ).Sound where
  inOrder := rfl
  complete h := by cases h
  pending h := absurd rfl h
  quiet before after h := by cases before <;> cases h

theorem scheduled_new : (new : BatchDispatcher ρ).Scheduled := ⟨rfl, fun h => absurd rfl h⟩

variable {d d' : BatchDispatcher ρ}

/-- On an ended stream the buffer is empty. -/
theorem Sound.buffered_of_ended (h : d.Sound) (hend : d.Ended) : d.bufferedRequests = [] := by
  have hin := h.inOrder
  rw [h.complete hend] at hin
  exact List.append_right_eq_self.mp hin

theorem Sound.dispatch (h : d.Sound) (hs : d.Scheduled) (hend : ¬ d.Ended) (req : ρ) :
    (d.dispatch req).Sound := by
  obtain ⟨hstream, hbuffer, hdispatched, -⟩ := sendScheduledBatch_eq (d.push req)
  have hended : (d.dispatch req).Ended ↔ d.Ended := by
    rw [Ended, BatchDispatcher.dispatch, hstream]
    rfl
  refine ⟨?_, fun he => absurd (hended.mp he) hend, fun hb _ => ?_, ?_⟩
  · rw [written, BatchDispatcher.dispatch, hstream, hbuffer, hdispatched]
    show d.written ++ (d.bufferedRequests ++ [req]) = d.dispatched ++ [req]
    rw [← List.append_assoc, h.inOrder]
  · exact (hs.push_sendScheduledBatch req).timers_ne_nil hb
  · intro before after heq
    rw [BatchDispatcher.dispatch, hstream] at heq
    exact h.quiet before after heq

theorem Sound.sendNow_quiet (hend : ¬ d.Ended) (before after : List (StreamCall ρ))
    (heq : d.sendNow.transactionStream = before ++ .end :: after) : False := by
  have hmem : StreamCall.end ∈ d.sendNow.transactionStream := by
    rw [heq]
    simp
  exact hend ((ended_sendNow d).mp hmem)

theorem Sound.dispatchNow (h : d.Sound) (hend : ¬ d.Ended) (req : ρ) :
    (d.dispatchNow req).Sound := by
  have hpush : ¬ (d.push req).Ended := hend
  refine ⟨?_, fun he => ?_, fun hb _ => absurd rfl hb, fun before after heq => ?_⟩
  · show (d.push req).sendNow.written ++ [] = d.dispatched ++ [req]
    rw [written_sendNow, List.append_nil]
    show d.written ++ (d.bufferedRequests ++ [req]) = d.dispatched ++ [req]
    rw [← List.append_assoc, h.inOrder]
  · exact absurd ((ended_sendNow _).mp he) hpush
  · exact (Sound.sendNow_quiet hpush before after heq).elim

theorem Sound.fire (h : d.Sound) (hs : d.Scheduled) {timer : ℕ}
    (hfire : d.fire timer = some d') : d'.Sound := by
  rcases fire_eq_some hs hfire with ⟨hb, rfl⟩ | ⟨hb, rfl⟩
  · have hend : ¬ d.Ended := fun hend => hb (h.buffered_of_ended hend)
    refine ⟨?_, fun he => ?_, fun hne => absurd rfl hne, fun before after heq => ?_⟩
    · show d.sendNow.written ++ [] = d.dispatched
      rw [written_sendNow, List.append_nil, h.inOrder]
    · exact absurd ((ended_sendNow d).mp he) hend
    · exact (Sound.sendNow_quiet hend before after heq).elim
  · exact ⟨h.inOrder, h.complete, fun hne => absurd hb hne, h.quiet⟩

theorem Sound.close (h : d.Sound) (hb : d.bufferedRequests = []) : d.close.Sound := by
  have hin := h.inOrder
  rw [hb, List.append_nil] at hin
  refine ⟨?_, fun _ => ?_, fun hne => absurd hb hne, fun before after heq batch hmem => ?_⟩
  · rw [written_close]
    exact h.inOrder
  · rw [written_close]
    exact hin
  · have hcalls : d.transactionStream ++ [.end] = before ++ .end :: after := heq
    rcases List.eq_nil_or_concat after with rfl | ⟨after', last, rfl⟩
    · cases hmem
    · rw [List.concat_eq_append] at hcalls hmem
      rw [← List.cons_append, ← List.append_assoc] at hcalls
      obtain ⟨hinit, hlast⟩ := List.append_inj' hcalls rfl
      obtain rfl : last = .end := (List.cons.inj hlast).1.symm
      rcases List.mem_append.mp hmem with hmem | hmem
      · exact h.quiet before after' hinit batch hmem
      · simp at hmem

end BatchDispatcher

/-! ## The transmitter -/

structure RequestTransmitter (ρ : Type) where
  isOpen : Bool
  /-- every dispatcher that was made -/
  made : List (BatchDispatcher ρ)
  /-- the set `_dispatchers`, by their places among those made -/
  dispatchers : List ℕ

namespace RequestTransmitter

/-- The constructor. -/
def new : RequestTransmitter ρ := ⟨true, [], []⟩

/-- `dispatcher`. -/
def dispatcher (t : RequestTransmitter ρ) : RequestTransmitter ρ :=
  { t with made := t.made ++ [.new], dispatchers := t.dispatchers ++ [t.made.length] }

/-- `BatchDispatcher.close`, with the entry in the transmitter. -/
def closeDispatcher (t : RequestTransmitter ρ) (i : ℕ) : RequestTransmitter ρ :=
  { t with made := t.made.modify i .close, dispatchers := t.dispatchers.filter (· ≠ i) }

def close (t : RequestTransmitter ρ) : RequestTransmitter ρ :=
  if t.isOpen then t.dispatchers.foldl closeDispatcher { t with isOpen := false } else t

end RequestTransmitter

/-- What happens next; `i` is the place of a dispatcher. -/
inductive Action (ρ : Type)
  | dispatcher
  | dispatch (i : ℕ) (req : ρ)
  | dispatchNow (i : ℕ) (req : ρ)
  | timeout (i timer : ℕ)
  | closeDispatcher (i : ℕ)
  | close

namespace RequestTransmitter

def step (t : RequestTransmitter ρ) : Action ρ → Option (RequestTransmitter ρ)
  | .dispatcher => some t.dispatcher
  | .dispatch i req =>
    t.made[i]?.map fun d => { t with made := t.made.set i (d.dispatch req) }
  | .dispatchNow i req =>
    t.made[i]?.map fun d => { t with made := t.made.set i (d.dispatchNow req) }
  | .timeout i timer =>
    (t.made[i]?.bind fun d => d.fire timer).map fun d => { t with made := t.made.set i d }
  | .closeDispatcher i => t.made[i]?.map fun _ => t.closeDispatcher i
  | .close => some t.close

/-- A transmitter without dispatchers, and every order of calls and timers. -/
def system (ρ : Type) : System (RequestTransmitter ρ) (Action ρ) where
  Init t := t = new
  step := step

/-- Nothing is dispatched after the end of the stream, and the stream ends with the buffer empty. -/
def Careful (t : RequestTransmitter ρ) : Action ρ → Prop
  | .dispatch i _ | .dispatchNow i _ => ∀ d, t.made[i]? = some d → ¬ d.Ended
  | .closeDispatcher i => ∀ d, t.made[i]? = some d → d.bufferedRequests = []
  | .close => t.isOpen = true →
    ∀ i ∈ t.dispatchers, ∀ d, t.made[i]? = some d → d.bufferedRequests = []
  | .dispatcher | .timeout _ _ => True

variable {t t' : RequestTransmitter ρ}

/-- A property of all dispatchers is kept when one of them is replaced by another that has it. -/
theorem forall_mem_set {P : BatchDispatcher ρ → Prop} {l : List (BatchDispatcher ρ)} {i : ℕ}
    {d : BatchDispatcher ρ} (h : ∀ x ∈ l, P x) (hd : P d) : ∀ x ∈ l.set i d, P x := by
  intro x hx
  rcases List.mem_or_eq_of_mem_set hx with hx | rfl
  · exact h x hx
  · exact hd

theorem forall_mem_modify {P : BatchDispatcher ρ → Prop} {l : List (BatchDispatcher ρ)} {i : ℕ}
    {f : BatchDispatcher ρ → BatchDispatcher ρ} (h : ∀ x ∈ l, P x)
    (hf : ∀ d, l[i]? = some d → P d → P (f d)) : ∀ x ∈ l.modify i f, P x := by
  intro x hx
  obtain ⟨j, hj⟩ := List.mem_iff_getElem?.mp hx
  rw [List.getElem?_modify] at hj
  obtain ⟨d, hd, rfl⟩ := Option.map_eq_some_iff.mp hj
  have hmem : d ∈ l := List.mem_of_getElem? hd
  split_ifs with hij
  · exact hf d (hij ▸ hd) (h d hmem)
  · exact h d hmem

/-! ### Closing -/

/-- Closing a dispatcher, and closing it again, keeps its requests. -/
structure Kept (d d' : BatchDispatcher ρ) : Prop where
  bufferedRequests : d'.bufferedRequests = d.bufferedRequests
  written : d'.written = d.written
  dispatched : d'.dispatched = d.dispatched
  ended : d.Ended → d'.Ended

theorem Kept.refl (d : BatchDispatcher ρ) : Kept d d := ⟨rfl, rfl, rfl, id⟩

theorem Kept.trans {d₁ d₂ d₃ : BatchDispatcher ρ} (h : Kept d₁ d₂) (h' : Kept d₂ d₃) :
    Kept d₁ d₃ where
  bufferedRequests := h'.bufferedRequests.trans h.bufferedRequests
  written := h'.written.trans h.written
  dispatched := h'.dispatched.trans h.dispatched
  ended he := h'.ended (h.ended he)

theorem kept_close (d : BatchDispatcher ρ) : Kept d d.close :=
  ⟨rfl, d.written_close, rfl, fun _ => d.ended_close⟩

theorem closeDispatcher_kept {i k : ℕ} {d : BatchDispatcher ρ} (h : t.made[i]? = some d) :
    ∃ d', (t.closeDispatcher k).made[i]? = some d' ∧ Kept d d' ∧ (k = i → d'.Ended) := by
  rw [closeDispatcher, List.getElem?_modify, h]
  show ∃ d', some (if k = i then d.close else d) = some d' ∧ Kept d d' ∧ (k = i → d'.Ended)
  by_cases hki : k = i
  · rw [if_pos hki]
    exact ⟨d.close, rfl, kept_close d, fun _ => d.ended_close⟩
  · rw [if_neg hki]
    exact ⟨d, rfl, .refl d, fun heq => absurd heq hki⟩

theorem foldl_closeDispatcher_kept (ids : List ℕ) {i : ℕ} {d : BatchDispatcher ρ}
    (h : t.made[i]? = some d) :
    ∃ d', (ids.foldl closeDispatcher t).made[i]? = some d' ∧ Kept d d' ∧
      (i ∈ ids → d'.Ended) := by
  induction ids generalizing t d with
  | nil => exact ⟨d, h, .refl d, nofun⟩
  | cons k ids ih =>
    obtain ⟨d₁, hd₁, hkept₁, hended₁⟩ := closeDispatcher_kept (k := k) h
    obtain ⟨d₂, hd₂, hkept₂, hended₂⟩ := ih hd₁
    refine ⟨d₂, hd₂, hkept₁.trans hkept₂, fun hi => ?_⟩
    rcases List.mem_cons.mp hi with rfl | hi
    · exact hkept₂.ended (hended₁ rfl)
    · exact hended₂ hi

theorem foldl_closeDispatcher_sound {ids : List ℕ} (h : ∀ d ∈ t.made, d.Sound)
    (hempty : ∀ i ∈ ids, ∀ d, t.made[i]? = some d → d.bufferedRequests = []) :
    ∀ d ∈ (ids.foldl closeDispatcher t).made, d.Sound := by
  induction ids generalizing t with
  | nil => exact h
  | cons k ids ih =>
    have hclosed : ∀ d ∈ (t.closeDispatcher k).made, d.Sound :=
      forall_mem_modify h fun d hd hsound =>
        hsound.close (hempty k List.mem_cons_self d hd)
    refine ih hclosed fun i hi d hd => ?_
    rw [closeDispatcher, List.getElem?_modify] at hd
    obtain ⟨d₀, hd₀, rfl⟩ := Option.map_eq_some_iff.mp hd
    have hd₀empty := hempty i (List.mem_cons_of_mem k hi) d₀ hd₀
    split_ifs
    · exact hd₀empty
    · exact hd₀empty

theorem foldl_closeDispatcher_scheduled {ids : List ℕ} (h : ∀ d ∈ t.made, d.Scheduled) :
    ∀ d ∈ (ids.foldl closeDispatcher t).made, d.Scheduled := by
  induction ids generalizing t with
  | nil => exact h
  | cons k ids ih => exact ih (forall_mem_modify h fun _ _ hd => hd.close)

/-! ### Steps and runs -/

theorem scheduled_step {a : Action ρ} (h : ∀ d ∈ t.made, d.Scheduled)
    (hstep : t.step a = some t') : ∀ d ∈ t'.made, d.Scheduled := by
  cases a with
  | dispatcher =>
    obtain rfl := Option.some.inj hstep
    intro d hd
    rcases List.mem_append.mp hd with hd | hd
    · exact h d hd
    · rw [List.mem_singleton.mp hd]
      exact BatchDispatcher.scheduled_new
  | dispatch i req =>
    obtain ⟨d, hd, rfl⟩ := Option.map_eq_some_iff.mp hstep
    exact forall_mem_set h ((h d (List.mem_of_getElem? hd)).push_sendScheduledBatch req)
  | dispatchNow i req =>
    obtain ⟨d, hd, rfl⟩ := Option.map_eq_some_iff.mp hstep
    exact forall_mem_set h ((h d (List.mem_of_getElem? hd)).dispatchNow req)
  | timeout i timer =>
    obtain ⟨d', hd', rfl⟩ := Option.map_eq_some_iff.mp hstep
    obtain ⟨d, hd, hfire⟩ := Option.bind_eq_some_iff.mp hd'
    exact forall_mem_set h ((h d (List.mem_of_getElem? hd)).fire hfire)
  | closeDispatcher i =>
    obtain ⟨d, hd, rfl⟩ := Option.map_eq_some_iff.mp hstep
    exact forall_mem_modify h fun _ _ hd => hd.close
  | close =>
    obtain rfl := Option.some.inj hstep
    rw [close]
    split_ifs
    · exact foldl_closeDispatcher_scheduled h
    · exact h

/-- **A careful step keeps every dispatcher sound.** -/
theorem sound_step {a : Action ρ} (h : ∀ d ∈ t.made, d.Sound) (hs : ∀ d ∈ t.made, d.Scheduled)
    (hcareful : t.Careful a) (hstep : t.step a = some t') : ∀ d ∈ t'.made, d.Sound := by
  cases a with
  | dispatcher =>
    obtain rfl := Option.some.inj hstep
    intro d hd
    rcases List.mem_append.mp hd with hd | hd
    · exact h d hd
    · rw [List.mem_singleton.mp hd]
      exact BatchDispatcher.sound_new
  | dispatch i req =>
    obtain ⟨d, hd, rfl⟩ := Option.map_eq_some_iff.mp hstep
    have hmem := List.mem_of_getElem? hd
    exact forall_mem_set h ((h d hmem).dispatch (hs d hmem) (hcareful d hd) req)
  | dispatchNow i req =>
    obtain ⟨d, hd, rfl⟩ := Option.map_eq_some_iff.mp hstep
    exact forall_mem_set h ((h d (List.mem_of_getElem? hd)).dispatchNow (hcareful d hd) req)
  | timeout i timer =>
    obtain ⟨d', hd', rfl⟩ := Option.map_eq_some_iff.mp hstep
    obtain ⟨d, hd, hfire⟩ := Option.bind_eq_some_iff.mp hd'
    have hmem := List.mem_of_getElem? hd
    exact forall_mem_set h ((h d hmem).fire (hs d hmem) hfire)
  | closeDispatcher i =>
    obtain ⟨d, hd, rfl⟩ := Option.map_eq_some_iff.mp hstep
    exact forall_mem_modify h fun x hx hsound => hsound.close (hcareful x hx)
  | close =>
    obtain rfl := Option.some.inj hstep
    rw [close]
    split_ifs with hopen
    · exact foldl_closeDispatcher_sound h (hcareful hopen)
    · exact h

/-- A closed dispatcher that is sound had nothing buffered. -/
theorem Kept.buffered_eq_nil {d d' : BatchDispatcher ρ} (hkept : Kept d d') (h : d.Sound)
    (h' : d'.Sound) (hended : d'.Ended) : d.bufferedRequests = [] := by
  have hcomplete := h'.complete hended
  rw [hkept.written, hkept.dispatched, ← h.inOrder] at hcomplete
  exact List.append_right_eq_self.mp hcomplete.symm

/-- **A step that is not careful leaves a dispatcher that is not sound.** -/
theorem careful_of_sound {a : Action ρ} (h : ∀ d ∈ t.made, d.Sound)
    (hstep : t.step a = some t') (h' : ∀ d ∈ t'.made, d.Sound) : t.Careful a := by
  cases a with
  | dispatcher => trivial
  | timeout i timer => trivial
  | dispatch i req =>
    obtain ⟨d, hd, rfl⟩ := Option.map_eq_some_iff.mp hstep
    intro d₀ hd₀ hended
    obtain rfl := Option.some.inj (hd₀.symm.trans hd)
    have hsound := h' (d₀.dispatch req) (List.mem_set (List.getElem?_eq_some_iff.mp hd).1 _)
    obtain ⟨hstream, hbuffer, -⟩ := BatchDispatcher.sendScheduledBatch_eq (d₀.push req)
    have hended' : (d₀.dispatch req).Ended := by
      rw [BatchDispatcher.Ended, BatchDispatcher.dispatch, hstream]
      exact hended
    have hnil := hsound.buffered_of_ended hended'
    rw [BatchDispatcher.dispatch, hbuffer] at hnil
    exact List.append_ne_nil_of_right_ne_nil _ (List.cons_ne_nil req []) hnil
  | dispatchNow i req =>
    obtain ⟨d, hd, rfl⟩ := Option.map_eq_some_iff.mp hstep
    intro d₀ hd₀ hended
    obtain rfl := Option.some.inj (hd₀.symm.trans hd)
    have hsound := h' (d₀.dispatchNow req) (List.mem_set (List.getElem?_eq_some_iff.mp hd).1 _)
    obtain ⟨before, after, hcalls⟩ := List.append_of_mem hended
    refine hsound.quiet before (after ++ [.write (d₀.push req).bufferedRequests]) ?_ _
      (List.mem_append_right _ List.mem_cons_self)
    show d₀.transactionStream ++ [.write (d₀.push req).bufferedRequests] = _
    rw [hcalls]
    simp
  | closeDispatcher i =>
    obtain ⟨_, -, rfl⟩ := Option.map_eq_some_iff.mp hstep
    intro d hd
    obtain ⟨d', hd', hkept, hended⟩ := closeDispatcher_kept (k := i) hd
    exact hkept.buffered_eq_nil (h d (List.mem_of_getElem? hd)) (h' d' (List.mem_of_getElem? hd'))
      (hended rfl)
  | close =>
    obtain rfl := Option.some.inj hstep
    intro hopen i hi d hd
    rw [close, if_pos hopen] at h'
    have hd₀ : ({ t with isOpen := false } : RequestTransmitter ρ).made[i]? = some d := hd
    obtain ⟨d', hd', hkept, hended⟩ := foldl_closeDispatcher_kept t.dispatchers hd₀
    exact hkept.buffered_eq_nil (h d (List.mem_of_getElem? hd)) (h' d' (List.mem_of_getElem? hd'))
      (hended hi)

/-- **In every run, a timer is pending while anything is buffered.** -/
theorem scheduled_of_reaches {C : RequestTransmitter ρ → Action ρ → Prop}
    (h : (system ρ).Reaches C t) : ∀ d ∈ t.made, d.Scheduled := by
  refine Transition.Reaches.invariant (fun t => ∀ d ∈ t.made, d.Scheduled) ?_ ?_ h
  · rintro t rfl d hd
    cases hd
  · intro t a t' ht _ hstep
    exact scheduled_step ht hstep

theorem sound_of_reaches (h : (system ρ).Reaches Careful t) : ∀ d ∈ t.made, d.Sound := by
  refine Transition.Reaches.invariant_with (fun t => ∀ d ∈ t.made, d.Sound)
    (fun _ => scheduled_of_reaches) ?_ ?_ h
  · rintro t rfl d hd
    cases hd
  · intro t a t' hs ht hcareful hstep
    exact sound_step ht hs hcareful hstep

/-- **In a careful run every dispatcher is sound, and each step from there keeps them so just when
it is careful.** -/
theorem sound_of_careful (h : (system ρ).Reaches Careful t) :
    (∀ d ∈ t.made, d.Sound) ∧
      ∀ a t', (system ρ).step t a = some t' → ((∀ d ∈ t'.made, d.Sound) ↔ t.Careful a) := by
  have hsound := sound_of_reaches h
  refine ⟨hsound, fun a t' hstep => ⟨fun h' => careful_of_sound hsound hstep h', fun hcareful => ?_⟩⟩
  exact sound_step hsound (scheduled_of_reaches h) hcareful hstep

/-- A dispatcher that sent a batch and was closed after that. -/
def flushed : RequestTransmitter ℕ where
  isOpen := true
  made := [⟨[.write [7], .end], [], true, [BATCH_WINDOW_LARGE_MILLIS], [7]⟩]
  dispatchers := []

theorem reaches_flushed : (system ℕ).Reaches Careful flushed := by
  have hmade : (system ℕ).Reaches Careful (new.dispatcher) :=
    .step (a := .dispatcher) (.init rfl) trivial rfl
  have hdispatched : (system ℕ).Reaches Careful
      ⟨true, [⟨[], [7], true, [BATCH_WINDOW_SMALL_MILLIS], [7]⟩], [0]⟩ := by
    refine hmade.step (a := .dispatch 0 7) ?_ rfl
    rintro d ⟨⟩
    exact nofun
  have hsent : (system ℕ).Reaches Careful
      ⟨true, [⟨[.write [7]], [], true, [BATCH_WINDOW_LARGE_MILLIS], [7]⟩], [0]⟩ :=
    hdispatched.step (a := .timeout 0 0) trivial rfl
  refine hsent.step (a := .closeDispatcher 0) ?_ rfl
  rintro d ⟨⟩
  rfl

/-- From there on, what is dispatched would break soundness. -/
theorem flushed_sound : (∀ d ∈ flushed.made, d.Sound) ∧
    ∀ a t', (system ℕ).step flushed a = some t' →
      ((∀ d ∈ t'.made, d.Sound) ↔ flushed.Careful a) :=
  sound_of_careful reaches_flushed

/-- A timer that fires after `close` writes to the ended stream. -/
theorem not_sound : ¬∀ t : RequestTransmitter ℕ, (system ℕ).Reachable t →
    ∀ d ∈ t.made, d.Sound := by
  intro h
  have hrun : ((system ℕ).runChecked (fun _ _ => true) new
      [.dispatcher, .dispatch 0 7, .closeDispatcher 0, .timeout 0 0]).any
      (fun t => t.made.any fun d => d.transactionStream = [.end, .write [7]]) = true := by decide
  obtain ⟨t, ht, hp⟩ := Transition.exists_reachable (S := system ℕ) rfl hrun
  obtain ⟨d, hd, hcalls⟩ := List.any_eq_true.mp hp
  have hquiet := (h t ht d hd).quiet [] [.write [7]] (of_decide_eq_true hcalls) [7]
  exact hquiet List.mem_cons_self

end RequestTransmitter

end TypeDBDriver.Node
