import Mathlib.Data.List.Induction
import TypeDBDriver.Lib.Packing
import TypeDBDriver.Transaction.Frames

/-!
# The batching of requests

* `Batcher`, `Batcher.add`, `wakeUp`, `dispatchWakeUps`: the request buffer of the dispatch loop and the
  messages handed to gRPC.
* **`packer_dispatchWakeUps`**: the loop is greedy packing; the length of the buffer is the sum of the
  lengths of its requests.
* **`batcher_of_reaches`**: in every run of a transaction the messages handed over are those of some
  wake-ups.
* `Batched`: what arrived is handed over, in messages that are neither empty nor too long.
* **`batched_iff`**: it is just when no wake-up starts with a request longer than a message may be.
  Such a request finds the buffer empty, and the empty buffer is sent.
-/

namespace TypeDBDriver.Transaction

open Transition (System)

variable {ρ π α : Type}

/-! ## The loop -/

/-- The request buffer, and the `transaction::Client` messages handed to gRPC. -/
structure Batcher (ρ : Type) where
  requestBuffer : TransactionRequestBuffer ρ
  handed : List (List (Req ρ))

section Loop

variable (encodedLen : Req ρ → ℕ)

namespace Batcher

def new : Batcher ρ := ⟨.empty, []⟩

/-- A request is put into the buffer, which is sent before if the request does not fit in. -/
def add (b : Batcher ρ) (request : Req ρ) : Batcher ρ :=
  if maxGrpcMessageLen < b.requestBuffer.len + encodedLen request then
    ⟨TransactionRequestBuffer.empty.push encodedLen request, b.handed ++ [b.requestBuffer.reqs]⟩
  else ⟨b.requestBuffer.push encodedLen request, b.handed⟩

/-- The end of a wake-up. -/
def finish (b : Batcher ρ) : Batcher ρ := ⟨.empty, b.handed ++ b.requestBuffer.flush⟩

/-- The requests that are in the queue at a wake-up, and those that arrive until it is empty. -/
def wakeUp (b : Batcher ρ) (requests : List (Req ρ)) : Batcher ρ :=
  (requests.foldl (add encodedLen) b).finish

/-- The buffer and the messages, without the count of the length. -/
def packer (b : Batcher ρ) : Packer (Req ρ) := ⟨b.requestBuffer.reqs, b.handed⟩

/-- The length of the buffer is the sum of the lengths of its requests. -/
def Counted (b : Batcher ρ) : Prop :=
  b.requestBuffer.len = (b.requestBuffer.reqs.map encodedLen).sum

end Batcher

/-- What the dispatch loop hands over in some wake-ups. -/
def dispatchWakeUps (wakeUps : List (List (Req ρ))) : Batcher ρ :=
  wakeUps.foldl (Batcher.wakeUp encodedLen) .new

variable {encodedLen}

/-! ## Greedy packing -/

namespace Batcher

theorem counted_push {buffer : TransactionRequestBuffer ρ}
    (h : buffer.len = (buffer.reqs.map encodedLen).sum) (request : Req ρ) :
    (buffer.push encodedLen request).len =
      ((buffer.push encodedLen request).reqs.map encodedLen).sum := by
  simp [TransactionRequestBuffer.push, h]

theorem Counted.add {b : Batcher ρ} (h : b.Counted encodedLen) (request : Req ρ) :
    (b.add encodedLen request).Counted encodedLen ∧
      (b.add encodedLen request).packer =
        b.packer.push maxGrpcMessageLen encodedLen request := by
  unfold Counted at h
  unfold Batcher.add Packer.push packer
  rw [h]
  split
  · exact ⟨counted_push rfl request, rfl⟩
  · exact ⟨counted_push h request, rfl⟩

theorem counted_finish (b : Batcher ρ) : b.finish.Counted encodedLen := rfl

theorem packer_finish (b : Batcher ρ) : b.finish.packer = b.packer.flush := by
  unfold finish packer Packer.flush TransactionRequestBuffer.flush
  cases b.requestBuffer.reqs <;> rfl

theorem Counted.foldl_add {b : Batcher ρ} (h : b.Counted encodedLen) (requests : List (Req ρ)) :
    (requests.foldl (Batcher.add encodedLen) b).Counted encodedLen ∧
      (requests.foldl (Batcher.add encodedLen) b).packer =
        requests.foldl (Packer.push maxGrpcMessageLen encodedLen) b.packer := by
  induction requests generalizing b with
  | nil => exact ⟨h, rfl⟩
  | cons request requests ih =>
    obtain ⟨hcounted, hpacker⟩ := h.add request
    rw [List.foldl_cons, List.foldl_cons, ← hpacker]
    exact ih hcounted

theorem Counted.wakeUp {b : Batcher ρ} (h : b.Counted encodedLen) (requests : List (Req ρ)) :
    (b.wakeUp encodedLen requests).packer =
      b.packer.round maxGrpcMessageLen encodedLen requests := by
  rw [Batcher.wakeUp, packer_finish, (h.foldl_add requests).2]
  rfl

end Batcher

variable (encodedLen) in
theorem counted_dispatchWakeUps (wakeUps : List (List (Req ρ))) :
    (dispatchWakeUps encodedLen wakeUps).Counted encodedLen := by
  cases wakeUps using List.reverseRecOn with
  | nil => rfl
  | append_singleton wakeUps requests =>
    rw [dispatchWakeUps, List.foldl_append]
    exact Batcher.counted_finish _

variable (encodedLen) in
/-- **The dispatch loop packs greedily.** -/
theorem packer_dispatchWakeUps (wakeUps : List (List (Req ρ))) :
    (dispatchWakeUps encodedLen wakeUps).packer =
      Packer.empty.rounds maxGrpcMessageLen encodedLen wakeUps := by
  induction wakeUps using List.reverseRecOn with
  | nil => rfl
  | append_singleton wakeUps requests ih =>
    have hcounted := counted_dispatchWakeUps encodedLen wakeUps
    rw [dispatchWakeUps, List.foldl_append]
    show (Batcher.wakeUp encodedLen (dispatchWakeUps encodedLen wakeUps) requests).packer = _
    rw [hcounted.wakeUp, ih, Packer.rounds, Packer.rounds, List.foldl_append]
    rfl

end Loop

/-! ## The dispatch loop of a transaction -/

/-- The request buffer of a transaction, and the messages handed to gRPC. -/
def State.batcher (s : State ρ π α) : Batcher ρ := ⟨s.requestBuffer, s.handed⟩

section Reaches

variable {decode : π → Decode Error α} {encodedLen : Req ρ → ℕ} {s t : State ρ π α}

/-- The messages are those of some wake-ups, after the last of which some requests were taken. -/
structure State.Dispatched (encodedLen : Req ρ → ℕ) (s : State ρ π α)
    (wakeUps : List (List (Req ρ))) (taken : List (Req ρ)) : Prop where
  batcher : s.batcher = taken.foldl (Batcher.add encodedLen) (dispatchWakeUps encodedLen wakeUps)
  top : s.dispatch = .top → taken = []

theorem dispatchLoop_dispatched {wakeUps : List (List (Req ρ))} {taken : List (Req ρ)}
    {generated : RequestID} (hs : s.Dispatched encodedLen wakeUps taken)
    (h : s.dispatchLoop encodedLen generated = some t) :
    ∃ wakeUps taken, t.Dispatched encodedLen wakeUps taken := by
  have hwakeUp : ∀ requests, dispatchWakeUps encodedLen (wakeUps ++ [requests]) =
      (requests.foldl (Batcher.add encodedLen) (dispatchWakeUps encodedLen wakeUps)).finish := by
    intro requests
    rw [dispatchWakeUps, List.foldl_append]
    rfl
  have hfinish : (⟨.empty, s.handed ++ s.requestBuffer.flush⟩ : Batcher ρ) =
      dispatchWakeUps encodedLen (wakeUps ++ [taken]) := by
    rw [hwakeUp, ← hs.batcher]
    rfl
  unfold State.dispatchLoop at h
  split at h
  next hphase =>
    split_ifs at h
    · obtain rfl := Option.some.inj h
      exact ⟨wakeUps, taken, hs.batcher, nofun⟩
    · obtain rfl := Option.some.inj h
      exact ⟨wakeUps ++ [taken], [], hfinish, nofun⟩
  next =>
    split at h
    · obtain rfl := Option.some.inj h
      exact ⟨wakeUps ++ [taken], [], hfinish, fun _ => rfl⟩
    · obtain rfl := Option.some.inj h
      exact ⟨wakeUps, taken, hs.batcher, nofun⟩
    · dsimp only at h
      split_ifs at h
      · obtain rfl := Option.some.inj h
        exact ⟨wakeUps, taken, hs.batcher, nofun⟩
      · obtain rfl := Option.some.inj h
        exact ⟨wakeUps, taken, hs.batcher, nofun⟩
  next request hphase =>
    have hadd : s.batcher.add encodedLen request =
        (taken ++ [request]).foldl (Batcher.add encodedLen) (dispatchWakeUps encodedLen wakeUps) := by
      rw [List.foldl_append, ← hs.batcher]
      rfl
    split_ifs at h with hlong
    · obtain rfl := Option.some.inj h
      refine ⟨wakeUps, taken ++ [request], ?_, nofun⟩
      rw [← hadd, Batcher.add]
      exact (if_pos hlong).symm
    · obtain rfl := Option.some.inj h
      refine ⟨wakeUps, taken ++ [request], ?_, nofun⟩
      rw [← hadd, Batcher.add]
      exact (if_neg hlong).symm
  next => cases h

theorem State.Dispatched.step {a : Action ρ π} {wakeUps : List (List (Req ρ))} {taken : List (Req ρ)}
    (hs : s.Dispatched encodedLen wakeUps taken) (h : step decode encodedLen s a = some t) :
    ∃ wakeUps taken, t.Dispatched encodedLen wakeUps taken := by
  cases a with
  | dispatch generated => exact dispatchLoop_dispatched hs h
  | call request =>
    obtain ⟨_, _, _, rfl⟩ := State.call_frame h
    exact ⟨wakeUps, taken, hs.batcher, hs.top⟩
  | submit index =>
    obtain ⟨_, _, _, _, rfl⟩ := State.submit_frame h
    exact ⟨wakeUps, taken, hs.batcher, hs.top⟩
  | read call =>
    obtain ⟨_, _, rfl⟩ := State.read_frame h
    exact ⟨wakeUps, taken, hs.batcher, hs.top⟩
  | server event =>
    obtain ⟨_, _, _, rfl⟩ := State.serverSend_frame h
    exact ⟨wakeUps, taken, hs.batcher, hs.top⟩
  | arrive =>
    obtain ⟨_, rfl⟩ := State.arrive_frame h
    exact ⟨wakeUps, taken, hs.batcher, hs.top⟩
  | listen =>
    obtain ⟨_, _, _, _, _, _, _, _, _, _, rfl⟩ := State.listenLoop_frame h
    exact ⟨wakeUps, taken, hs.batcher, hs.top⟩
  | resolve registration =>
    obtain ⟨_, rfl⟩ := State.resolveOnClose_frame h
    exact ⟨wakeUps, taken, hs.batcher, hs.top⟩
  | close =>
    obtain ⟨_, _, _, _, _, _, _, rfl⟩ := State.closeLoop_frame h
    exact ⟨wakeUps, taken, hs.batcher, hs.top⟩
  | drop =>
    obtain ⟨_, _, rfl⟩ := State.drop_frame h
    exact ⟨wakeUps, taken, hs.batcher, hs.top⟩
  | shutDownRuntime =>
    obtain ⟨_, rfl⟩ := State.shutDownRuntime_frame h
    exact ⟨wakeUps, taken, hs.batcher, hs.top⟩
  | runCallback =>
    obtain ⟨_, _, rfl⟩ := State.runCallback_frame h
    exact ⟨wakeUps, taken, hs.batcher, hs.top⟩
  | onClose =>
    simp only [Transaction.step] at h
    split_ifs at h
    obtain rfl := Option.some.inj h
    exact ⟨wakeUps, taken, hs.batcher, hs.top⟩
  | signalShutdown | closeRuntime | handlerDies =>
    obtain rfl := Option.some.inj h
    exact ⟨wakeUps, taken, hs.batcher, hs.top⟩

/-- **In every run the messages handed to gRPC are those of some wake-ups.** -/
theorem batcher_of_reaches {C : State ρ π α → Action ρ π → Prop}
    (hs : (transaction decode encodedLen).Reaches C s) :
    ∃ wakeUps taken, s.Dispatched encodedLen wakeUps taken := by
  refine Transition.Reaches.invariant (fun s => ∃ wakeUps taken,
    State.Dispatched encodedLen s wakeUps taken) ?_ ?_ hs
  · rintro s rfl
    exact ⟨[], [], rfl, fun _ => rfl⟩
  · rintro s a t ⟨wakeUps, taken, hs⟩ - h
    exact hs.step h

end Reaches

/-! ## Lossless and bounded -/

/-- What arrived is handed over, in messages that are neither empty nor too long. -/
structure Batched (encodedLen : Req ρ → ℕ) (wakeUps handed : List (List (Req ρ))) : Prop where
  lossless : handed.flatten = wakeUps.flatten
  nonempty : ∀ message ∈ handed, message ≠ []
  bounded : ∀ message ∈ handed,
    (message.map encodedLen).sum ≤ maxGrpcMessageLen ∨ ∃ request, message = [request]

/-- **What arrived is handed over, in messages that are neither empty nor too long, just when no
wake-up starts with a request that is too long.** -/
theorem batched_iff (encodedLen : Req ρ → ℕ) (wakeUps : List (List (Req ρ))) :
    Batched encodedLen wakeUps (dispatchWakeUps encodedLen wakeUps).handed ↔
      ∀ requests ∈ wakeUps, ∀ request ∈ requests.head?,
        encodedLen request ≤ maxGrpcMessageLen := by
  have hpacker := packer_dispatchWakeUps encodedLen wakeUps
  have hhanded : (dispatchWakeUps encodedLen wakeUps).handed =
      (Packer.empty.rounds maxGrpcMessageLen encodedLen wakeUps).packed :=
    congrArg Packer.packed hpacker
  rw [hhanded]
  have hnil := Packer.nil_mem_rounds maxGrpcMessageLen encodedLen
    (show Packer.empty.batch = [] from rfl) wakeUps
  constructor
  · intro h requests hrequests request hrequest
    by_contra hlong
    have hmem := hnil.mpr (.inr ⟨requests, hrequests, request, hrequest, Nat.lt_of_not_le hlong⟩)
    exact h.nonempty [] hmem rfl
  · intro h
    refine ⟨?_, ?_, fun message hmessage => ?_⟩
    · have hcontents := Packer.contents_rounds maxGrpcMessageLen encodedLen wakeUps
        Packer.empty
      rw [Packer.contents, Packer.batch_rounds _ _ rfl, List.append_nil] at hcontents
      exact hcontents
    · rintro message hmessage rfl
      rcases hnil.mp hmessage with hmem | ⟨requests, hrequests, request, hrequest, hlong⟩
      · cases hmem
      · exact absurd (h requests hrequests request hrequest) (Nat.not_le_of_lt hlong)
    · have hfits : Packer.empty.AllFit maxGrpcMessageLen encodedLen :=
        ⟨.inl (Nat.zero_le _), fun _ hmem => absurd hmem List.not_mem_nil⟩
      rcases (Packer.fits_rounds hfits wakeUps).2 message hmessage with hsum | hlength
      · exact .inl hsum
      · cases message with
        | nil => exact .inl (Nat.zero_le _)
        | cons request rest =>
          have hrest : rest.length = 0 := Nat.le_zero.mp (Nat.le_of_succ_le_succ hlength)
          obtain rfl := List.length_eq_zero_iff.mp hrest
          exact .inr ⟨request, rfl⟩

/-- A request that is longer than a message may be, in an empty buffer. -/
theorem not_batched :
    ¬∀ (encodedLen : Req ℕ → ℕ) (wakeUps : List (List (Req ℕ))),
      Batched encodedLen wakeUps (dispatchWakeUps encodedLen wakeUps).handed := by
  intro h
  have hnonempty := (h (fun _ => 1000001) [[⟨⟨[0]⟩, .queryReq 0⟩]]).nonempty
  exact hnonempty [] (by decide) rfl

end TypeDBDriver.Transaction
