import Mathlib.Tactic.Common

/-!
# Readers that split a byte sequence as they like

A `Reader` holds the bytes still to come and a plan: how many bytes, at most, each of the next
reads hands out, or that it fails. A read that does not fail returns at least one byte unless
nothing is left or nothing was asked for, and never more than was asked for; every such
behaviour is the behaviour of some plan.

* `Reader.read`, and what one read does: `read_eq_some`.
* `Reader.Faultless`: no read fails.
-/

namespace ChunkedReader

/-- What one read does: hand out at most this many bytes, or fail. -/
inductive Cut
  | atMost (n : ℕ)
  | fail
  deriving DecidableEq

structure Reader where
  /-- the bytes still to come -/
  rest : List UInt8
  /-- what the next reads do -/
  plan : ℕ → Cut

namespace Reader

/-- The length of a read of at most `asked` bytes where the plan allows `k` of them. -/
def readLen (k asked available : ℕ) : ℕ := min (max k 1) (min asked available)

/-- One read of at most `asked` bytes; `none` when it fails. -/
def read (r : Reader) (asked : ℕ) : Option (List UInt8) × Reader :=
  let plan := fun i => r.plan (i + 1)
  match r.plan 0 with
  | .fail => (none, { r with plan })
  | .atMost k =>
    let n := readLen k asked r.rest.length
    (some (r.rest.take n), { rest := r.rest.drop n, plan })

/-- No read fails. -/
def Faultless (r : Reader) : Prop := ∀ i, r.plan i ≠ .fail

theorem readLen_eq_zero_iff {k asked available : ℕ} :
    readLen k asked available = 0 ↔ asked = 0 ∨ available = 0 := by
  unfold readLen; omega

theorem readLen_le (k asked available : ℕ) :
    readLen k asked available ≤ asked ∧ readLen k asked available ≤ available := by
  unfold readLen; omega

/-- A read that does not fail takes a prefix off the bytes to come, empty only when nothing was
asked for or nothing is left. -/
theorem read_eq_some {r r' : Reader} {asked : ℕ} {bs : List UInt8}
    (h : r.read asked = (some bs, r')) :
    bs ++ r'.rest = r.rest ∧ bs.length ≤ asked ∧ (bs = [] → asked = 0 ∨ r.rest = []) := by
  unfold read at h
  cases hp : r.plan 0 with
  | fail => simp [hp] at h
  | atMost k =>
    simp only [hp, Prod.mk.injEq, Option.some.injEq] at h
    obtain ⟨rfl, rfl⟩ := h
    have hle := readLen_le k asked r.rest.length
    refine ⟨List.take_append_drop _ _, ?_, fun h0 => ?_⟩
    · rw [List.length_take]; omega
    · have hlen := congrArg List.length h0
      rw [List.length_take, List.length_nil] at hlen
      have h0 : readLen k asked r.rest.length = 0 := by omega
      exact (readLen_eq_zero_iff.mp h0).imp_right List.eq_nil_of_length_eq_zero

theorem Faultless.read {r : Reader} (hr : r.Faultless) (asked : ℕ) :
    ∃ bs, (r.read asked).1 = some bs ∧ (r.read asked).2.Faultless := by
  unfold Reader.read
  cases hp : r.plan 0 with
  | fail => exact absurd hp (hr 0)
  | atMost k => exact ⟨_, rfl, fun i => hr (i + 1)⟩

end Reader

end ChunkedReader
