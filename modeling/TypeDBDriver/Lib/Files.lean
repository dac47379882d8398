import Mathlib.Data.List.Induction
import Mathlib.Logic.Function.Basic
import Mathlib.Tactic.Common

/-!
# Files that are written through handles

* `FileSystem`, `createNew`, `openExisting`, `removeFile`: files by their keys.
* `Handle`, `BufWriter`: writing at a position, directly or through a buffer.
* `overlay new old`: what `new` makes of a file that held `old` and was not truncated.
* **`Handle.Wrote.writeAll`**, **`BufWriter.Wrote.flush`**: the content after what was written is
  its overlay.
* **`contentAfter_concat_eq_iff`**: after several writers only the last one's bytes remain exactly
  when no earlier one wrote more.
-/

namespace Files

/-- The content of every file that exists. -/
abbrev FileSystem (κ : Type*) : Type _ := κ → Option (List UInt8)

/-- `new` written from the start over `old`. -/
def overlay (new old : List UInt8) : List UInt8 := new ++ old.drop new.length

theorem overlay_eq_left_iff {new old : List UInt8} :
    overlay new old = new ↔ old.length ≤ new.length := by
  rw [overlay, List.append_right_eq_self, List.drop_eq_nil_iff]

theorem length_overlay (new old : List UInt8) :
    (overlay new old).length = max new.length old.length := by
  rw [overlay, List.length_append, List.length_drop]
  omega

/-- The content of a new file after several writers, each of them from the start. -/
def contentAfter (ws : List (List UInt8)) : List UInt8 := ws.foldl (fun old new => overlay new old) []

theorem contentAfter_concat (ws : List (List UInt8)) (w : List UInt8) :
    contentAfter (ws ++ [w]) = overlay w (contentAfter ws) := by
  rw [contentAfter, List.foldl_append]
  rfl

theorem length_contentAfter_le_iff {ws : List (List UInt8)} {n : ℕ} :
    (contentAfter ws).length ≤ n ↔ ∀ w ∈ ws, w.length ≤ n := by
  induction ws using List.reverseRecOn with
  | nil => simp [contentAfter]
  | append_singleton ws w ih =>
    rw [contentAfter_concat, length_overlay, Nat.max_le, ih]
    simp only [List.mem_append, List.mem_singleton, or_imp, forall_and, forall_eq]
    exact and_comm

/-- **Only the last writer's bytes remain exactly when no earlier one wrote more.** -/
theorem contentAfter_concat_eq_iff {ws : List (List UInt8)} {w : List UInt8} :
    contentAfter (ws ++ [w]) = w ↔ ∀ x ∈ ws, x.length ≤ w.length := by
  rw [contentAfter_concat, overlay_eq_left_iff, length_contentAfter_le_iff]

/-- `bs` written into `content` at a position. -/
def writeAt (position : ℕ) (bs content : List UInt8) : List UInt8 :=
  content.take position ++ bs ++ content.drop (position + bs.length)

/-- Writing on after `written` makes a longer overlay. -/
theorem writeAt_overlay (written bs old : List UInt8) :
    writeAt written.length bs (overlay written old) = overlay (written ++ bs) old := by
  unfold writeAt overlay
  rw [List.take_left, List.length_append, Nat.add_comm written.length, List.drop_append,
    List.drop_eq_nil_of_le (Nat.le_add_left _ _), List.nil_append, List.drop_drop]
  congr 2
  omega

variable {κ : Type*} [DecidableEq κ]

/-- Create a file that must not exist. -/
def createNew (k : κ) (fs : FileSystem κ) : Option (FileSystem κ) :=
  if fs k = none then some (Function.update fs k (some [])) else none

def removeFile (k : κ) (fs : FileSystem κ) : FileSystem κ := Function.update fs k none

/-- An open file and the position of the next write. -/
structure Handle (κ : Type*) where
  file : κ
  position : ℕ

/-- Open a file that exists, for writing from its start; its content stays. -/
def openExisting (k : κ) (fs : FileSystem κ) : Option (Handle κ) :=
  (fs k).map fun _ => ⟨k, 0⟩

namespace Handle

def writeAll (h : Handle κ) (bs : List UInt8) (fs : FileSystem κ) : Handle κ × FileSystem κ :=
  (⟨h.file, h.position + bs.length⟩,
    Function.update fs h.file ((fs h.file).map (writeAt h.position bs)))

/-- `written` was written through the handle over `old`. -/
structure Wrote (h : Handle κ) (fs : FileSystem κ) (written old : List UInt8) : Prop where
  position : h.position = written.length
  content : fs h.file = some (overlay written old)

omit [DecidableEq κ] in
theorem wrote_openExisting {k : κ} {fs : FileSystem κ} {old : List UInt8} (h : fs k = some old) :
    Wrote ⟨k, 0⟩ fs [] old := ⟨rfl, h⟩

theorem Wrote.writeAll {h : Handle κ} {fs : FileSystem κ} {written old : List UInt8}
    (hw : h.Wrote fs written old) (bs : List UInt8) :
    (h.writeAll bs fs).1.Wrote (h.writeAll bs fs).2 (written ++ bs) old where
  position := by
    rw [List.length_append, ← hw.position]
    rfl
  content := by
    have hupd := Function.update_self h.file ((fs h.file).map (writeAt h.position bs)) fs
    rw [hw.content, Option.map_some, hw.position, writeAt_overlay] at hupd
    rw [Handle.writeAll, hw.content, Option.map_some, hw.position, writeAt_overlay]
    exact hupd

theorem writeAll_of_ne (h : Handle κ) (bs : List UInt8) (fs : FileSystem κ) {k : κ}
    (hk : k ≠ h.file) : (h.writeAll bs fs).2 k = fs k :=
  Function.update_of_ne hk _ _

end Handle

/-- A handle with a buffer of what is yet to be written to it. -/
structure BufWriter (κ : Type*) where
  inner : Handle κ
  buffer : List UInt8

namespace BufWriter

def capacity : ℕ := 8 * 1024

def new (inner : Handle κ) : BufWriter κ := ⟨inner, []⟩

def flush (w : BufWriter κ) (fs : FileSystem κ) : BufWriter κ × FileSystem κ :=
  let (inner, fs) := w.inner.writeAll w.buffer fs
  (⟨inner, []⟩, fs)

/-- Make room for `n` bytes. -/
def flushFor (w : BufWriter κ) (n : ℕ) (fs : FileSystem κ) : BufWriter κ × FileSystem κ :=
  if capacity - w.buffer.length < n then w.flush fs else (w, fs)

/-- Buffer what fits into an empty buffer, and write the rest directly. -/
def put (w : BufWriter κ) (bs : List UInt8) (fs : FileSystem κ) : BufWriter κ × FileSystem κ :=
  if capacity ≤ bs.length then
    (⟨(w.inner.writeAll bs fs).1, w.buffer⟩, (w.inner.writeAll bs fs).2)
  else (⟨w.inner, w.buffer ++ bs⟩, fs)

def writeAll (w : BufWriter κ) (bs : List UInt8) (fs : FileSystem κ) :
    BufWriter κ × FileSystem κ :=
  if bs.length < capacity - w.buffer.length then (⟨w.inner, w.buffer ++ bs⟩, fs)
  else (w.flushFor bs.length fs).1.put bs (w.flushFor bs.length fs).2

/-- `written` was written through the writer over `old`, the buffered part yet to come. -/
def Wrote (w : BufWriter κ) (fs : FileSystem κ) (written old : List UInt8) : Prop :=
  ∃ flushed, flushed ++ w.buffer = written ∧ w.inner.Wrote fs flushed old

variable {w : BufWriter κ} {fs : FileSystem κ} {written old : List UInt8}

theorem Wrote.flush (hw : w.Wrote fs written old) :
    (w.flush fs).1.inner.Wrote (w.flush fs).2 written old ∧ (w.flush fs).1.buffer = [] := by
  obtain ⟨flushed, rfl, hw⟩ := hw
  exact ⟨hw.writeAll w.buffer, rfl⟩

/-- Room is made unless what comes is as long as the buffer and that is empty. -/
theorem Wrote.flushFor (hw : w.Wrote fs written old) (n : ℕ) :
    (w.flushFor n fs).1.Wrote (w.flushFor n fs).2 written old ∧
      (capacity ≤ n → (w.flushFor n fs).1.buffer = []) := by
  obtain ⟨hflush, hnil⟩ := hw.flush
  unfold BufWriter.flushFor
  split_ifs with hn
  · exact ⟨⟨written, by rw [hnil, List.append_nil], hflush⟩, fun _ => hnil⟩
  · refine ⟨hw, fun hcap => ?_⟩
    have hlen : w.buffer.length = 0 := by unfold capacity at *; omega
    exact List.eq_nil_of_length_eq_zero hlen

theorem Wrote.put (hw : w.Wrote fs written old) {bs : List UInt8}
    (hempty : capacity ≤ bs.length → w.buffer = []) :
    (w.put bs fs).1.Wrote (w.put bs fs).2 (written ++ bs) old := by
  obtain ⟨flushed, rfl, hw⟩ := hw
  unfold BufWriter.put
  split_ifs with hdirect
  · rw [hempty hdirect, List.append_nil]
    exact ⟨flushed ++ bs, List.append_nil _, hw.writeAll bs⟩
  · exact ⟨flushed, (List.append_assoc _ _ _).symm, hw⟩

theorem Wrote.writeAll (hw : w.Wrote fs written old) (bs : List UInt8) :
    (w.writeAll bs fs).1.Wrote (w.writeAll bs fs).2 (written ++ bs) old := by
  obtain ⟨hroom, hempty⟩ := hw.flushFor bs.length
  unfold BufWriter.writeAll
  split_ifs
  · obtain ⟨flushed, rfl, hw⟩ := hw
    exact ⟨flushed, (List.append_assoc _ _ _).symm, hw⟩
  · exact hroom.put hempty

theorem flush_of_ne (w : BufWriter κ) (fs : FileSystem κ) {k : κ} (hk : k ≠ w.inner.file) :
    (w.flush fs).2 k = fs k :=
  w.inner.writeAll_of_ne w.buffer fs hk

/-- Writing goes on to the same file, and to no other. -/
theorem writeAll_frame (w : BufWriter κ) (bs : List UInt8) (fs : FileSystem κ) :
    (w.writeAll bs fs).1.inner.file = w.inner.file ∧
      ∀ k ≠ w.inner.file, (w.writeAll bs fs).2 k = fs k := by
  have hroom : (w.flushFor bs.length fs).1.inner.file = w.inner.file ∧
      ∀ k ≠ w.inner.file, (w.flushFor bs.length fs).2 k = fs k := by
    unfold flushFor
    split_ifs
    · exact ⟨rfl, fun k hk => w.flush_of_ne fs hk⟩
    · exact ⟨rfl, fun k _ => rfl⟩
  unfold writeAll put
  split_ifs
  · exact ⟨rfl, fun k _ => rfl⟩
  · refine ⟨hroom.1, fun k hk => (Handle.writeAll_of_ne _ bs _ ?_).trans (hroom.2 k hk)⟩
    rw [hroom.1]
    exact hk
  · exact hroom

end BufWriter

end Files
