import Mathlib.Algebra.BigOperators.Group.List.Basic
import Mathlib.Algebra.Order.Ring.Nat

/-!
# Greedy packing

Items are packed into batches of a limited weight, in the order in which they come. A batch is
closed when the next item does not fit, and at the end of every round.

* `Packer`, `Packer.push`, `Packer.flush`, `Packer.round`, `Packer.rounds`: the open batch and the
  closed ones.
* **`contents_rounds`**: nothing is lost, repeated or reordered.
* **`fits_rounds`**: a batch keeps to the limit or has a single item.
* **`nil_mem_rounds`**: an empty batch is closed just when a round starts with an item that does not
  fit alone.
-/

/-- The open batch and the closed ones. -/
structure Packer (α : Type*) where
  batch : List α
  packed : List (List α)

namespace Packer

variable {α : Type*} (limit : ℕ) (weight : α → ℕ)

def empty : Packer α := ⟨[], []⟩

def push (p : Packer α) (a : α) : Packer α :=
  if limit < (p.batch.map weight).sum + weight a then ⟨[a], p.packed ++ [p.batch]⟩
  else ⟨p.batch ++ [a], p.packed⟩

/-- Close the open batch unless it is empty. -/
def flush (p : Packer α) : Packer α :=
  ⟨[], p.packed ++ if p.batch = [] then [] else [p.batch]⟩

def round (p : Packer α) (items : List α) : Packer α :=
  (items.foldl (push limit weight) p).flush

def rounds (p : Packer α) (itemss : List (List α)) : Packer α :=
  itemss.foldl (round limit weight) p

/-- The items so far, in order. -/
def contents (p : Packer α) : List α := p.packed.flatten ++ p.batch

/-- A batch that keeps to the limit, or has at most one item. -/
def Fits (batch : List α) : Prop := (batch.map weight).sum ≤ limit ∨ batch.length ≤ 1

/-- All batches fit. -/
def AllFit (p : Packer α) : Prop :=
  Fits limit weight p.batch ∧ ∀ batch ∈ p.packed, Fits limit weight batch

variable {limit weight}

theorem contents_push (p : Packer α) (a : α) :
    (p.push limit weight a).contents = p.contents ++ [a] := by
  unfold push
  split <;> simp [contents]

@[simp] theorem contents_flush (p : Packer α) : p.flush.contents = p.contents := by
  unfold flush
  split <;> simp_all [contents]

theorem contents_foldl (items : List α) (p : Packer α) :
    (items.foldl (push limit weight) p).contents = p.contents ++ items := by
  induction items generalizing p with
  | nil => simp
  | cons a items ih => simp [ih, contents_push]

variable (limit weight) in
/-- **Nothing is lost, repeated or reordered.** -/
theorem contents_rounds (itemss : List (List α)) (p : Packer α) :
    (p.rounds limit weight itemss).contents = p.contents ++ itemss.flatten := by
  induction itemss generalizing p with
  | nil => simp [rounds]
  | cons items itemss ih =>
    show ((p.round limit weight items).rounds limit weight itemss).contents = _
    rw [ih, round, contents_flush, contents_foldl, List.flatten_cons, List.append_assoc]

variable (limit weight) in
theorem batch_rounds {p : Packer α} (h : p.batch = []) (itemss : List (List α)) :
    (p.rounds limit weight itemss).batch = [] := by
  induction itemss generalizing p with
  | nil => exact h
  | cons items itemss ih => exact ih rfl

theorem AllFit.push {p : Packer α} (h : p.AllFit limit weight) (a : α) :
    (p.push limit weight a).AllFit limit weight := by
  unfold Packer.push
  split
  case isTrue =>
    refine ⟨.inr (Nat.le_refl 1), fun batch hbatch => ?_⟩
    rcases List.mem_append.mp hbatch with hbatch | hbatch
    · exact h.2 batch hbatch
    · rw [List.mem_singleton.mp hbatch]
      exact h.1
  case isFalse hle =>
    refine ⟨.inl ?_, h.2⟩
    simpa using hle

theorem AllFit.flush {p : Packer α} (h : p.AllFit limit weight) :
    p.flush.AllFit limit weight := by
  refine ⟨.inr (Nat.zero_le 1), fun batch hbatch => ?_⟩
  rcases List.mem_append.mp hbatch with hbatch | hbatch
  · exact h.2 batch hbatch
  · split at hbatch
    · cases hbatch
    · rw [List.mem_singleton.mp hbatch]
      exact h.1

/-- **A batch keeps to the limit or has a single item.** -/
theorem fits_rounds {p : Packer α} (h : p.AllFit limit weight) (itemss : List (List α)) :
    (p.rounds limit weight itemss).AllFit limit weight := by
  have hfold : ∀ (items : List α) {q : Packer α}, q.AllFit limit weight →
      (items.foldl (Packer.push limit weight) q).AllFit limit weight := by
    intro items
    induction items with
    | nil => exact id
    | cons a items ih => exact fun hq => ih (hq.push a)
  induction itemss generalizing p with
  | nil => exact h
  | cons items itemss ih => exact ih (hfold items h).flush

/-! ## Empty batches -/

/-- An empty batch is closed by the first item of an empty batch that does not fit. -/
theorem nil_mem_push (p : Packer α) (a : α) :
    [] ∈ (p.push limit weight a).packed ↔ [] ∈ p.packed ∨ p.batch = [] ∧ limit < weight a := by
  unfold push
  split
  case isTrue hlt =>
    rw [List.mem_append, List.mem_singleton]
    constructor
    · rintro (h | h)
      · exact .inl h
      · rw [← h] at hlt
        exact .inr ⟨h.symm, by simpa using hlt⟩
    · rintro (h | ⟨h, -⟩)
      · exact .inl h
      · exact .inr h.symm
  case isFalse hle =>
    refine ⟨.inl, ?_⟩
    rintro (h | ⟨h, hlt⟩)
    · exact h
    · rw [h] at hle
      exact absurd (by simpa using hlt) hle

theorem batch_push_ne_nil (p : Packer α) (a : α) : (p.push limit weight a).batch ≠ [] := by
  unfold push
  split <;> simp

theorem nil_mem_foldl {p : Packer α} (h : p.batch ≠ []) (items : List α) :
    [] ∈ (items.foldl (push limit weight) p).packed ↔ [] ∈ p.packed := by
  induction items generalizing p with
  | nil => exact Iff.rfl
  | cons a items ih =>
    rw [List.foldl_cons, ih (batch_push_ne_nil p a), nil_mem_push]
    simp [h]

theorem nil_mem_flush (p : Packer α) : [] ∈ p.flush.packed ↔ [] ∈ p.packed := by
  unfold flush
  split
  · simp
  · simp_all

theorem nil_mem_round {p : Packer α} (h : p.batch = []) (items : List α) :
    [] ∈ (p.round limit weight items).packed ↔
      [] ∈ p.packed ∨ ∃ a ∈ items.head?, limit < weight a := by
  rw [round, nil_mem_flush]
  cases items with
  | nil => simp
  | cons a items =>
    rw [List.foldl_cons, nil_mem_foldl (batch_push_ne_nil p a), nil_mem_push]
    simp [h]

variable (limit weight) in
/-- **An empty batch is closed just when a round starts with an item that does not fit alone.** -/
theorem nil_mem_rounds {p : Packer α} (h : p.batch = []) (itemss : List (List α)) :
    [] ∈ (p.rounds limit weight itemss).packed ↔
      [] ∈ p.packed ∨ ∃ items ∈ itemss, ∃ a ∈ items.head?, limit < weight a := by
  induction itemss generalizing p with
  | nil => simp [rounds]
  | cons items itemss ih =>
    show [] ∈ ((p.round limit weight items).rounds limit weight itemss).packed ↔ _
    rw [ih rfl, nil_mem_round h, List.exists_mem_cons_iff, or_assoc]

end Packer
