import Mathlib.Tactic.Common
import Mathlib.Data.List.Basic

/-!
# Conversations in a shared stream

Many conversations share one stream of messages: `key` tells to which of them a message belongs, if
to any, and `last` which messages end the conversation that they belong to.

* `upTo`: a list up to its first element with a property.
* `conversation`: what a stream holds of one conversation; `Complete`: the conversation has ended.
* **`conversation_append_open`**, **`conversation_append_complete`**,
  **`conversation_append_other`**: what one more message adds.
-/

namespace Conversation

variable {β κ : Type*}

/-- A list up to its first element with `last`, which is included. -/
def upTo (last : β → Bool) : List β → List β
  | [] => []
  | x :: xs => if last x then [x] else x :: upTo last xs

section UpTo

variable {last : β → Bool}

theorem upTo_eq_self {l : List β} (h : ∀ x ∈ l, last x = false) : upTo last l = l := by
  induction l with
  | nil => rfl
  | cons x xs ih =>
    rw [upTo, h x (List.mem_cons_self ..), ih fun y hy => h y (List.mem_cons_of_mem _ hy)]
    rfl

theorem upTo_append {l : List β} (h : ∃ x ∈ l, last x = true) (l' : List β) :
    upTo last (l ++ l') = upTo last l := by
  induction l with
  | nil => simp at h
  | cons x xs ih =>
    rw [List.cons_append, upTo, upTo]
    by_cases hx : last x = true
    · rw [if_pos hx, if_pos hx]
    · obtain ⟨y, hy, hlast⟩ := h
      obtain rfl | hy := List.mem_cons.mp hy
      · exact absurd hlast hx
      · rw [if_neg hx, if_neg hx, ih ⟨y, hy, hlast⟩]

theorem upTo_append_singleton {l : List β} (h : ∀ x ∈ l, last x = false) (x : β) :
    upTo last (l ++ [x]) = l ++ [x] := by
  induction l with
  | nil =>
    rw [List.nil_append, upTo]
    split_ifs <;> rfl
  | cons y ys ih =>
    rw [List.cons_append, upTo, h y (List.mem_cons_self ..),
      ih fun z hz => h z (List.mem_cons_of_mem _ hz)]
    rfl

end UpTo

variable [DecidableEq κ] (key : β → Option κ) (last : β → Bool) (k : κ)

/-- What a stream holds of the conversation `k`, up to the message that ends it. -/
def conversation (l : List β) : List β := upTo last (l.filter fun x => key x = some k)

/-- The stream holds a message that ends the conversation `k`. -/
def Complete (l : List β) : Prop := ∃ x ∈ l, key x = some k ∧ last x = true

variable {key last k}

instance (l : List β) : Decidable (Complete key last k l) :=
  inferInstanceAs (Decidable (∃ x ∈ l, key x = some k ∧ last x = true))

omit [DecidableEq κ] in
theorem complete_append {l l' : List β} :
    Complete key last k (l ++ l') ↔ Complete key last k l ∨ Complete key last k l' := by
  simp only [Complete, List.mem_append, or_and_right, exists_or]

omit [DecidableEq κ] in
theorem complete_singleton {x : β} :
    Complete key last k [x] ↔ key x = some k ∧ last x = true := by
  simp only [Complete, List.mem_singleton, exists_eq_left]

theorem not_last_of_mem_filter {l : List β} (h : ¬ Complete key last k l) :
    ∀ x ∈ l.filter fun x => key x = some k, last x = false := by
  intro x hx
  obtain ⟨hx, hkey⟩ := List.mem_filter.mp hx
  by_contra hlast
  exact h ⟨x, hx, of_decide_eq_true hkey, Bool.of_not_eq_false hlast⟩

theorem conversation_append_other {x : β} (h : key x ≠ some k) (l : List β) :
    conversation key last k (l ++ [x]) = conversation key last k l := by
  rw [conversation, List.filter_append, List.filter_singleton, decide_eq_false h, cond_false,
    List.append_nil, conversation]

/-- **An open conversation** takes in the next message that belongs to it. -/
theorem conversation_append_open {l : List β} {x : β} (h : key x = some k)
    (ho : ¬ Complete key last k l) :
    conversation key last k (l ++ [x]) = conversation key last k l ++ [x] := by
  have hl := not_last_of_mem_filter ho
  rw [conversation, List.filter_append, List.filter_singleton, decide_eq_true h, cond_true,
    upTo_append_singleton hl, conversation, upTo_eq_self hl]

/-- **A conversation that has ended** takes in no more. -/
theorem conversation_append_complete {l : List β} (h : Complete key last k l) (l' : List β) :
    conversation key last k (l ++ l') = conversation key last k l := by
  obtain ⟨x, hx, hkey, hlast⟩ := h
  rw [conversation, List.filter_append, conversation]
  exact upTo_append ⟨x, List.mem_filter.mpr ⟨hx, decide_eq_true hkey⟩, hlast⟩ _

/-- A conversation of which a stream holds no message. -/
theorem conversation_eq_nil {l : List β} (h : ∀ x ∈ l, key x ≠ some k) :
    conversation key last k l = [] := by
  rw [conversation, List.filter_eq_nil_iff.mpr fun x hx => by simpa using h x hx]
  rfl

omit [DecidableEq κ] in
theorem not_complete_of_forall {l : List β} (h : ∀ x ∈ l, key x ≠ some k) :
    ¬ Complete key last k l := fun ⟨x, hx, hkey, _⟩ => h x hx hkey

/-- A conversation all of whose messages end it has at most one. -/
theorem length_conversation_le_one {l : List β} (h : ∀ x ∈ l, key x = some k → last x = true) :
    (conversation key last k l).length ≤ 1 := by
  have hl : ∀ x ∈ l.filter fun x => key x = some k, last x = true := fun x hx =>
    h x (List.mem_filter.mp hx).1 (of_decide_eq_true (List.mem_filter.mp hx).2)
  rw [conversation]
  cases hf : l.filter fun x => key x = some k with
  | nil => exact Nat.zero_le 1
  | cons x xs =>
    rw [upTo, hl x (hf ▸ List.mem_cons_self ..)]
    exact Nat.le_refl 1

end Conversation
