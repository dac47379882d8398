import Mathlib.Data.Nat.Notation
import Mathlib.Logic.Function.Basic

/-!
# Backtracking regular expressions

Patterns with greedy repetition, optional parts and capture groups, matched by trying the
alternatives in order. `run` lists every way to match, the preferred one first.

* `Pattern`, `run`: the patterns and their matches from a state.
* `fullmatch`, `search`: a match of the whole text, and the leftmost match in a text.
* `First`, `Fails`: the preferred match, and no match, with a rule for each construct.
* `Consumes`: what a match can consume; `fails_of_consumes` refutes `a` followed by a character.
* `Needs`: a character without which a pattern cannot match.
* **`fullmatch_of_first`**, **`search_of_first`**, `searchFrom_cons`: from rules to matches.
-/

namespace Regex

/-- What is left of the text, whether nothing was consumed yet, and the captured groups. -/
structure State where
  atStart : Bool
  rest : List Char
  groups : ℕ → Option (List Char)

inductive Pattern where
  | char (p : Char → Bool)
  /-- Greedy repetition of a character, at most `limit` times when there is one. -/
  | many (p : Char → Bool) (limit : Option ℕ)
  | seq (a b : Pattern)
  | opt (a : Pattern)
  | group (n : ℕ) (a : Pattern)
  /-- The start of the text. -/
  | bol
  /-- The end of the text, or of its last line. -/
  | eol

namespace Pattern

/-- One or more characters. -/
def plus (p : Char → Bool) : Pattern := seq (char p) (many p none)

/-- A given character. -/
def lit (c : Char) : Pattern := char fun d => d == c

end Pattern

open Pattern

def greedy (p : Char → Bool) : ℕ → State → List State
  | 0, s => [s]
  | limit + 1, s =>
    match s.rest with
    | [] => [s]
    | c :: cs => if p c then greedy p limit ⟨false, cs, s.groups⟩ ++ [s] else [s]

/-- Every match from a state, the preferred one first. -/
def run : Pattern → State → List State
  | .char p, s =>
    match s.rest with
    | [] => []
    | c :: cs => if p c then [⟨false, cs, s.groups⟩] else []
  | .many p limit, s => greedy p (limit.getD s.rest.length) s
  | .seq a b, s => (run a s).flatMap (run b)
  | .opt a, s => run a s ++ [s]
  | .group n a, s => (run a s).map fun t =>
      { t with
        groups := Function.update t.groups n
          (some (s.rest.take (s.rest.length - t.rest.length))) }
  | .bol, s => if s.atStart then [s] else []
  | .eol, s => if s.rest = [] ∨ s.rest = ['\n'] then [s] else []

/-- The groups of the preferred match of a whole text. -/
def fullmatch (r : Pattern) (text : List Char) : Option (ℕ → Option (List Char)) :=
  ((run r ⟨true, text, fun _ => none⟩).find? fun t => t.rest.isEmpty).map State.groups

def searchFrom (r : Pattern) : Bool → List Char → Option (ℕ → Option (List Char))
  | atStart, [] => (run r ⟨atStart, [], fun _ => none⟩).head?.map State.groups
  | atStart, c :: cs =>
    match (run r ⟨atStart, c :: cs, fun _ => none⟩).head? with
    | some t => some t.groups
    | none => searchFrom r false cs

/-- The groups of the leftmost match. -/
def search (r : Pattern) (text : List Char) : Option (ℕ → Option (List Char)) :=
  searchFrom r true text

/-! ## The preferred match -/

/-- The preferred match of `r` from `s` ends in `t`. -/
def First (r : Pattern) (s t : State) : Prop := ∃ ts, run r s = t :: ts

/-- `r` does not match from `s`. -/
def Fails (r : Pattern) (s : State) : Prop := run r s = []

variable {a b r : Pattern} {s t u : State} {p q : Char → Bool}

theorem First.seq (ha : First a s t) (hb : First b t u) : First (a.seq b) s u := by
  obtain ⟨ts, hts⟩ := ha
  obtain ⟨us, hus⟩ := hb
  exact ⟨us ++ ts.flatMap (run b), by rw [run, hts, List.flatMap_cons, hus, List.cons_append]⟩

theorem First.opt (ha : First a s t) : First a.opt s t := by
  obtain ⟨ts, hts⟩ := ha
  exact ⟨ts ++ [s], by rw [run, hts, List.cons_append]⟩

theorem Fails.opt (ha : Fails a s) : First a.opt s s := ⟨[], by rw [run, ha, List.nil_append]⟩

theorem Fails.seq (ha : Fails a s) : Fails (a.seq b) s := by
  rw [Fails, run, ha, List.flatMap_nil]

theorem Fails.group (n : ℕ) (ha : Fails a s) : Fails (a.group n) s := by
  rw [Fails, run, ha, List.map_nil]

theorem first_char {c : Char} (hc : p c = true) (atStart : Bool) (cs : List Char)
    (groups : ℕ → Option (List Char)) :
    First (.char p) ⟨atStart, c :: cs, groups⟩ ⟨false, cs, groups⟩ := by
  refine ⟨[], ?_⟩
  simp [run, hc]

theorem first_lit (c : Char) (atStart : Bool) (cs : List Char)
    (groups : ℕ → Option (List Char)) :
    First (lit c) ⟨atStart, c :: cs, groups⟩ ⟨false, cs, groups⟩ :=
  first_char (by simp) atStart cs groups

theorem fails_char {c : Char} (hc : p c = false) (atStart : Bool) (cs : List Char)
    (groups : ℕ → Option (List Char)) : Fails (.char p) ⟨atStart, c :: cs, groups⟩ := by
  simp [Fails, run, hc]

/-- What follows a run of characters does not extend it. -/
def Ends (p : Char → Bool) (rest : List Char) : Prop := ∀ c ∈ rest.head?, p c = false

theorem ends_cons {c : Char} {cs : List Char} (hc : p c = false) : Ends p (c :: cs) := by
  intro d hd
  cases hd
  exact hc

theorem first_greedy {w rest : List Char} (hw : ∀ c ∈ w, p c = true) (hr : Ends p rest)
    {limit : ℕ} (hl : w.length ≤ limit) (atStart : Bool) (groups : ℕ → Option (List Char)) :
    ∃ ts, greedy p limit ⟨atStart, w ++ rest, groups⟩ =
      ⟨atStart && w.isEmpty, rest, groups⟩ :: ts := by
  induction w generalizing limit atStart with
  | nil =>
    cases limit with
    | zero => exact ⟨[], by simp [greedy]⟩
    | succ limit =>
      cases rest with
      | nil => exact ⟨[], by simp [greedy]⟩
      | cons c cs =>
        have hc := hr c rfl
        exact ⟨[], by simp [greedy, hc]⟩
  | cons c w ih =>
    cases limit with
    | zero => simp at hl
    | succ limit =>
      have hc := hw c List.mem_cons_self
      have hlen : w.length ≤ limit := by simpa using hl
      obtain ⟨ts, hts⟩ := ih (fun d hd => hw d (List.mem_cons_of_mem c hd)) hlen false
      refine ⟨ts ++ [⟨atStart, c :: (w ++ rest), groups⟩], ?_⟩
      simp only [List.cons_append, greedy, hc, if_true, hts]
      simp

/-- A maximal run of characters is the preferred match of `plus`. -/
theorem first_plus {w rest : List Char} (hne : w ≠ []) (hw : ∀ c ∈ w, p c = true)
    (hr : Ends p rest) (atStart : Bool) (groups : ℕ → Option (List Char)) :
    First (plus p) ⟨atStart, w ++ rest, groups⟩ ⟨false, rest, groups⟩ := by
  cases w with
  | nil => exact absurd rfl hne
  | cons c w =>
    refine (first_char (hw c List.mem_cons_self) atStart (w ++ rest) groups).seq ?_
    have hlen : w.length ≤ (w ++ rest).length := by simp
    obtain ⟨ts, hts⟩ := first_greedy (fun d hd => hw d (List.mem_cons_of_mem c hd)) hr hlen false
      groups
    exact ⟨ts, by simpa [run] using hts⟩

/-- A maximal run of characters within the limit is the preferred match of `many`. -/
theorem first_many {w rest : List Char} {limit : ℕ} (hw : ∀ c ∈ w, p c = true)
    (hr : Ends p rest) (hl : w.length ≤ limit) (groups : ℕ → Option (List Char)) :
    First (.many p (some limit)) ⟨false, w ++ rest, groups⟩ ⟨false, rest, groups⟩ := by
  obtain ⟨ts, hts⟩ := first_greedy hw hr hl false groups
  exact ⟨ts, by simpa [run] using hts⟩

/-- A group captures what its pattern consumed. -/
theorem First.group {w rest : List Char} {atStart atStart' : Bool}
    {groups groups' : ℕ → Option (List Char)} (n : ℕ)
    (ha : First a ⟨atStart, w ++ rest, groups⟩ ⟨atStart', rest, groups'⟩) :
    First (a.group n) ⟨atStart, w ++ rest, groups⟩
      ⟨atStart', rest, Function.update groups' n (some w)⟩ := by
  obtain ⟨ts, hts⟩ := ha
  have htake : (w ++ rest).take ((w ++ rest).length - rest.length) = w := by
    rw [List.length_append, Nat.add_sub_cancel, List.take_left]
  simp only [First, run, hts, List.map_cons, htake, List.cons.injEq, true_and, exists_eq']

/-! ## What a match consumes -/

/-- A match of `a` consumes characters of `q` only. -/
def Consumes (a : Pattern) (q : Char → Bool) : Prop :=
  ∀ s t, t ∈ run a s → ∃ w, s.rest = w ++ t.rest ∧ ∀ c ∈ w, q c = true

theorem mem_greedy {limit : ℕ} {s t : State} (h : t ∈ greedy p limit s) :
    ∃ w, s.rest = w ++ t.rest ∧ ∀ c ∈ w, p c = true := by
  induction limit generalizing s with
  | zero =>
    rw [greedy, List.mem_singleton] at h
    exact ⟨[], by rw [h]; rfl, by simp⟩
  | succ limit ih =>
    rw [greedy] at h
    split at h
    · rw [List.mem_singleton] at h
      exact ⟨[], by rw [h]; rfl, by simp⟩
    · rename_i c cs hs
      split at h
      · rename_i hc
        rcases List.mem_append.mp h with h | h
        · obtain ⟨w, hw, hp⟩ := ih h
          refine ⟨c :: w, by rw [hs, List.cons_append, ← hw], ?_⟩
          intro d hd
          rcases List.mem_cons.mp hd with rfl | hd
          · exact hc
          · exact hp d hd
        · rw [List.mem_singleton] at h
          exact ⟨[], by rw [h]; rfl, by simp⟩
      · rw [List.mem_singleton] at h
        exact ⟨[], by rw [h]; rfl, by simp⟩

theorem consumes_char (h : ∀ c, p c = true → q c = true) : Consumes (.char p) q := by
  intro s t ht
  rw [run] at ht
  split at ht
  · cases ht
  · rename_i c cs hs
    split at ht
    · rename_i hc
      rw [List.mem_singleton] at ht
      refine ⟨[c], by rw [hs, ht]; rfl, ?_⟩
      intro d hd
      rw [List.mem_singleton.mp hd]
      exact h c hc
    · cases ht

theorem Consumes.seq (ha : Consumes a q) (hb : Consumes b q) : Consumes (a.seq b) q := by
  intro s u hu
  rw [run, List.mem_flatMap] at hu
  obtain ⟨t, ht, hu⟩ := hu
  obtain ⟨w, hw, hwq⟩ := ha s t ht
  obtain ⟨v, hv, hvq⟩ := hb t u hu
  refine ⟨w ++ v, by rw [hw, hv, List.append_assoc], ?_⟩
  intro c hc
  rcases List.mem_append.mp hc with hc | hc
  · exact hwq c hc
  · exact hvq c hc

theorem Consumes.opt (ha : Consumes a q) : Consumes a.opt q := by
  intro s t ht
  rw [run] at ht
  rcases List.mem_append.mp ht with ht | ht
  · exact ha s t ht
  · rw [List.mem_singleton] at ht
    exact ⟨[], by rw [ht]; rfl, by simp⟩

theorem consumes_plus (h : ∀ c, p c = true → q c = true) : Consumes (plus p) q := by
  refine (consumes_char h).seq ?_
  intro s t ht
  rw [run] at ht
  obtain ⟨w, hw, hp⟩ := mem_greedy ht
  exact ⟨w, hw, fun c hc => h c (hp c hc)⟩

/-- After a run of characters of `q` comes neither one of `q` nor one of `p`. -/
theorem fails_of_consumes (ha : Consumes a q) (n : ℕ) (hpq : ∀ c, p c = true → q c = false)
    {w rest : List Char} (hw : ∀ c ∈ w, q c = true) (hr : ∀ c ∈ rest.head?, q c = false ∧ p c = false)
    (atStart : Bool) (groups : ℕ → Option (List Char)) :
    Fails ((a.group n).seq (.char p)) ⟨atStart, w ++ rest, groups⟩ := by
  rw [Fails, run, List.flatMap_eq_nil_iff]
  intro t ht
  rw [run, List.mem_map] at ht
  obtain ⟨t', ht', rfl⟩ := ht
  obtain ⟨v, hv, hvq⟩ := ha _ _ ht'
  simp only [run]
  split
  · rfl
  · rename_i c cs hcs
    simp only at hv hcs
    rw [if_neg]
    intro hc
    rw [hcs] at hv
    have hqc := hpq c hc
    -- the character after the match lies in the run, or right after it
    rcases List.append_eq_append_iff.mp hv with ⟨x, hx, hy⟩ | ⟨x, hx, hy⟩
    · cases x with
      | nil =>
        rw [List.nil_append] at hy
        have := hr c (by rw [hy]; rfl)
        rw [hc] at this
        exact Bool.noConfusion this.2
      | cons d x =>
        rw [List.cons_append] at hy
        have hd := hvq d (by rw [hx]; simp)
        have := hr d (by rw [hy]; rfl)
        rw [hd] at this
        exact Bool.noConfusion this.1
    · cases x with
      | nil =>
        rw [List.nil_append] at hy
        have := hr c (by rw [← hy]; rfl)
        rw [hc] at this
        exact Bool.noConfusion this.2
      | cons d x =>
        rw [List.cons_append, List.cons.injEq] at hy
        have hd := hw d (by rw [hx]; simp)
        rw [← hy.1, hqc] at hd
        exact Bool.noConfusion hd

/-! ## Characters that a match needs -/

/-- Every match consumes a `c`. -/
def Needs (c : Char) : Pattern → Prop
  | .char p => ∀ d, p d = true → d = c
  | .seq a b => Needs c a ∨ Needs c b
  | .group _ a => Needs c a
  | .many _ _ | .opt _ | .bol | .eol => False

/-- A match consumes a prefix. -/
theorem exists_consumed (r : Pattern) {s t : State} (h : t ∈ run r s) :
    ∃ w, s.rest = w ++ t.rest ∧ ∀ c, Needs c r → c ∈ w := by
  induction r generalizing s t with
  | char p =>
    rw [run] at h
    split at h
    · cases h
    · rename_i c cs hs
      split at h
      · rename_i hc
        rw [List.mem_singleton] at h
        refine ⟨[c], by rw [hs, h]; rfl, ?_⟩
        intro d hd
        rw [hd c hc]
        exact List.mem_singleton_self d
      · cases h
  | many p limit =>
    rw [run] at h
    obtain ⟨w, hw, -⟩ := mem_greedy h
    exact ⟨w, hw, fun c hc => hc.elim⟩
  | seq a b iha ihb =>
    rw [run, List.mem_flatMap] at h
    obtain ⟨u, hu, h⟩ := h
    obtain ⟨w, hw, hwn⟩ := iha hu
    obtain ⟨v, hv, hvn⟩ := ihb h
    refine ⟨w ++ v, by rw [hw, hv, List.append_assoc], ?_⟩
    rintro c (hc | hc)
    · exact List.mem_append_left v (hwn c hc)
    · exact List.mem_append_right w (hvn c hc)
  | opt a iha =>
    rw [run] at h
    rcases List.mem_append.mp h with h | h
    · obtain ⟨w, hw, -⟩ := iha h
      exact ⟨w, hw, fun c hc => hc.elim⟩
    · rw [List.mem_singleton] at h
      exact ⟨[], by rw [h]; rfl, fun c hc => hc.elim⟩
  | group n a iha =>
    rw [run, List.mem_map] at h
    obtain ⟨u, hu, rfl⟩ := h
    obtain ⟨w, hw, hwn⟩ := iha hu
    exact ⟨w, hw, hwn⟩
  | bol =>
    rw [run] at h
    split at h
    · rw [List.mem_singleton] at h
      exact ⟨[], by rw [h]; rfl, fun c hc => hc.elim⟩
    · cases h
  | eol =>
    rw [run] at h
    split at h
    · rw [List.mem_singleton] at h
      exact ⟨[], by rw [h]; rfl, fun c hc => hc.elim⟩
    · cases h

theorem fails_of_needs {c : Char} (hn : Needs c r) (hc : c ∉ s.rest) : Fails r s := by
  rw [Fails, List.eq_nil_iff_forall_not_mem]
  intro t ht
  obtain ⟨w, hw, hwn⟩ := exists_consumed r ht
  apply hc
  rw [hw]
  exact List.mem_append_left _ (hwn c hn)

/-! ## Matching a text -/

/-- **A preferred match that consumes the text is the match of the text.** -/
theorem fullmatch_of_first {text : List Char} (atStart : Bool)
    {groups : ℕ → Option (List Char)}
    (h : First r ⟨true, text, fun _ => none⟩ ⟨atStart, [], groups⟩) :
    fullmatch r text = some groups := by
  obtain ⟨ts, hts⟩ := h
  rw [fullmatch, hts]
  rfl

theorem fullmatch_of_needs {text : List Char} {c : Char} (hn : Needs c r) (hc : c ∉ text) :
    fullmatch r text = none := by
  have h : Fails r ⟨true, text, fun _ => none⟩ := fails_of_needs hn hc
  rw [fullmatch, h]
  rfl

/-- **A match at the front is the leftmost.** -/
theorem search_of_first {text : List Char} {atStart : Bool}
    (h : First r ⟨atStart, text, fun _ => none⟩ t) :
    searchFrom r atStart text = some t.groups := by
  obtain ⟨ts, hts⟩ := h
  cases text with
  | nil => rw [searchFrom, hts]; rfl
  | cons c cs => rw [searchFrom, hts]; rfl

/-- A character where no match starts is skipped. -/
theorem searchFrom_cons {c : Char} {cs : List Char} {atStart : Bool}
    (h : Fails r ⟨atStart, c :: cs, fun _ => none⟩) :
    searchFrom r atStart (c :: cs) = searchFrom r false cs := by
  rw [searchFrom, h]
  rfl

theorem searchFrom_of_needs {text : List Char} {c : Char} (hn : Needs c r) (hc : c ∉ text)
    (atStart : Bool) : searchFrom r atStart text = none := by
  induction text generalizing atStart with
  | nil =>
    have h : Fails r ⟨atStart, [], fun _ => none⟩ := fails_of_needs hn hc
    rw [searchFrom, h]
    rfl
  | cons d cs ih =>
    rw [searchFrom_cons (fails_of_needs hn hc)]
    exact ih (fun h => hc (List.mem_cons_of_mem d h)) false

end Regex
