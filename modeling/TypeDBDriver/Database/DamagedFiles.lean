import TypeDBDriver.Database.Migration

/-!
# Reading damaged export files

* `AfterMessages`: what a file still holds after some delimited messages.
* `decodeNextLen_decode`, `next_pending`: whatever the bytes and the reads, a call of `next` reads
  the length in front of what the file holds, and either takes the whole message off or nothing.
* `CallSurvives`, `Survives`: a call, and every call on a file, returns what it should.
* `capacities`, `le_of_mem_capacities`: the buffers that a call of `next` asks for.
* `next_oneByte`, `next_oneByte_panics`: what a reader does that hands out one byte at a time.
* **`survives_iff`**: exactly the files on which every call survives, however the reads are cut.
-/

namespace TypeDBDriver.Migration

open ChunkedReader Memory

/-- What a file of these bytes still holds after some of its delimited messages. -/
inductive AfterMessages (bytes : List UInt8) : List UInt8 → Prop
  | start : AfterMessages bytes bytes
  | message {rest tail : List UInt8} {len : ℕ} (before : AfterMessages bytes rest)
      (decoded : Varint.decode rest = some (len, tail)) (le : len ≤ tail.length) :
    AfterMessages bytes (tail.drop len)

namespace ProtoMessageIterator

variable {M : Type} [Memory]

/-! ## What a call takes off the file -/

theorem readMore_pending (it : ProtoMessageIterator M) (asked : ℕ) :
    (it.readMore asked).2.pending = it.pending := by
  unfold readMore
  split_ifs
  · rfl
  · cases hr : it.reader.read (max asked 1) with
    | mk res reader =>
      cases res with
      | none =>
        unfold Reader.read at hr
        split at hr <;> cases hr
        rfl
      | some bs =>
        obtain ⟨hrest, -, -⟩ := Reader.read_eq_some hr
        rw [pending, pending, List.append_assoc, hrest]

theorem decodeNextLen_pending (it : ProtoMessageIterator M) :
    it.decodeNextLen.2.pending = it.pending := by
  fun_induction decodeNextLen it with
  | case1 | case2 => rfl
  | case3 it hdec hlen it₁ hread | case4 it hdec hlen it₁ hread | case5 it hdec hlen it₁ hread =>
    have := readMore_pending it (maxLengthDelimiterLen - it.buffer.length)
    rw [hread] at this
    exact this
  | case6 it hdec hlen n it₁ hread ih =>
    have := readMore_pending it (maxLengthDelimiterLen - it.buffer.length)
    rw [hread] at this
    exact ih.trans this

theorem fillBuffer_pending (it : ProtoMessageIterator M) (required : ℕ) :
    (it.fillBuffer required).2.pending = it.pending := by
  fun_induction fillBuffer it required with
  | case1 => rfl
  | case2 it hlen it₁ hread | case3 it hlen it₁ hread | case4 it hlen it₁ hread =>
    have := readMore_pending it (max (required - it.buffer.length) bufCapacity)
    rw [hread] at this
    exact this
  | case5 it hlen n it₁ hread ih =>
    have := readMore_pending it (max (required - it.buffer.length) bufCapacity)
    rw [hread] at this
    exact ih.trans this

/-- **A length that is returned stands in front of what the file holds.** -/
theorem decodeNextLen_decode (it : ProtoMessageIterator M) {len consumed : ℕ}
    {it' : ProtoMessageIterator M} (h : it.decodeNextLen = (.len len consumed, it')) :
    Varint.decode it.pending = some (len, it.pending.drop consumed) ∧
      consumed ≤ it'.buffer.length := by
  fun_induction decodeNextLen it with
  | case1 it len' cursor hdec =>
    obtain ⟨hlen, rfl⟩ := Prod.mk.inj h
    obtain ⟨rfl, rfl⟩ := NextLen.len.inj hlen
    obtain ⟨front, hfront, -⟩ := Varint.decodeFrom_eq_some hdec
    have hdrop : it.pending.drop (it.buffer.length - cursor.length) =
        cursor ++ it.reader.rest := by
      rw [pending, hfront, List.length_append, Nat.add_sub_cancel, List.append_assoc,
        List.drop_left]
    rw [hdrop]
    exact ⟨Varint.decode_append hdec _, by omega⟩
  | case2 | case4 | case5 => cases h
  | case3 =>
    have := (Prod.mk.inj h).1
    split_ifs at this
  | case6 it hdec hlen n it₁ hread ih =>
    have hp := readMore_pending it (maxLengthDelimiterLen - it.buffer.length)
    rw [hread] at hp
    rw [← show it₁.pending = it.pending from hp]
    exact ih h

theorem decodeNextLen_eof (it : ProtoMessageIterator M) {it' : ProtoMessageIterator M}
    (h : it.decodeNextLen = (.eof, it')) : it.pending = [] := by
  fun_induction decodeNextLen it with
  | case1 | case2 | case4 | case5 => cases h
  | case3 it hdec hlen it₁ hread =>
    obtain ⟨heof, rfl⟩ := Prod.mk.inj h
    obtain ⟨hp, hl, -, hrest⟩ := readMore_spec hread
    split_ifs at heof with hempty
    rw [List.isEmpty_iff] at hempty
    rw [hempty] at hl
    rw [pending, hrest rfl, List.append_nil]
    exact List.eq_nil_of_length_eq_zero hl.symm
  | case6 it hdec hlen n it₁ hread ih =>
    have hp := readMore_pending it (maxLengthDelimiterLen - it.buffer.length)
    rw [hread] at hp
    rw [← show it₁.pending = it.pending from hp]
    exact ih h

theorem readMore_ne_panicked (it : ProtoMessageIterator M) (asked : ℕ)
    (h : it.buffer.length + asked ≤ maxAlloc) : (it.readMore asked).1 ≠ .panicked := by
  unfold readMore
  rw [if_neg (by omega)]
  split <;> simp

/-- Reading a length asks for ten bytes at most. -/
theorem decodeNextLen_ne_panicked (it : ProtoMessageIterator M) :
    it.decodeNextLen.1 ≠ .panicked := by
  fun_induction decodeNextLen it with
  | case1 | case2 | case4 => simp
  | case3 => split_ifs <;> simp
  | case5 it hdec hlen it₁ hread =>
    have := readMore_ne_panicked it (maxLengthDelimiterLen - it.buffer.length)
      (by have := maxLengthDelimiterLen_le; omega)
    rw [hread] at this
    exact absurd rfl this
  | case6 it hdec hlen n it₁ hread ih => exact ih

/-- The most that reading up to `required` bytes can ask for where there are `available` of them:
room for all that is required, and eight kilobytes beyond what is there. -/
def mostCapacity (required available : ℕ) : ℕ :=
  max required (min (required - 1) available + bufCapacity)

/-- Reading a message does not panic where there is room for the most it can ask for. -/
theorem fillBuffer_ne_none (it : ProtoMessageIterator M) {required : ℕ}
    (h : it.buffer.length < required → mostCapacity required it.pending.length ≤ maxAlloc) :
    (it.fillBuffer required).1 ≠ none := by
  fun_induction fillBuffer it required with
  | case1 | case2 | case3 => simp
  | case4 it hlen it₁ hread =>
    have hle : it.buffer.length ≤ it.pending.length := (List.prefix_append _ _).length_le
    have hmost := h (by omega)
    unfold mostCapacity at hmost
    have := readMore_ne_panicked it (max (required - it.buffer.length) bufCapacity) (by omega)
    rw [hread] at this
    exact absurd rfl this
  | case5 it hlen n it₁ hread ih =>
    have hp := readMore_pending it (max (required - it.buffer.length) bufCapacity)
    rw [hread] at hp
    refine ih fun _ => ?_
    rw [show it₁.pending = it.pending from hp]
    exact h (by omega)

/-- The capacity that the buffer must have before each read of the loop of `next`. -/
def fillCapacities (it : ProtoMessageIterator M) (required : ℕ) : List ℕ :=
  if _hlen : required ≤ it.buffer.length then []
  else
    let capacity := it.buffer.length + max (required - it.buffer.length) bufCapacity
    match _hread : it.readMore (max (required - it.buffer.length) bufCapacity) with
    | (.read 0, _) => [capacity]
    | (.failed, _) => [capacity]
    | (.panicked, _) => [capacity]
    | (.read (_ + 1), it') => capacity :: it'.fillCapacities required
termination_by required - it.buffer.length
decreasing_by
  have := readMore_length_lt _hread
  omega

/-- The capacities that a call of `next` asks for once it has the length of the message. -/
def capacities (it : ProtoMessageIterator M) : List ℕ :=
  match it.decodeNextLen with
  | (.len messageLen consumed, it) =>
    if usizeMax < consumed + messageLen then [] else it.fillCapacities (consumed + messageLen)
  | _ => []

theorem le_of_mem_fillCapacities (it : ProtoMessageIterator M) {required capacity : ℕ}
    (h : capacity ∈ it.fillCapacities required) :
    it.buffer.length < required ∧ capacity ≤ mostCapacity required it.pending.length := by
  fun_induction fillCapacities it required with
  | case1 => cases h
  | case2 it hlen cap it₁ hread | case3 it hlen cap it₁ hread | case4 it hlen cap it₁ hread =>
    have hle : it.buffer.length ≤ it.pending.length := (List.prefix_append _ _).length_le
    obtain rfl := List.mem_singleton.mp h
    unfold mostCapacity
    omega
  | case5 it hlen cap n it₁ hread ih =>
    have hp := readMore_pending it (max (required - it.buffer.length) bufCapacity)
    rw [hread] at hp
    have hle : it.buffer.length ≤ it.pending.length := (List.prefix_append _ _).length_le
    obtain rfl | h := List.mem_cons.mp h
    · unfold mostCapacity
      omega
    · have := (ih h).2
      rw [show it₁.pending = it.pending from hp] at this
      exact ⟨by omega, this⟩

variable [Message M]

/-- What a call of `next` does: `left` is what the file holds after it. -/
inductive NextCall (bytes : List UInt8) : Next M → List UInt8 → Prop
  | ended (h : bytes = []) : NextCall bytes .done bytes
  | failed (e : Error) : NextCall bytes (.item (.error e)) bytes
  | panicked {len : ℕ} {tail : List UInt8} (decoded : Varint.decode bytes = some (len, tail))
      (pos : 0 < len)
      (large : maxAlloc < mostCapacity (bytes.length - tail.length + len) bytes.length) :
    NextCall bytes .panicked bytes
  | message {len : ℕ} {tail : List UInt8} (decoded : Varint.decode bytes = some (len, tail))
      (le : len ≤ tail.length) (result : Result M) :
    NextCall bytes (.item result) (tail.drop len)

/-- **A call of `next`**, whatever the bytes and the reads. -/
theorem nextCall (it : ProtoMessageIterator M) :
    NextCall it.pending it.next.1 it.next.2.pending := by
  have hp := decodeNextLen_pending it
  unfold next
  match hlen : it.decodeNextLen with
  | (.eof, it₁) =>
    rw [hlen] at hp
    dsimp only at hp ⊢
    rw [hp]
    exact .ended (decodeNextLen_eof it hlen)
  | (.err e, it₁) =>
    rw [hlen] at hp
    dsimp only at hp ⊢
    rw [hp]
    exact .failed e
  | (.panicked, it₁) =>
    have := decodeNextLen_ne_panicked it
    rw [hlen] at this
    exact absurd rfl this
  | (.len len consumed, it₁) =>
    rw [hlen] at hp
    obtain ⟨hdec, hcons⟩ := decodeNextLen_decode it hlen
    have hpend : it₁.pending = it.pending := hp
    have hle : it₁.buffer.length ≤ it.pending.length := by
      rw [← hpend]
      exact (List.prefix_append _ _).length_le
    have hconsumed : it.pending.length - (it.pending.drop consumed).length = consumed := by
      rw [List.length_drop]
      omega
    dsimp only
    split_ifs with hover
    · have hten := Varint.decodeFrom_length_le hdec
      have hmax := lt_two_pow (le_refl maxAlloc)
      dsimp only
      rw [hpend]
      refine .panicked hdec ?_ ?_
      · unfold usizeMax Varint.maxLen at *
        omega
      · rw [hconsumed]
        unfold usizeMax mostCapacity at *
        omega
    · have hfp := fillBuffer_pending it₁ (consumed + len)
      match hfill : it₁.fillBuffer (consumed + len) with
      | (none, it₂) =>
        rw [hfill] at hfp
        dsimp only at hfp ⊢
        rw [hfp, hpend]
        have hnone : (it₁.fillBuffer (consumed + len)).1 = none := by rw [hfill]
        have hpos : 0 < len := by
          by_contra hzero
          exact fillBuffer_ne_none it₁ (by omega) hnone
        refine .panicked hdec hpos ?_
        rw [hconsumed]
        by_contra hroom
        exact fillBuffer_ne_none it₁ (fun _ => by rw [hpend]; omega) hnone
      | (some false, it₂) =>
        rw [hfill] at hfp
        dsimp only at hfp ⊢
        rw [hfp, hpend]
        exact .failed _
      | (some true, it₂) =>
        obtain ⟨hp₂, hreq⟩ := fillBuffer_true it₁ hfill
        have hwhole : it₂.buffer.length ≤ it.pending.length := by
          rw [← hpend, ← hp₂]
          exact (List.prefix_append _ _).length_le
        have hrest : @pending M { it₂ with buffer := (it₂.buffer.drop consumed).drop len } =
            (it.pending.drop consumed).drop len := by
          rw [← hpend, ← hp₂, pending, pending, List.drop_drop, List.drop_drop,
            List.drop_append_of_le_length hreq]
        dsimp only
        rw [hrest]
        exact .message hdec (by rw [List.length_drop]; omega) _

/-! ## Every call on a file -/

/-- The iterator after some calls. -/
def afterCalls (it : ProtoMessageIterator M) : ℕ → ProtoMessageIterator M
  | 0 => it
  | n + 1 => (it.afterCalls n).next.2

/-- A call returns what it should on a file of these bytes. -/
structure CallSurvives (bytes : List UInt8) (it : ProtoMessageIterator M) : Prop where
  /-- it does not panic -/
  returns : it.next.1 ≠ .panicked
  /-- it asks for no buffer that cannot be allocated -/
  allocations : ∀ capacity ∈ it.capacities, capacity ≤ maxAlloc
  /-- a message that is longer than what is left is an error -/
  truncatedMessage : ∀ len tail, Varint.decode it.pending = some (len, tail) →
    tail.length < len → ∃ e, it.next.1 = .item (.error e)
  /-- so is a length that is truncated or too long -/
  badLength : Varint.decode it.pending = none → it.pending ≠ [] →
    ∃ e, it.next.1 = .item (.error e)
  /-- and one for which no buffer can be allocated -/
  hugeLength : ∀ len tail, Varint.decode it.pending = some (len, tail) → maxAlloc < len →
    ∃ e, it.next.1 = .item (.error e)
  /-- the file ends when its messages have taken all of it -/
  done : it.next.1 = .done → it.pending = [] ∧ AfterMessages bytes []

variable (M) in
/-- Every call on a file of these bytes returns what it should, however the reads are cut. -/
def Survives (bytes : List UInt8) : Prop :=
  ∀ reader : Reader, reader.rest = bytes →
    ∀ n, CallSurvives bytes ((new reader : ProtoMessageIterator M).afterCalls n)

/-- Whatever message is next, a buffer for it and its length can be allocated. -/
def AllocatableLengths (bytes : List UInt8) : Prop :=
  ∀ rest, AfterMessages bytes rest →
    ∀ len tail, Varint.decode rest = some (len, tail) → 0 < len →
      mostCapacity (rest.length - tail.length + len) rest.length ≤ maxAlloc

/-- What the file still holds is always what is left after some of its messages. -/
theorem afterMessages_afterCalls {bytes : List UInt8} {it : ProtoMessageIterator M}
    (h : it.pending = bytes) (n : ℕ) : AfterMessages bytes (it.afterCalls n).pending := by
  induction n with
  | zero =>
    rw [← h]
    exact .start
  | succ n ih =>
    have hcall := nextCall (it.afterCalls n)
    show AfterMessages bytes (it.afterCalls n).next.2.pending
    generalize (it.afterCalls n).next.1 = returned at hcall
    generalize (it.afterCalls n).next.2.pending = left at hcall
    cases hcall with
    | ended | failed | panicked => exact ih
    | message decoded le => exact .message ih decoded le

omit [Message M] in
theorem le_of_mem_capacities (it : ProtoMessageIterator M) {capacity : ℕ}
    (h : capacity ∈ it.capacities) :
    ∃ len tail, Varint.decode it.pending = some (len, tail) ∧ 0 < len ∧
      capacity ≤ mostCapacity (it.pending.length - tail.length + len) it.pending.length := by
  unfold capacities at h
  have hp := decodeNextLen_pending it
  match hlen : it.decodeNextLen with
  | (.eof, it₁) | (.err e, it₁) | (.panicked, it₁) =>
    rw [hlen] at h
    cases h
  | (.len len consumed, it₁) =>
    rw [hlen] at h hp
    have hpend : it₁.pending = it.pending := hp
    obtain ⟨hdec, hcons⟩ := decodeNextLen_decode it hlen
    have hle : it₁.buffer.length ≤ it.pending.length := by
      rw [← hpend]
      exact (List.prefix_append _ _).length_le
    dsimp only at h
    split_ifs at h
    · cases h
    · obtain ⟨hroom, hcap⟩ := le_of_mem_fillCapacities it₁ h
      refine ⟨len, _, hdec, by omega, ?_⟩
      rw [List.length_drop, show it.pending.length - (it.pending.length - consumed) = consumed by
        omega, ← hpend]
      exact hcap

/-- **Where every buffer can be allocated, every call survives.** -/
theorem callSurvives_of_allocatable {bytes : List UInt8} {it : ProtoMessageIterator M}
    (hafter : AfterMessages bytes it.pending) (h : AllocatableLengths bytes) :
    CallSurvives bytes it := by
  have hcapacities : ∀ capacity ∈ it.capacities, capacity ≤ maxAlloc := by
    intro capacity hcap
    obtain ⟨len, tail, hdec, hpos, hle⟩ := le_of_mem_capacities it hcap
    exact hle.trans (h _ hafter _ _ hdec hpos)
  have hsmall : ∀ len tail, Varint.decode it.pending = some (len, tail) → len ≤ maxAlloc := by
    intro len tail hdec
    have hmost := h _ hafter _ _ hdec
    unfold mostCapacity at hmost
    omega
  have hcall := nextCall it
  generalize hret : it.next.1 = returned at hcall
  generalize it.next.2.pending = left at hcall
  cases hcall with
  | ended hnil =>
    refine ⟨by simp [hret], hcapacities, ?_, ?_, ?_, fun _ => ⟨hnil, by rw [← hnil]; exact hafter⟩⟩
    · intro len tail hdec
      rw [hnil] at hdec
      cases hdec
    · exact fun _ hne => absurd hnil hne
    · intro len tail hdec
      rw [hnil] at hdec
      cases hdec
  | failed e =>
    exact ⟨by simp [hret], hcapacities, fun _ _ _ _ => ⟨e, hret⟩, fun _ _ => ⟨e, hret⟩,
      fun _ _ _ _ => ⟨e, hret⟩, by simp [hret]⟩
  | panicked decoded pos large => exact absurd (h _ hafter _ _ decoded pos) (by omega)
  | message decoded le result =>
    refine ⟨by simp [hret], hcapacities, ?_, ?_, ?_, by simp [hret]⟩
    · intro len tail hdec hlt
      rw [decoded] at hdec
      cases hdec
      omega
    · intro hnone
      rw [decoded] at hnone
      cases hnone
    · intro len tail hdec hlarge
      exact absurd (hsmall _ _ hdec) (by omega)

/-! ## Reading a byte at a time -/

/-- The reader hands out one byte at a time. -/
def OneByte (reader : Reader) : Prop := ∀ i, reader.plan i = .atMost 1

omit [Message M] in
theorem readMore_oneByte {it : ProtoMessageIterator M} (hr : OneByte it.reader)
    (hne : it.reader.rest ≠ []) {asked : ℕ} (ha : it.buffer.length + asked ≤ maxAlloc) :
    ∃ it', it.readMore asked = (.read 1, it') ∧ OneByte it'.reader ∧
      it'.buffer.length = it.buffer.length + 1 := by
  obtain ⟨b, bs, hrest⟩ := List.exists_cons_of_ne_nil hne
  have hlen : Reader.readLen 1 (max asked 1) it.reader.rest.length = 1 := by
    rw [hrest]
    simp only [Reader.readLen, List.length_cons]
    omega
  refine ⟨⟨(it.reader.read (max asked 1)).2, it.buffer ++ [b]⟩, ?_, ?_, by simp⟩
  · rw [readMore, if_neg (by omega), Reader.read, hr 0]
    dsimp only
    rw [hlen, hrest]
    rfl
  · intro i
    rw [Reader.read, hr 0]
    exact hr (i + 1)

omit [Message M] [Memory] in
theorem rest_ne_nil {it : ProtoMessageIterator M} (h : it.buffer.length < it.pending.length) :
    it.reader.rest ≠ [] := by
  intro hnil
  rw [pending, hnil, List.append_nil] at h
  omega

omit [Message M] in
/-- The length is read as soon as its last byte is there. -/
theorem decodeNextLen_oneByte {len consumed : ℕ} {tail : List UInt8} :
    ∀ (k : ℕ) (it : ProtoMessageIterator M), consumed - it.buffer.length = k →
      OneByte it.reader → Varint.decode it.pending = some (len, tail) →
      it.pending.length = consumed + tail.length → it.buffer.length ≤ consumed →
      ∃ it', it.decodeNextLen = (.len len consumed, it') ∧ it'.buffer.length = consumed ∧
        OneByte it'.reader := by
  intro k
  induction k with
  | zero =>
    intro it hk hr hdec hlen hle
    have hbuf : it.buffer = it.pending.take consumed := by
      rw [pending, List.take_left' (by omega)]
    have hdecb := Varint.decode_take hdec hlen.le
    rw [← hbuf, hlen, Nat.sub_self, List.take_zero] at hdecb
    refine ⟨it, ?_, by omega, hr⟩
    rw [decodeNextLen, hdecb]
    simp only [List.length_nil, Nat.sub_zero, Prod.mk.injEq, NextLen.len.injEq, and_true, true_and]
    omega
  | succ k ih =>
    intro it hk hr hdec hlen hle
    have hten := Varint.decodeFrom_length_le hdec
    have hnone : Varint.decode it.buffer = none := by
      cases hb : Varint.decode it.buffer with
      | none => rfl
      | some p =>
        have hwhole := Varint.decode_append hb it.reader.rest
        rw [show it.buffer ++ it.reader.rest = it.pending from rfl, hdec] at hwhole
        have htail := congrArg (fun o => (o.map fun p => p.2.length).getD 0) hwhole
        simp only [Option.map_some, Option.getD_some, List.length_append] at htail
        have hsum : it.pending.length = it.buffer.length + it.reader.rest.length :=
          List.length_append
        omega
    have hroom : it.buffer.length + (maxLengthDelimiterLen - it.buffer.length) ≤ maxAlloc := by
      have := maxLengthDelimiterLen_le
      unfold Varint.maxLen maxLengthDelimiterLen at *
      omega
    obtain ⟨it₁, hread, hr₁, hlen₁⟩ := readMore_oneByte hr (rest_ne_nil (by omega)) hroom
    have hp := readMore_pending it (maxLengthDelimiterLen - it.buffer.length)
    rw [hread] at hp
    have hp₁ : it₁.pending = it.pending := hp
    obtain ⟨it', hnext, hbuf', hr'⟩ := ih it₁ (by omega) hr₁ (by rw [hp₁]; exact hdec)
      (by rw [hp₁]; exact hlen) (by omega)
    refine ⟨it', ?_, hbuf', hr'⟩
    have hlt : it.buffer.length < maxLengthDelimiterLen := by
      unfold maxLengthDelimiterLen Varint.maxLen at *
      omega
    rw [decodeNextLen_read hnone hlt hread, hnext]

omit [Message M] in
/-- A message is read as soon as its last byte is there. -/
theorem fillBuffer_oneByte {required : ℕ} :
    ∀ (k : ℕ) (it : ProtoMessageIterator M), required - it.buffer.length = k →
      (it.buffer.length < required → mostCapacity required it.pending.length ≤ maxAlloc) →
      OneByte it.reader → it.buffer.length ≤ required → required ≤ it.pending.length →
      ∃ it', it.fillBuffer required = (some true, it') ∧ it'.buffer.length = required ∧
        OneByte it'.reader := by
  intro k
  induction k with
  | zero =>
    intro it hk _ hr hle hp
    exact ⟨it, by rw [fillBuffer, dif_pos (by omega)], by omega, hr⟩
  | succ k ih =>
    intro it hk hcap hr hle hp
    have hmost := hcap (by omega)
    unfold mostCapacity at hmost
    have hroom : it.buffer.length + max (required - it.buffer.length) bufCapacity ≤ maxAlloc := by
      omega
    obtain ⟨it₁, hread, hr₁, hlen₁⟩ := readMore_oneByte hr (rest_ne_nil (by omega)) hroom
    have hp₁ := readMore_pending it (max (required - it.buffer.length) bufCapacity)
    rw [hread] at hp₁
    have hpend : it₁.pending = it.pending := hp₁
    obtain ⟨it', hnext, hbuf', hr'⟩ := ih it₁ (by omega)
      (fun _ => by rw [hpend]; exact hcap (by omega)) hr₁ (by omega) (by rw [hpend]; exact hp)
    refine ⟨it', ?_, hbuf', hr'⟩
    rw [fillBuffer_read (by omega) hread, hnext]

omit [Message M] in
theorem fillBuffer_of_no_room {it : ProtoMessageIterator M} {required : ℕ}
    (hlen : it.buffer.length < required)
    (hroom : maxAlloc < it.buffer.length + max (required - it.buffer.length) bufCapacity) :
    (it.fillBuffer required).1 = none := by
  have hread : it.readMore (max (required - it.buffer.length) bufCapacity) = (.panicked, it) := by
    rw [readMore, if_pos hroom]
  rw [fillBuffer, dif_neg (by omega)]
  split
  all_goals rename_i heq; rw [hread] at heq
  all_goals cases heq

omit [Message M] in
/-- The buffer grows by one byte at a time until there is no room for what is still to be read. -/
theorem fillBuffer_oneByte_panics {required m : ℕ} (hm : m < required)
    (hlarge : maxAlloc < m + max (required - m) bufCapacity) :
    ∀ (k : ℕ) (it : ProtoMessageIterator M), m - it.buffer.length = k → OneByte it.reader →
      it.buffer.length ≤ m → m ≤ it.pending.length → (it.fillBuffer required).1 = none := by
  intro k
  induction k with
  | zero =>
    intro it hk _ hle _
    obtain rfl : m = it.buffer.length := by omega
    exact fillBuffer_of_no_room hm hlarge
  | succ k ih =>
    intro it hk hr hle hp
    by_cases hroom : it.buffer.length + max (required - it.buffer.length) bufCapacity ≤ maxAlloc
    · obtain ⟨it₁, hread, hr₁, hlen₁⟩ := readMore_oneByte hr (rest_ne_nil (by omega)) hroom
      have hp₁ := readMore_pending it (max (required - it.buffer.length) bufCapacity)
      rw [hread] at hp₁
      have hnone := ih it₁ (by omega) hr₁ (by omega)
        (by rw [show it₁.pending = it.pending from hp₁]; exact hp)
      rw [fillBuffer_read (by omega) hread, hnone]
    · exact fillBuffer_of_no_room (by omega) (by omega)

section OneByte

variable {it : ProtoMessageIterator M} {len : ℕ} {tail : List UInt8}

omit [Message M] in
/-- The length in front of the file, read off an empty buffer. -/
theorem exists_decodeNextLen (hr : OneByte it.reader) (hb : it.buffer = [])
    (hdec : Varint.decode it.pending = some (len, tail)) :
    ∃ consumed it₁, it.decodeNextLen = (.len len consumed, it₁) ∧ it₁.buffer.length = consumed ∧
      OneByte it₁.reader ∧ consumed ≤ 10 ∧ it.pending.length = consumed + tail.length ∧
      tail = it.pending.drop consumed := by
  obtain ⟨front, hfront, -⟩ := Varint.decodeFrom_eq_some hdec
  have hlen : it.pending.length = front.length + tail.length := by
    rw [hfront, List.length_append]
  have hten := Varint.decodeFrom_length_le hdec
  obtain ⟨it₁, hnext, hbuf, hr₁⟩ := decodeNextLen_oneByte _ it rfl hr hdec hlen (by simp [hb])
  refine ⟨front.length, it₁, hnext, hbuf, hr₁, ?_, hlen, ?_⟩
  · unfold Varint.maxLen at hten
    omega
  · rw [hfront, List.drop_left]

/-- A message that is there is taken off the file, and nothing else is buffered. -/
theorem next_oneByte (hr : OneByte it.reader) (hb : it.buffer = [])
    (hdec : Varint.decode it.pending = some (len, tail)) (hle : len ≤ tail.length)
    (hroom : 0 < len →
      mostCapacity (it.pending.length - tail.length + len) it.pending.length ≤ maxAlloc) :
    it.next.2.pending = tail.drop len ∧ it.next.2.buffer = [] ∧ OneByte it.next.2.reader := by
  obtain ⟨consumed, it₁, hnext, hbuf, hr₁, hten, hlen, htail⟩ := exists_decodeNextLen hr hb hdec
  have hp₁ := decodeNextLen_pending it
  rw [hnext] at hp₁
  have hpend : it₁.pending = it.pending := hp₁
  rw [show it.pending.length - tail.length = consumed by omega] at hroom
  have hsmall : len < 2 ^ 63 := by
    obtain rfl | hpos := Nat.eq_zero_or_pos len
    · omega
    · have hmost := hroom hpos
      unfold mostCapacity at hmost
      exact lt_two_pow (show len ≤ maxAlloc by omega)
  obtain ⟨it₂, hfill, hbuf₂, hr₂⟩ := fillBuffer_oneByte _ it₁ rfl
    (fun _ => by rw [hpend]; exact hroom (by omega)) hr₁ (by omega) (by rw [hpend]; omega)
  have hp₂ := fillBuffer_pending it₁ (consumed + len)
  rw [hfill] at hp₂
  have hpend₂ : it₂.pending = it.pending := hp₂.trans hpend
  have hstate : it.next.2 = { it₂ with buffer := (it₂.buffer.drop consumed).drop len } := by
    simp only [next, hnext]
    rw [if_neg (by unfold usizeMax; omega)]
    simp only [hfill]
  have hnil : (it₂.buffer.drop consumed).drop len = [] := by
    rw [List.drop_drop, List.drop_of_length_le (by omega)]
  rw [hstate, hnil]
  refine ⟨?_, rfl, hr₂⟩
  rw [htail, List.drop_drop, ← hpend₂, pending, pending, ← hbuf₂, List.drop_left]
  rfl

/-- A message for which there is no room is a panic. -/
theorem next_oneByte_panics (hr : OneByte it.reader) (hb : it.buffer = [])
    (hdec : Varint.decode it.pending = some (len, tail)) (hpos : 0 < len)
    (hlarge : maxAlloc < mostCapacity (it.pending.length - tail.length + len) it.pending.length) :
    it.next.1 = .panicked := by
  obtain ⟨consumed, it₁, hnext, hbuf, hr₁, hten, hlen, -⟩ := exists_decodeNextLen hr hb hdec
  have hp₁ := decodeNextLen_pending it
  rw [hnext] at hp₁
  have hpend : it₁.pending = it.pending := hp₁
  rw [show it.pending.length - tail.length = consumed by omega] at hlarge
  unfold mostCapacity at hlarge
  simp only [next, hnext]
  split_ifs
  · rfl
  · have hnone := fillBuffer_oneByte_panics
      (show min (consumed + len - 1) it.pending.length < consumed + len by omega) (by omega) _ it₁
      rfl hr₁ (by omega) (by rw [hpend]; omega)
    rcases hfill : it₁.fillBuffer (consumed + len) with ⟨_ | b, it₂⟩
    · rfl
    · rw [hfill] at hnone
      cases hnone

end OneByte

/-- Some calls at the start of the file take its first messages off, a byte at a time. -/
theorem exists_afterCalls {bytes rest : List UInt8} (h : AfterMessages bytes rest)
    (it : ProtoMessageIterator M) (hr : OneByte it.reader) (hb : it.buffer = [])
    (hp : it.pending = bytes) (hs : ∀ n, (it.afterCalls n).next.1 ≠ .panicked) :
    ∃ n, (it.afterCalls n).pending = rest ∧ (it.afterCalls n).buffer = [] ∧
      OneByte (it.afterCalls n).reader := by
  induction h with
  | start => exact ⟨0, hp, hb, hr⟩
  | message _ decoded le ih =>
    obtain ⟨n, hpn, hbn, hrn⟩ := ih
    rw [← hpn] at decoded
    refine ⟨n + 1, next_oneByte hrn hbn decoded le fun hpos => ?_⟩
    by_contra hlarge
    exact hs n (next_oneByte_panics hrn hbn decoded hpos (by omega))

variable (M) in
/-- **Every call survives**, however the reads are cut, exactly when a buffer for every message can
be allocated. -/
theorem survives_iff (bytes : List UInt8) : Survives M bytes ↔ AllocatableLengths bytes := by
  constructor
  · intro h rest hafter len tail hdec hpos
    have hs := h ⟨bytes, fun _ => .atMost 1⟩ rfl
    obtain ⟨n, hp, hb, hr⟩ := exists_afterCalls hafter (new ⟨bytes, fun _ => .atMost 1⟩)
      (fun _ => rfl) rfl rfl fun n => (hs n).returns
    rw [← hp] at hdec ⊢
    by_contra hlarge
    exact (hs n).returns (next_oneByte_panics hr hb hdec hpos (by omega))
  · rintro h reader hrest n
    have hp : (new reader : ProtoMessageIterator M).pending = bytes := hrest
    exact callSurvives_of_allocatable (afterMessages_afterCalls hp n) h

omit [Memory] in
/-- A length of `2 ^ 63` bytes and nothing after it, on a machine that serves sixteen gigabytes. -/
theorem not_survives : ¬ @Survives Bool .sixteenGiB _ (Varint.encode (2 ^ 63)) := by
  let _ : Memory := .sixteenGiB
  intro h
  have hdec := Varint.decode_encode_append (n := 2 ^ 63) (by decide) []
  rw [List.append_nil] at hdec
  have hs := (h ⟨_, fun _ => .atMost 1⟩ rfl 0).returns
  have hlarge : 2 ^ 34 < (Varint.encode (2 ^ 63)).length - 0 + 2 ^ 63 := by omega
  exact hs (next_oneByte_panics (fun _ => rfl) rfl hdec (by decide)
    (hlarge.trans_le (le_max_left _ _)))

end ProtoMessageIterator

end TypeDBDriver.Migration
