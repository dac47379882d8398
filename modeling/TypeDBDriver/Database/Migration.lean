import TypeDBDriver.Common.Error
import TypeDBDriver.Lib.ChunkedReader
import TypeDBDriver.Lib.Varint

/-!
# The migration file format

An export file is a concatenation of length-delimited protobuf messages.

* `Memory`: how large the buffers are that the machine can allocate, as a parameter.
* `Message`, `LawfulMessage`, `encodeLengthDelimited`: the protobuf library, as a parameter.
* `ProtoMessageIterator`, `readMore`, `decodeNextLen`, `fillBuffer`, `next`: the reader of such a
  file, over a reader that splits the file's bytes as it likes.
* `pending`, `readMore_spec`: buffered and unread bytes together are what the file still holds.
* **`next_of_pending`**: on a file that starts with an encoded message, `next` returns it and
  leaves the rest of the file pending.
* **`collect_export_file`**: on the encodings of a list of messages, the iterator returns exactly
  these messages and then `None`, however the reads are cut.
-/

namespace TypeDBDriver.Migration

open ChunkedReader

def usizeMax : ℕ := 2 ^ 64 - 1

/-- No allocation is larger than this. -/
def isizeMax : ℕ := 2 ^ 63 - 1

def bufCapacity : ℕ := 8 * 1024

def maxLengthDelimiterLen : ℕ := 10

/-- The memory of a machine: a buffer with room for up to `maxAlloc` bytes can be had (with the spare
room that the library adds to it), and asking for more ends the program. The buffer that a length is
read into can be had. -/
class Memory where
  maxAlloc : ℕ
  le_isizeMax : maxAlloc ≤ isizeMax
  le_maxAlloc : maxLengthDelimiterLen + bufCapacity ≤ maxAlloc

namespace Memory

variable [Memory]

theorem maxLengthDelimiterLen_le : maxLengthDelimiterLen ≤ maxAlloc :=
  (Nat.le_add_right ..).trans le_maxAlloc

theorem lt_two_pow {n : ℕ} (h : n ≤ maxAlloc) : n < 2 ^ 63 :=
  (h.trans le_isizeMax).trans_lt (by decide)

end Memory

open Memory

/-- A message type of the protobuf library. -/
class Message (M : Type) where
  encode : M → List UInt8
  decode : List UInt8 → Option M

/-- The library's encoding can be decoded, and fits in memory with its length in front and what is
read ahead behind it. -/
class LawfulMessage (M : Type) [Message M] [Memory] : Prop where
  decode_encode (m : M) : Message.decode (Message.encode m) = some m
  encode_length_le (m : M) :
    maxLengthDelimiterLen + (Message.encode m).length + bufCapacity ≤ maxAlloc

variable {M : Type} [Message M]

/-- A message with its length in front. -/
def encodeLengthDelimited (m : M) : List UInt8 :=
  Varint.encode (Message.encode m).length ++ Message.encode m

/-- The contents of an export file. -/
def encodeAll (ms : List M) : List UInt8 := (ms.map encodeLengthDelimited).flatten

structure ProtoMessageIterator (M : Type) where
  reader : Reader
  buffer : List UInt8

/-- What `readMore` returns; `panicked` for an allocation that cannot be made, which panics or
aborts. -/
inductive ReadMore
  | read (bytesRead : ℕ)
  | failed
  | panicked
  deriving DecidableEq

/-- What `decodeNextLen` returns. -/
inductive NextLen
  | len (len consumed : ℕ)
  | eof
  | err (error : Error)
  | panicked
  deriving DecidableEq

/-- What a call of `next` returns: `None`, `Some` of a result, or it panics. -/
inductive Next (M : Type)
  | done
  | item (result : Result M)
  | panicked

namespace ProtoMessageIterator

def new (reader : Reader) : ProtoMessageIterator M := ⟨reader, []⟩

/-- What the file still holds: the buffered bytes, then those not read yet. -/
def pending (it : ProtoMessageIterator M) : List UInt8 := it.buffer ++ it.reader.rest

variable [Memory]

/-- The buffer must have room for the bytes to read beside those it holds. -/
def readMore (it : ProtoMessageIterator M) (bytesToRead : ℕ) : ReadMore × ProtoMessageIterator M :=
  if maxAlloc < it.buffer.length + bytesToRead then (.panicked, it)
  else
    match it.reader.read (max bytesToRead 1) with
    | (none, reader) => (.failed, { it with reader })
    | (some addition, reader) => (.read addition.length, ⟨reader, it.buffer ++ addition⟩)

omit [Message M] in
theorem readMore_spec {it it' : ProtoMessageIterator M} {asked n : ℕ}
    (h : it.readMore asked = (.read n, it')) :
    it'.pending = it.pending ∧ it'.buffer.length = it.buffer.length + n ∧
      it.buffer <+: it'.buffer ∧ (n = 0 → it.reader.rest = []) := by
  unfold readMore at h
  split_ifs at h with hcap
  · simp at h
  · cases hr : it.reader.read (max asked 1) with
    | mk res reader =>
      cases res with
      | none => simp [hr] at h
      | some bs =>
        simp only [hr, Prod.mk.injEq, ReadMore.read.injEq] at h
        obtain ⟨rfl, rfl⟩ := h
        obtain ⟨hrest, -, hempty⟩ := Reader.read_eq_some hr
        refine ⟨?_, List.length_append, List.prefix_append _ _, fun h0 => ?_⟩
        · rw [pending, pending, List.append_assoc, hrest]
        · rcases hempty (List.eq_nil_of_length_eq_zero h0) with h | h
          · omega
          · exact h

omit [Message M] in
theorem readMore_length_lt {it it' : ProtoMessageIterator M} {asked n : ℕ}
    (h : it.readMore asked = (.read (n + 1), it')) : it.buffer.length < it'.buffer.length := by
  have := (readMore_spec h).2.1
  omega

def decodeNextLen (it : ProtoMessageIterator M) : NextLen × ProtoMessageIterator M :=
  match Varint.decode it.buffer with
  | some (len, cursor) => (.len len (it.buffer.length - cursor.length), it)
  | none =>
    if _hlen : maxLengthDelimiterLen ≤ it.buffer.length then
      (.err (.migration .cannotDecodeImportedConceptLength), it)
    else
      match _hread : it.readMore (maxLengthDelimiterLen - it.buffer.length) with
      | (.read 0, it') =>
        (if it'.buffer.isEmpty then .eof
          else .err (.migration .cannotDecodeImportedConceptLength), it')
      | (.failed, it') => (.err (.migration .cannotDecodeImportedConceptLength), it')
      | (.panicked, it') => (.panicked, it')
      | (.read (_ + 1), it') => it'.decodeNextLen
termination_by maxLengthDelimiterLen - it.buffer.length
decreasing_by
  have := readMore_length_lt _hread
  omega

/-- The loop of `next` that reads until `required` bytes are buffered: `true` when they are,
`false` when the reader failed or the file ended; `none` when it panics. -/
def fillBuffer (it : ProtoMessageIterator M) (required : ℕ) :
    Option Bool × ProtoMessageIterator M :=
  if _hlen : required ≤ it.buffer.length then (some true, it)
  else
    match _hread : it.readMore (max (required - it.buffer.length) bufCapacity) with
    | (.read 0, it') => (some false, it')
    | (.failed, it') => (some false, it')
    | (.panicked, it') => (none, it')
    | (.read (_ + 1), it') => it'.fillBuffer required
termination_by required - it.buffer.length
decreasing_by
  have := readMore_length_lt _hread
  omega

def next (it : ProtoMessageIterator M) : Next M × ProtoMessageIterator M :=
  match it.decodeNextLen with
  | (.eof, it) => (.done, it)
  | (.err e, it) => (.item (.error e), it)
  | (.panicked, it) => (.panicked, it)
  | (.len messageLen consumed, it) =>
    -- the sum overflows: a panic with overflow checks, otherwise it wraps around to less than
    -- `consumed` and the split below panics
    if usizeMax < consumed + messageLen then (.panicked, it)
    else
      match it.fillBuffer (consumed + messageLen) with
      | (none, it) => (.panicked, it)
      | (some false, it) => (.item (.error (.migration .cannotDecodeImportedConcept)), it)
      | (some true, it) =>
        let buffer := it.buffer.drop consumed
        let messageBytes := buffer.take messageLen
        (.item (match Message.decode messageBytes with
          | some m => .ok m
          | none => .error (.migration .cannotDecodeImportedConcept)),
          { it with buffer := buffer.drop messageLen })

/-- What the first `n` calls of `next` return. -/
def collect (it : ProtoMessageIterator M) : ℕ → List (Next M)
  | 0 => []
  | n + 1 => it.next.1 :: it.next.2.collect n

omit [Message M] in
/-- Reading a length goes on with what was read. -/
theorem decodeNextLen_read {it it' : ProtoMessageIterator M} {n : ℕ}
    (hdec : Varint.decode it.buffer = none) (hlen : it.buffer.length < maxLengthDelimiterLen)
    (hread : it.readMore (maxLengthDelimiterLen - it.buffer.length) = (.read (n + 1), it')) :
    it.decodeNextLen = it'.decodeNextLen := by
  rw [decodeNextLen, hdec]
  dsimp only
  rw [dif_neg (by omega)]
  split
  all_goals
    rename_i heq
    rw [hread] at heq
    cases heq
  rfl

omit [Message M] in
/-- Reading a message goes on with what was read. -/
theorem fillBuffer_read {it it' : ProtoMessageIterator M} {required n : ℕ}
    (hlen : it.buffer.length < required)
    (hread : it.readMore (max (required - it.buffer.length) bufCapacity) = (.read (n + 1), it')) :
    it.fillBuffer required = it'.fillBuffer required := by
  rw [fillBuffer, dif_neg (by omega)]
  split
  all_goals
    rename_i heq
    rw [hread] at heq
    cases heq
  rfl

/-! ## Reading any file -/

omit [Message M] in
/-- A length that was decoded stands at the start of the buffer. -/
theorem decodeNextLen_len (it : ProtoMessageIterator M) {len consumed : ℕ}
    {it' : ProtoMessageIterator M} (h : it.decodeNextLen = (.len len consumed, it')) :
    it'.pending = it.pending ∧ 0 < consumed ∧ consumed ≤ it'.buffer.length := by
  fun_induction decodeNextLen it with
  | case1 it len' cursor hdec =>
    obtain ⟨hlen, rfl⟩ := Prod.mk.inj h
    obtain ⟨rfl, rfl⟩ := NextLen.len.inj hlen
    have := Varint.decodeFrom_length_lt hdec
    exact ⟨rfl, by omega, by omega⟩
  | case2 | case4 | case5 => cases h
  | case3 =>
    have := (Prod.mk.inj h).1
    split_ifs at this
  | case6 it hdec hlen n it₁ hread ih =>
    obtain ⟨hp, hrest⟩ := ih h
    exact ⟨hp.trans (readMore_spec hread).1, hrest⟩

omit [Message M] in
theorem fillBuffer_true (it : ProtoMessageIterator M) {required : ℕ}
    {it' : ProtoMessageIterator M} (h : it.fillBuffer required = (some true, it')) :
    it'.pending = it.pending ∧ required ≤ it'.buffer.length := by
  fun_induction fillBuffer it required with
  | case1 it hlen =>
    obtain ⟨-, rfl⟩ := Prod.mk.inj h
    exact ⟨rfl, hlen⟩
  | case2 | case3 | case4 => cases h
  | case5 it hlen n it₁ hread ih =>
    obtain ⟨hp, hrest⟩ := ih h
    exact ⟨hp.trans (readMore_spec hread).1, hrest⟩

/-- Every message takes something off the file. -/
theorem next_pending_lt {it it' : ProtoMessageIterator M} {m : M}
    (h : it.next = (.item (.ok m), it')) : it'.pending.length < it.pending.length := by
  unfold next at h
  split at h
  · cases h
  · cases h
  · cases h
  · rename_i len consumed it₁ hlen
    obtain ⟨hp₁, hpos, -⟩ := decodeNextLen_len it hlen
    split_ifs at h
    · cases h
    split at h
    · cases h
    · cases h
    · rename_i it₂ hfill
      obtain ⟨hp₂, hreq⟩ := fillBuffer_true it₁ hfill
      obtain ⟨-, rfl⟩ := Prod.mk.inj h
      rw [← hp₁, ← hp₂]
      simp only [pending, List.length_append, List.length_drop]
      omega

/-- The messages that the iterator yields before anything else, and what it yields then. -/
def fileItems (it : ProtoMessageIterator M) : List M × Next M :=
  match _hnext : it.next with
  | (.item (.ok m), it') => (m :: it'.fileItems.1, it'.fileItems.2)
  | (last, _) => ([], last)
termination_by it.pending.length
decreasing_by
  all_goals exact next_pending_lt _hnext

theorem fileItems_of_item {it it' : ProtoMessageIterator M} {m : M}
    (h : it.next = (.item (.ok m), it')) :
    it.fileItems = (m :: it'.fileItems.1, it'.fileItems.2) := by
  rw [fileItems]
  split
  · rename_i heq
    rw [h] at heq
    cases heq
    rfl
  · rename_i hne heq
    rw [h] at heq
    cases heq
    exact absurd rfl (hne m)

theorem fileItems_of_end {it it' : ProtoMessageIterator M} {last : Next M}
    (h : it.next = (last, it')) (hlast : ∀ m, last ≠ .item (.ok m)) :
    it.fileItems = ([], last) := by
  rw [fileItems]
  split
  · rename_i m _ heq
    rw [h] at heq
    cases heq
    exact absurd rfl (hlast m)
  · rename_i heq
    rw [h] at heq
    cases heq
    rfl

/-! ## Reading a well-formed file -/

omit [Message M] in
theorem readMore_faultless {it : ProtoMessageIterator M} (hr : it.reader.Faultless) (asked : ℕ)
    (hcap : it.buffer.length + asked ≤ maxAlloc) :
    ∃ n it', it.readMore asked = (.read n, it') ∧ it'.reader.Faultless := by
  obtain ⟨bs, hbs, hfault⟩ := hr.read (max asked 1)
  refine ⟨bs.length, ⟨(it.reader.read (max asked 1)).2, it.buffer ++ bs⟩, ?_, hfault⟩
  rw [readMore, if_neg (by omega)]
  rw [show it.reader.read (max asked 1) = (some bs, (it.reader.read (max asked 1)).2) from
    Prod.ext hbs rfl]

theorem encode_length_le_maxLen {len : ℕ} (h : len ≤ maxAlloc) :
    (Varint.encode len).length ≤ maxLengthDelimiterLen := by
  refine Varint.encode_length_le ?_
  have hroom : isizeMax < Varint.room maxLengthDelimiterLen := by decide
  exact (h.trans le_isizeMax).trans_lt hroom

omit [Message M] in
theorem decodeNextLen_of_pending {len : ℕ} (hlen : len ≤ maxAlloc) (tail : List UInt8) :
    ∀ (k : ℕ) (it : ProtoMessageIterator M), maxLengthDelimiterLen - it.buffer.length = k →
      it.reader.Faultless → it.pending = Varint.encode len ++ tail →
      ∃ it', it.decodeNextLen = (.len len (Varint.encode len).length, it') ∧
        it'.pending = it.pending ∧ it'.reader.Faultless ∧
        (Varint.encode len).length ≤ it'.buffer.length := by
  intro k
  induction k using Nat.strongRecOn with
  | ind k ih =>
  intro it hk hr hp
  have hdelim := encode_length_le_maxLen hlen
  have hpre : Varint.encode len <+: it.pending := hp ▸ List.prefix_append _ _
  by_cases hbuf : (Varint.encode len).length ≤ it.buffer.length
  · -- the whole prefix is buffered
    obtain ⟨rest, hrest⟩ := List.prefix_of_prefix_length_le hpre (List.prefix_append _ _) hbuf
    have hdec := Varint.decode_encode_append (n := len) (by have := lt_two_pow hlen; omega) rest
    refine ⟨it, ?_, rfl, hr, hbuf⟩
    rw [decodeNextLen, ← hrest, hdec]
    simp only [List.length_append, Nat.add_sub_cancel]
  · -- the buffer holds a strict part of it: read on
    obtain ⟨rest, hrest⟩ := List.prefix_of_prefix_length_le (List.prefix_append _ _) hpre
      (by omega : it.buffer.length ≤ (Varint.encode len).length)
    have htake : it.buffer = (Varint.encode len).take it.buffer.length := by
      rw [← hrest, List.take_left]
    have hdec : Varint.decode it.buffer = none := by
      rw [htake]
      exact Varint.decode_take_encode (by omega)
    obtain ⟨n, it', hread, hr'⟩ := readMore_faultless hr
      (maxLengthDelimiterLen - it.buffer.length)
      (by have := maxLengthDelimiterLen_le; omega)
    obtain ⟨hp', hlen', -, h0⟩ := readMore_spec hread
    have hrest0 : it.reader.rest ≠ [] := by
      intro h
      have := congrArg List.length hp
      rw [pending, h, List.append_nil, List.length_append] at this
      omega
    obtain ⟨m, rfl⟩ : ∃ m, n = m + 1 := Nat.exists_eq_succ_of_ne_zero fun h => hrest0 (h0 h)
    obtain ⟨it'', hdec'', hp'', hr'', hbuf''⟩ :=
      ih (maxLengthDelimiterLen - it'.buffer.length) (by omega) it' rfl hr' (hp'.trans hp)
    refine ⟨it'', ?_, hp''.trans hp', hr'', hbuf''⟩
    rw [decodeNextLen_read hdec (by omega) hread, hdec'']

omit [Message M] in
theorem fillBuffer_of_pending {required : ℕ} (hcap : required + bufCapacity ≤ maxAlloc) :
    ∀ (k : ℕ) (it : ProtoMessageIterator M), required - it.buffer.length = k →
      it.reader.Faultless → required ≤ it.pending.length →
      ∃ it', it.fillBuffer required = (some true, it') ∧ it'.pending = it.pending ∧
        it'.reader.Faultless ∧ required ≤ it'.buffer.length := by
  intro k
  induction k using Nat.strongRecOn with
  | ind k ih =>
  intro it hk hr hp
  by_cases hbuf : required ≤ it.buffer.length
  · exact ⟨it, by rw [fillBuffer, dif_pos hbuf], rfl, hr, hbuf⟩
  · obtain ⟨n, it', hread, hr'⟩ := readMore_faultless hr
      (max (required - it.buffer.length) bufCapacity) (by omega)
    obtain ⟨hp', hlen', -, h0⟩ := readMore_spec hread
    have hrest0 : it.reader.rest ≠ [] := by
      intro h
      rw [pending, h, List.append_nil] at hp
      omega
    obtain ⟨m, rfl⟩ : ∃ m, n = m + 1 := Nat.exists_eq_succ_of_ne_zero fun h => hrest0 (h0 h)
    obtain ⟨it'', hfill, hp'', hr'', hbuf''⟩ :=
      ih (required - it'.buffer.length) (by omega) it' rfl hr' (hp' ▸ hp)
    refine ⟨it'', ?_, hp''.trans hp', hr'', hbuf''⟩
    rw [fillBuffer_read (by omega) hread, hfill]

/-- **One message.** On a file that starts with an encoded message, `next` returns it. -/
theorem next_of_pending [LawfulMessage M] {it : ProtoMessageIterator M} {m : M}
    (tail : List UInt8) (hr : it.reader.Faultless)
    (hp : it.pending = encodeLengthDelimited m ++ tail) :
    ∃ it', it.next = (.item (.ok m), it') ∧ it'.pending = tail ∧ it'.reader.Faultless := by
  have hroom := LawfulMessage.encode_length_le m
  have hm : (Message.encode m).length ≤ maxAlloc := by omega
  have hsmall := lt_two_pow hm
  have hdelim := encode_length_le_maxLen hm
  rw [encodeLengthDelimited, List.append_assoc] at hp
  obtain ⟨it₁, hlen, hp₁, hr₁, hbuf₁⟩ := decodeNextLen_of_pending hm _ _ it rfl hr hp
  have hcap : (Varint.encode (Message.encode m).length).length + (Message.encode m).length +
      bufCapacity ≤ maxAlloc := by omega
  obtain ⟨it₂, hfill, hp₂, hr₂, hbuf₂⟩ := fillBuffer_of_pending hcap _ it₁ rfl hr₁
    (by rw [hp₁, hp]; simp)
  -- what is buffered starts with the length and the message
  have hpre : Varint.encode (Message.encode m).length ++ Message.encode m <+: it₂.buffer := by
    have hwhole : Varint.encode (Message.encode m).length ++ Message.encode m <+: it₂.pending := by
      rw [hp₂, hp₁, hp, ← List.append_assoc]
      exact List.prefix_append _ _
    refine List.prefix_of_prefix_length_le hwhole (List.prefix_append _ _) ?_
    rw [List.length_append]
    exact hbuf₂
  obtain ⟨rest, hrest⟩ := hpre
  have hdrop : it₂.buffer.drop (Varint.encode (Message.encode m).length).length =
      Message.encode m ++ rest := by
    rw [← hrest, List.append_assoc, List.drop_left]
  refine ⟨{ it₂ with buffer := rest }, ?_, ?_, hr₂⟩
  · simp only [next, hlen]
    rw [if_neg (by unfold usizeMax maxLengthDelimiterLen at *; omega)]
    simp only [hfill, hdrop, List.take_left, List.drop_left, LawfulMessage.decode_encode]
  · have h := hp₂.trans (hp₁.trans hp)
    rw [pending, ← hrest, List.append_assoc, List.append_assoc] at h
    exact List.append_cancel_left (List.append_cancel_left h)

theorem next_of_pending_nil {it : ProtoMessageIterator M} (hr : it.reader.Faultless)
    (hp : it.pending = []) :
    ∃ it', it.next = (.done, it') ∧ it'.pending = [] ∧ it'.reader.Faultless := by
  obtain ⟨hbuf, hrest⟩ := List.append_eq_nil_iff.mp hp
  obtain ⟨n, it', hread, hr'⟩ := readMore_faultless hr
    (maxLengthDelimiterLen - it.buffer.length)
    (by rw [hbuf]; exact maxLengthDelimiterLen_le)
  obtain ⟨hp', hlen', -, -⟩ := readMore_spec hread
  have hpn : it'.buffer.length ≤ it'.pending.length := (List.prefix_append _ _).length_le
  rw [hp', hp, List.length_nil] at hpn
  obtain rfl : n = 0 := by omega
  have hnil : it'.buffer = [] := List.eq_nil_of_length_eq_zero (by omega)
  refine ⟨it', ?_, hp'.trans hp, hr'⟩
  have hdec : it.decodeNextLen = (.eof, it') := by
    rw [decodeNextLen, hbuf, show Varint.decode [] = none from rfl]
    simp only
    rw [dif_neg (by simp [maxLengthDelimiterLen])]
    rw [hbuf] at hread
    split
    all_goals rename_i heq; rw [hread] at heq
    · obtain ⟨-, rfl⟩ := Prod.mk.inj heq
      simp [hnil]
    · simp at heq
    · simp at heq
    · simp at heq
  simp only [next, hdec]

theorem collect_of_pending [LawfulMessage M] (k : ℕ) :
    ∀ (ms : List M) (it : ProtoMessageIterator M), it.reader.Faultless →
      it.pending = encodeAll ms →
      it.collect (ms.length + k) = ms.map (fun m => .item (.ok m)) ++ List.replicate k .done
  | [], it, hr, hp => by
    induction k generalizing it with
    | zero => rfl
    | succ k ih =>
      obtain ⟨it', hnext, hp', hr'⟩ := next_of_pending_nil hr hp
      simp only [List.length_nil, Nat.zero_add, List.map_nil, List.nil_append] at ih ⊢
      rw [collect, hnext, ih it' hr' hp', List.replicate_succ]
  | m :: ms, it, hr, hp => by
    obtain ⟨it', hnext, hp', hr'⟩ := next_of_pending (encodeAll ms) hr hp
    rw [List.length_cons, Nat.add_right_comm, collect, hnext,
      collect_of_pending k ms it' hr' hp', List.map_cons, List.cons_append]

/-- The items of an export file are those that were written, and then the file ends. -/
theorem fileItems_of_pending [LawfulMessage M] :
    ∀ (ms : List M) (it : ProtoMessageIterator M), it.reader.Faultless →
      it.pending = encodeAll ms → it.fileItems = (ms, .done)
  | [], it, hr, hp => by
    obtain ⟨it', hnext, -, -⟩ := next_of_pending_nil hr hp
    exact fileItems_of_end hnext nofun
  | m :: ms, it, hr, hp => by
    obtain ⟨it', hnext, hp', hr'⟩ := next_of_pending (encodeAll ms) hr hp
    rw [fileItems_of_item hnext, fileItems_of_pending ms it' hr' hp']

/-- **Reading back an export file**, however its reads are cut: exactly the written messages, in
order, and then `None` for ever. -/
theorem collect_export_file [LawfulMessage M] (ms : List M) {reader : Reader}
    (hfile : reader.rest = encodeAll ms) (hr : reader.Faultless) (k : ℕ) :
    (new reader : ProtoMessageIterator M).collect (ms.length + k) =
      ms.map (fun m => .item (.ok m)) ++ List.replicate k .done :=
  collect_of_pending k ms _ hr hfile

end ProtoMessageIterator

/-- A message type with one boolean field. -/
instance : Message Bool where
  encode b := if b then [8, 1] else []
  decode bs := if bs = [] then some false else if bs = [8, 1] then some true else none

/-- A machine that serves up to sixteen gigabytes. -/
abbrev Memory.sixteenGiB : Memory where
  maxAlloc := 2 ^ 34
  le_isizeMax := by decide
  le_maxAlloc := by decide

instance : @LawfulMessage Bool _ .sixteenGiB :=
  @LawfulMessage.mk Bool _ .sixteenGiB (by decide) (by decide)

theorem collect_export_file_bool :
    @ProtoMessageIterator.collect Bool _ .sixteenGiB
        (.new ⟨[2, 8, 1, 0, 2, 8, 1], fun _ => .atMost 1⟩) 4 =
      [.item (.ok true), .item (.ok false), .item (.ok true), .done] :=
  @ProtoMessageIterator.collect_export_file Bool _ .sixteenGiB _ [true, false, true] _
    (by decide +kernel) (fun _ => by simp) 1

end TypeDBDriver.Migration
