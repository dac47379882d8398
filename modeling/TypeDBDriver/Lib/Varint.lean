import Mathlib.Tactic.Ring

/-!
# Base-128 varints

Seven payload bits per byte, least significant group first, the top bit of a byte set when
another byte follows. A reader accepts at most ten bytes and no value of more than 64 bits.

* `encode`, `decode`: the writer, and the reader of a prefix of a byte list.
* `encode_length_le`: a 64-bit value takes at most ten bytes.
* **`decode_encode_append`**: the reader undoes the writer, whatever follows.
* **`decode_append`**, `decode_take`: a value is read the same off a part and off the whole.
* **`decode_take_encode`**: no strict prefix of an encoding is accepted.
-/

namespace Varint

/-- The writer. -/
def encode (n : ℕ) : List UInt8 :=
  if n < 128 then [UInt8.ofNat n] else UInt8.ofNat (n % 128 + 128) :: encode (n / 128)

/-- The reader with `k` bytes left to try: the value and the bytes after it. -/
def decodeFrom : ℕ → List UInt8 → Option (ℕ × List UInt8)
  | 0, _ => none
  | _ + 1, [] => none
  | k + 1, b :: bs =>
    if b.toNat < 128 then
      -- the tenth byte carries only the top bit of a 64-bit value
      if k = 0 ∧ 2 ≤ b.toNat then none else some (b.toNat, bs)
    else (decodeFrom k bs).map fun (v, rest) => (b.toNat % 128 + 128 * v, rest)

/-- The longest accepted encoding, in bytes. -/
def maxLen : ℕ := 10

/-- The reader. -/
def decode (bs : List UInt8) : Option (ℕ × List UInt8) := decodeFrom maxLen bs

/-- The values a reader with `k` bytes left can still return are below `room k`. -/
def room : ℕ → ℕ
  | 0 => 0
  | k + 1 => 2 ^ (7 * k + 1)

theorem room_maxLen : room maxLen = 2 ^ 64 := rfl

theorem div_lt_room {k n : ℕ} (h : n < room (k + 1)) (hn : 128 ≤ n) : n / 128 < room k := by
  cases k with
  | zero =>
    have : n < 2 := h
    omega
  | succ k =>
    rw [room, Nat.div_lt_iff_lt_mul (by omega)]
    calc n < 2 ^ (7 * (k + 1) + 1) := h
      _ = 2 ^ (7 * k + 1) * 128 := by ring

theorem encode_of_lt {n : ℕ} (h : n < 128) : encode n = [UInt8.ofNat n] := by
  rw [encode, if_pos h]

theorem encode_of_le {n : ℕ} (h : 128 ≤ n) :
    encode n = UInt8.ofNat (n % 128 + 128) :: encode (n / 128) := by
  rw [encode, if_neg (by omega)]

theorem toNat_ofNat {n : ℕ} (h : n < 256) : (UInt8.ofNat n).toNat = n := by
  rw [UInt8.toNat_ofNat']; omega

theorem encode_length_le : ∀ {k n : ℕ}, n < room k → (encode n).length ≤ k
  | 0, n, h => absurd h (Nat.not_lt_zero n)
  | k + 1, n, h => by
    by_cases hn : n < 128
    · rw [encode_of_lt hn]; simp
    · rw [encode_of_le (by omega), List.length_cons]
      have := encode_length_le (div_lt_room h (by omega))
      omega

/-- The reader consumes something. -/
theorem decodeFrom_length_lt : ∀ {k v : ℕ} {bs rest : List UInt8},
    decodeFrom k bs = some (v, rest) → rest.length < bs.length
  | 0, v, bs, rest, h => by cases h
  | k + 1, v, [], rest, h => by cases h
  | k + 1, v, b :: bs, rest, h => by
    unfold decodeFrom at h
    split_ifs at h
    · obtain ⟨-, rfl⟩ := Prod.mk.inj (Option.some.inj h)
      exact Nat.lt_succ_self _
    · obtain ⟨⟨w, rest'⟩, hw, h⟩ := Option.map_eq_some_iff.mp h
      obtain ⟨-, rfl⟩ := Prod.mk.inj h
      exact Nat.lt_succ_of_lt (decodeFrom_length_lt hw)

/-- **The reader undoes the writer**, whatever follows. -/
theorem decodeFrom_encode_append (rest : List UInt8) : ∀ {k n : ℕ}, n < room k →
    decodeFrom k (encode n ++ rest) = some (n, rest)
  | 0, n, h => absurd h (Nat.not_lt_zero n)
  | k + 1, n, h => by
    by_cases hn : n < 128
    · have hb : (UInt8.ofNat n).toNat = n := toNat_ofNat (by omega)
      have hlast : ¬ (k = 0 ∧ 2 ≤ n) := by
        rintro ⟨rfl, h2⟩
        have : n < 2 := h
        omega
      rw [encode_of_lt hn, List.cons_append, List.nil_append, decodeFrom, hb, if_pos hn,
        if_neg hlast]
    · have hb : (UInt8.ofNat (n % 128 + 128)).toNat = n % 128 + 128 := toNat_ofNat (by omega)
      have ih := decodeFrom_encode_append rest (div_lt_room h (by omega))
      rw [encode_of_le (by omega), List.cons_append, decodeFrom, hb, if_neg (by omega), ih]
      simp only [Option.map_some, Option.some.injEq, Prod.mk.injEq, and_true]
      omega

theorem decode_encode_append {n : ℕ} (h : n < 2 ^ 64) (rest : List UInt8) :
    decode (encode n ++ rest) = some (n, rest) :=
  decodeFrom_encode_append rest (room_maxLen ▸ h)

/-- What is read stands in front, and is read the same whatever follows. -/
theorem decodeFrom_eq_some : ∀ {k v : ℕ} {bs rest : List UInt8},
    decodeFrom k bs = some (v, rest) →
      ∃ front, bs = front ++ rest ∧ ∀ tail, decodeFrom k (front ++ tail) = some (v, tail)
  | 0, v, bs, rest, h => by cases h
  | k + 1, v, [], rest, h => by cases h
  | k + 1, v, b :: bs, rest, h => by
    unfold decodeFrom at h
    split_ifs at h with hb hlast
    · obtain ⟨rfl, rfl⟩ := Prod.mk.inj (Option.some.inj h)
      refine ⟨[b], rfl, fun tail => ?_⟩
      rw [List.singleton_append, decodeFrom, if_pos hb, if_neg hlast]
    · obtain ⟨⟨w, rest'⟩, hw, h⟩ := Option.map_eq_some_iff.mp h
      obtain ⟨rfl, rfl⟩ := Prod.mk.inj h
      obtain ⟨front, rfl, hf⟩ := decodeFrom_eq_some hw
      refine ⟨b :: front, rfl, fun tail => ?_⟩
      rw [List.cons_append, decodeFrom, if_neg hb, hf]
      rfl

/-- **A value that is read off a part is read off the whole.** -/
theorem decode_append {v : ℕ} {bs rest : List UInt8} (h : decode bs = some (v, rest))
    (tail : List UInt8) : decode (bs ++ tail) = some (v, rest ++ tail) := by
  obtain ⟨front, rfl, hf⟩ := decodeFrom_eq_some h
  rw [List.append_assoc]
  exact hf _

/-- A part that is long enough is read as the whole is. -/
theorem decode_take {v n : ℕ} {bs rest : List UInt8} (h : decode bs = some (v, rest))
    (hn : bs.length ≤ n + rest.length) :
    decode (bs.take n) = some (v, rest.take (n + rest.length - bs.length)) := by
  obtain ⟨front, rfl, hf⟩ := decodeFrom_eq_some h
  rw [List.length_append] at hn ⊢
  rw [List.take_append, List.take_of_length_le (by omega),
    show n + rest.length - (front.length + rest.length) = n - front.length by omega]
  exact hf _

/-- Ten bytes are enough to be read, if they ever are. -/
theorem decodeFrom_length_le : ∀ {k v : ℕ} {bs rest : List UInt8},
    decodeFrom k bs = some (v, rest) → bs.length ≤ k + rest.length
  | 0, v, bs, rest, h => by cases h
  | k + 1, v, [], rest, h => by cases h
  | k + 1, v, b :: bs, rest, h => by
    unfold decodeFrom at h
    split_ifs at h
    · obtain ⟨-, rfl⟩ := Prod.mk.inj (Option.some.inj h)
      rw [List.length_cons]
      omega
    · obtain ⟨⟨w, rest'⟩, hw, h⟩ := Option.map_eq_some_iff.mp h
      obtain ⟨-, rfl⟩ := Prod.mk.inj h
      have := decodeFrom_length_le hw
      rw [List.length_cons]
      omega

/-- A strict prefix of an encoding is not accepted. -/
theorem decodeFrom_take_encode : ∀ {k n i : ℕ}, i < (encode n).length →
    decodeFrom k ((encode n).take i) = none
  | 0, _, _, _ => rfl
  | _ + 1, _, 0, _ => rfl
  | k + 1, n, i + 1, h => by
    by_cases hn : n < 128
    · rw [encode_of_lt hn] at h
      simp at h
    · have hb : (UInt8.ofNat (n % 128 + 128)).toNat = n % 128 + 128 := toNat_ofNat (by omega)
      rw [encode_of_le (by omega), List.length_cons] at h
      have ih : decodeFrom k ((encode (n / 128)).take i) = none :=
        decodeFrom_take_encode (by omega)
      rw [encode_of_le (by omega), List.take_succ_cons, decodeFrom, hb, if_neg (by omega), ih]
      rfl

theorem decode_take_encode {n i : ℕ} (h : i < (encode n).length) :
    decode ((encode n).take i) = none :=
  decodeFrom_take_encode h

end Varint
