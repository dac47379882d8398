import TypeDBDriver.Answer.Json

/-!
# Escaped strings

The bytes between the quotation marks of a printed string. They are put together one by one, and
then taken for UTF-8 without a check.

* `escapedBytes`: the buffer that is taken for UTF-8.
* `Escaped`: bytes in which every quotation mark, backslash and control character is escaped.
* `unescape`, `unescapeBytes`: the characters that an escaped text stands for.
* `escaped_escapedBytes`: every byte is escaped on its own, whatever stands around it.
* `unescapeBytes_escapedBytes`: the escapes are undone.
* **`writeEscapedString_sound`**: the buffer is UTF-8, is escaped, and stands for the string.
-/

namespace TypeDBDriver.JSON

open Json (utf8)

/-! ## The buffer -/

/-- What is passed to `String::from_utf8_unchecked`. -/
def escapedBytes (string : String) : List UInt8 := (utf8 string.toList).flatMap escapeByte

/-- The buffer is the UTF-8 encoding of the escaped characters. -/
theorem escapedBytes_eq (string : String) :
    escapedBytes string = utf8 (string.toList.flatMap escapeChar) :=
  (utf8_escaped string.toList).symm

theorem escapedBytes_isValidUTF8 (string : String) :
    (escapedBytes string).toByteArray.IsValidUTF8 := by
  rw [escapedBytes_eq]
  exact ByteArray.isValidUTF8_utf8Encode

/-! ## Escapes in bytes -/

/-- The bytes after a backslash that make an escape with it. -/
def shortEscapes : List UInt8 := utf8 "\"\\/bfnrt".toList

/-- `HEXDIG`. -/
def isHexDigit (byte : UInt8) : Bool := (Json.hexValue (Char.ofNat byte.toNat)).isSome

/-- A byte that stands for itself. -/
def isPlain (byte : UInt8) : Bool :=
  asciiControl ≤ byte.toNat && byte != '"'.toUInt8 && byte != '\\'.toUInt8

/-- Every byte stands for itself or belongs to an escape. -/
inductive Escaped : List UInt8 → Prop
  | nil : Escaped []
  | plain {byte : UInt8} {rest : List UInt8} (h : isPlain byte = true) (hrest : Escaped rest) :
      Escaped (byte :: rest)
  | short {byte : UInt8} {rest : List UInt8} (h : byte ∈ shortEscapes) (hrest : Escaped rest) :
      Escaped ('\\'.toUInt8 :: byte :: rest)
  | unicode {a b c d : UInt8} {rest : List UInt8}
      (h : ∀ byte ∈ [a, b, c, d], isHexDigit byte = true) (hrest : Escaped rest) :
      Escaped ('\\'.toUInt8 :: 'u'.toUInt8 :: a :: b :: c :: d :: rest)

theorem mem_shortEscapes_of_escapeTable :
    ∀ n < asciiControl, escapeTable.getD n HEX = HEX ∨ escapeTable.getD n HEX ∈ shortEscapes := by
  decide

theorem isHexDigit_hexDigits : ∀ n < 0x10, isHexDigit (hexDigits.getD n 0) = true := by
  decide

/-- **Every byte is escaped, whatever follows it.** -/
theorem Escaped.escapeByte {rest : List UInt8} (h : Escaped rest) (byte : UInt8) :
    Escaped (escapeByte byte ++ rest) := by
  rw [JSON.escapeByte]
  by_cases hcontrol : byte.toNat < asciiControl
  · rw [if_pos hcontrol]
    dsimp only
    by_cases hhex : escapeTable.getD byte.toNat HEX = HEX
    · rw [if_pos hhex]
      have hlt : byte.toNat < 0x20 := hcontrol
      have hhigh : (byte.toNat &&& 0xF0) >>> 4 < 0x10 := by
        have hle : byte.toNat &&& 0xF0 ≤ byte.toNat := Nat.and_le_left
        rw [Nat.shiftRight_eq_div_pow]
        omega
      have hlow : byte.toNat &&& 0x0F < 0x10 := Nat.lt_of_le_of_lt Nat.and_le_right (by decide)
      refine .unicode ?_ h
      simp only [List.mem_cons, List.not_mem_nil, or_false, forall_eq_or_imp, forall_eq]
      exact ⟨by decide, by decide, isHexDigit_hexDigits _ hhigh, isHexDigit_hexDigits _ hlow⟩
    · rw [if_neg hhex]
      exact .short ((mem_shortEscapes_of_escapeTable _ hcontrol).resolve_left hhex) h
  · rw [if_neg hcontrol]
    by_cases hspecial : byte = '"'.toUInt8 ∨ byte = '\\'.toUInt8
    · rw [if_pos hspecial]
      refine .short ?_ h
      rcases hspecial with rfl | rfl <;> decide
    · rw [if_neg hspecial]
      refine .plain ?_ h
      rw [not_or] at hspecial
      simp [isPlain, hspecial.1, hspecial.2, not_lt.mp hcontrol]

theorem escaped_flatMap (bytes : List UInt8) : Escaped (bytes.flatMap JSON.escapeByte) := by
  induction bytes with
  | nil => exact .nil
  | cons byte bytes ih =>
    rw [List.flatMap_cons]
    exact ih.escapeByte byte

theorem escaped_escapedBytes (string : String) : Escaped (escapedBytes string) :=
  escaped_flatMap (utf8 string.toList)

/-! ## Unescaping -/

/-- The characters that an escaped text stands for; a quotation mark would end the text. -/
def unescape : ℕ → List Char → Option (List Char)
  | _, [] => some []
  | 0, _ :: _ => none
  | fuel + 1, c :: cs =>
    match Json.readChar (c :: cs) with
    | some (some d, rest) => (unescape fuel rest).map (d :: ·)
    | some (none, _) | none => none

/-- The string that escaped bytes stand for, if they are UTF-8. -/
def unescapeBytes (bytes : List UInt8) : Option String :=
  bytes.toByteArray.utf8Decode?.bind fun cs => (unescape cs.size cs.toList).map String.ofList

/-- **The escapes are undone one by one.** -/
theorem unescape_flatMap {s : List Char} {fuel : ℕ} (h : s.length ≤ fuel) :
    unescape fuel (s.flatMap escapeChar) = some s := by
  induction s generalizing fuel with
  | nil => cases fuel <;> rfl
  | cons c s ih =>
    cases fuel with
    | zero => cases h
    | succ fuel =>
      have hread := readChar_escapeChar c (s.flatMap escapeChar)
      obtain ⟨d, ds, hd⟩ := List.exists_cons_of_ne_nil (escapeChar_ne_nil c)
      rw [hd, List.cons_append] at hread
      rw [List.flatMap_cons, hd, List.cons_append, unescape, hread]
      simp only
      rw [ih (Nat.le_of_succ_le_succ h)]
      rfl

theorem unescapeBytes_escapedBytes (string : String) :
    unescapeBytes (escapedBytes string) = some string := by
  have hdecode : (escapedBytes string).toByteArray.utf8Decode? =
      some (string.toList.flatMap escapeChar).toArray := by
    rw [escapedBytes_eq]
    exact List.utf8Decode?_utf8Encode
  rw [unescapeBytes, hdecode, Option.bind_some, List.size_toArray]
  have hfuel := length_le_flatMap_escapeChar string.toList
  rw [unescape_flatMap hfuel, Option.map_some, String.ofList_toList]

/-! ## Soundness -/

/-- **What is printed of a string is a quotation mark, UTF-8 with everything escaped that stands
for the string, and a quotation mark.** -/
theorem writeEscapedString_sound (string : String) :
    writeEscapedString string = utf8 "\"".toList ++ escapedBytes string ++ utf8 "\"".toList ∧
      (escapedBytes string).toByteArray.IsValidUTF8 ∧ Escaped (escapedBytes string) ∧
      unescapeBytes (escapedBytes string) = some string :=
  ⟨rfl, escapedBytes_isValidUTF8 string, escaped_escapedBytes string,
    unescapeBytes_escapedBytes string⟩

/-- The three forms of escapes, around a character of two bytes. -/
example : escapedBytes "é\"\n\x01" = utf8 "é\\\"\\n\\u0001".toList := by decide +kernel

end TypeDBDriver.JSON
