import Mathlib.Tactic.Common

/-!
# Strings that cross the C interface

* `CString`: the bytes before the terminating NUL.
* `releaseString`, `stringView`: a text handed out, and one taken in; `none` is a panic.
* `isSome_releaseString`: a text is handed out just when it contains no NUL.
* **`stringView_of_releaseString`**: a text that was handed out is read back.
-/

namespace TypeDBDriver.Ffi

/-- The bytes that a pointer to a C string leads to, up to the terminating NUL. -/
structure CString where
  bytes : List UInt8
  noNul : 0 ∉ bytes

/-- The UTF-8 bytes of a text. -/
def utf8 (str : String) : List UInt8 := str.toList.flatMap String.utf8EncodeChar

/-- `CString::new(str).unwrap()` -/
def releaseString (str : String) : Option CString :=
  if h : 0 ∉ utf8 str then some ⟨utf8 str, h⟩ else none

/-- The text must be valid UTF-8. -/
def stringView (str : CString) : Option String := String.fromUTF8? str.bytes.toByteArray

def NUL : Char := '\x00'

theorem zero_mem_utf8EncodeChar (c : Char) : 0 ∈ String.utf8EncodeChar c ↔ c = NUL := by
  have hc : c = NUL ↔ c.val.toNat = 0 := by
    rw [← Char.toNat_inj]
    rfl
  have hbyte : ∀ n : ℕ, (0 : UInt8) = UInt8.ofNat n ↔ n % 256 = 0 := fun n => by
    rw [← UInt8.toNat_inj, UInt8.toNat_ofNat']
    exact eq_comm
  rw [hc]
  unfold String.utf8EncodeChar
  dsimp only
  split_ifs
  all_goals
    simp only [List.mem_cons, List.not_mem_nil, or_false, hbyte]
    omega

theorem isSome_releaseString {str : String} :
    (releaseString str).isSome = true ↔ NUL ∉ str.toList := by
  have hmem : 0 ∈ utf8 str ↔ NUL ∈ str.toList := by
    rw [utf8, List.mem_flatMap]
    constructor
    · rintro ⟨c, hc, hzero⟩
      rwa [← (zero_mem_utf8EncodeChar c).mp hzero]
    · intro h
      exact ⟨NUL, h, (zero_mem_utf8EncodeChar NUL).mpr rfl⟩
  rw [← not_iff_not.mpr hmem, releaseString]
  split <;> simp_all

theorem stringView_of_releaseString {str : String} {c : CString} (h : releaseString str = some c) :
    stringView c = some str := by
  unfold releaseString at h
  split at h
  · obtain rfl := Option.some.inj h
    have hbytes : (utf8 str).toByteArray = str.toByteArray := String.utf8Encode_toList
    have hvalid := str.isValidUTF8
    rw [stringView, hbytes, String.fromUTF8?, dif_pos hvalid]
    rfl
  · cases h

end TypeDBDriver.Ffi
