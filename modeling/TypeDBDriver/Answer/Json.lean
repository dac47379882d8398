import TypeDBDriver.Lib.Json

/-!
# JSON answers

The JSON values that documents are converted to, and their `Display`.

* `JSON`: objects are hash maps, given as their entries in the order of iteration.
* `writeEscapedString`, `fmt`: the printer, byte by byte.
* `text`: the characters the printed bytes encode (`fmt_eq`).
* `needsEscape`, `KeysClean`: the object keys that are printed as they would have to be.
* `value_text`: a printed value with clean keys is read back.
* `weight_text`: a key that lacks its escapes makes the text too light for its value.
* **`fmt_parses_back_iff`**: exactly which values are read back.
-/

namespace TypeDBDriver

open Json (Value Numbers utf8)

/-- A JSON value over the finite numbers `ν`. -/
abbrev JSON (ν : Type) : Type := Value ν

namespace JSON

/-! ## Printing -/

def asciiControl : ℕ := 0x20

def HEX : UInt8 := 0
def BSP : UInt8 := 'b'.toUInt8
def TAB : UInt8 := 't'.toUInt8
def LF_ : UInt8 := 'n'.toUInt8
def FF_ : UInt8 := 'f'.toUInt8
def CR_ : UInt8 := 'r'.toUInt8

/-- How a control character is escaped, by its code. -/
def escapeTable : List UInt8 :=
  [HEX, HEX, HEX, HEX, HEX, HEX, HEX, HEX,
   BSP, TAB, LF_, HEX, FF_, CR_, HEX, HEX,
   HEX, HEX, HEX, HEX, HEX, HEX, HEX, HEX,
   HEX, HEX, HEX, HEX, HEX, HEX, HEX, HEX]

def hexDigits : List UInt8 := utf8 "0123456789abcdef".toList

/-- What one byte of a string is printed as. -/
def escapeByte (byte : UInt8) : List UInt8 :=
  if byte.toNat < asciiControl then
    let special := escapeTable.getD byte.toNat HEX
    if special = HEX then
      ['\\'.toUInt8, 'u'.toUInt8, '0'.toUInt8, '0'.toUInt8,
        hexDigits.getD ((byte.toNat &&& 0xF0) >>> 4) 0, hexDigits.getD (byte.toNat &&& 0x0F) 0]
    else ['\\'.toUInt8, special]
  else if byte = '"'.toUInt8 ∨ byte = '\\'.toUInt8 then ['\\'.toUInt8, byte]
  else [byte]

def writeEscapedString (string : String) : List UInt8 :=
  utf8 "\"".toList ++ (utf8 string.toList).flatMap escapeByte ++ utf8 "\"".toList

section Display

variable {ν : Type} (N : Numbers ν)

/-- The separator in front of the entry at position `i`. -/
def separator (i : ℕ) : List Char := if i > 0 then ", ".toList else []

mutual
/-- `Display`. -/
def fmt : JSON ν → List UInt8
  | .object object => utf8 "\x7b".toList ++ fmtObject 0 object ++ utf8 "\x7d".toList
  | .array list => utf8 "[".toList ++ fmtArray 0 list ++ utf8 "]".toList
  | .string string => writeEscapedString string
  | .number number => utf8 (N.print number)
  | .boolean true => utf8 "true".toList
  | .boolean false => utf8 "false".toList
  | .null => utf8 "null".toList

/-- The entries of an object from position `i` on. -/
def fmtObject : ℕ → List (String × JSON ν) → List UInt8
  | _, [] => []
  | i, (k, v) :: object =>
    utf8 (separator i) ++ (utf8 "\"".toList ++ utf8 k.toList ++ utf8 "\": ".toList ++ fmt v) ++
      fmtObject (i + 1) object

/-- The elements of an array from position `i` on. -/
def fmtArray : ℕ → List (JSON ν) → List UInt8
  | _, [] => []
  | i, v :: list => utf8 (separator i) ++ fmt v ++ fmtArray (i + 1) list
end

end Display

/-! ## The printed characters -/

/-- What one character of a string is printed as. -/
def escapeChar (c : Char) : List Char :=
  if c.toNat < 0x80 then (escapeByte (UInt8.ofNat c.toNat)).map fun b => Char.ofNat b.toNat
  else [c]

/-- The characters that a string cannot hold as they are. -/
def needsEscape (c : Char) : Bool := c == '"' || c == '\\' || c.toNat < 0x20

section Text

variable {ν : Type} (N : Numbers ν)

mutual
/-- `Display`, as characters. -/
def text : JSON ν → List Char
  | .object object => '{' :: textObject 0 object ++ ['}']
  | .array list => '[' :: textArray 0 list ++ [']']
  | .string string => '"' :: string.toList.flatMap escapeChar ++ ['"']
  | .number number => N.print number
  | .boolean true => "true".toList
  | .boolean false => "false".toList
  | .null => "null".toList

def textObject : ℕ → List (String × JSON ν) → List Char
  | _, [] => []
  | i, (k, v) :: object =>
    separator i ++ ('"' :: k.toList ++ '"' :: ':' :: ' ' :: text v) ++ textObject (i + 1) object

def textArray : ℕ → List (JSON ν) → List Char
  | _, [] => []
  | i, v :: list => separator i ++ text v ++ textArray (i + 1) list
end

/-- The escape of an ASCII character, as bytes and as characters. -/
theorem utf8_escapeChar_ascii : ∀ n < 0x80,
    utf8 ((escapeByte (UInt8.ofNat n)).map fun b => Char.ofNat b.toNat) =
      escapeByte (UInt8.ofNat n) := by
  decide +kernel

theorem flatMap_of_fixed {bs : List UInt8} {f : UInt8 → List UInt8} (h : ∀ b ∈ bs, f b = [b]) :
    bs.flatMap f = bs := by
  induction bs with
  | nil => rfl
  | cons b bs ih =>
    rw [List.flatMap_cons, h b List.mem_cons_self, ih fun d hd => h d (List.mem_cons_of_mem b hd)]
    rfl

theorem utf8_escapeChar (c : Char) :
    utf8 (escapeChar c) = (String.utf8EncodeChar c).flatMap escapeByte := by
  by_cases hc : c.toNat < 0x80
  · rw [escapeChar, if_pos hc, Json.utf8EncodeChar_of_lt hc, utf8_escapeChar_ascii _ hc]
    simp
  · rw [escapeChar, if_neg hc, Json.utf8_cons]
    have hbytes : ∀ b ∈ String.utf8EncodeChar c, escapeByte b = [b] := by
      intro b hb
      have hle := Json.le_of_mem_utf8EncodeChar (not_lt.mp hc) hb
      have hq : b ≠ '"'.toUInt8 := by
        rintro rfl
        exact absurd hle (by decide)
      have hs : b ≠ '\\'.toUInt8 := by
        rintro rfl
        exact absurd hle (by decide)
      rw [escapeByte, if_neg (by simp only [asciiControl]; omega), if_neg (by simp [hq, hs])]
    rw [flatMap_of_fixed hbytes]
    simp [utf8]

theorem utf8_escaped (cs : List Char) :
    utf8 (cs.flatMap escapeChar) = (utf8 cs).flatMap escapeByte := by
  induction cs with
  | nil => rfl
  | cons c cs ih =>
    rw [List.flatMap_cons, Json.utf8_append, utf8_escapeChar, ih, Json.utf8_cons,
      List.flatMap_append]

mutual
/-- **The printed bytes are the encoding of `text`.** -/
theorem fmt_eq : ∀ j : JSON ν, fmt N j = utf8 (text N j)
  | .object object => by
    rw [fmt, text, fmtObject_eq 0 object, ← Json.utf8_append, ← Json.utf8_append]
    rfl
  | .array list => by
    rw [fmt, text, fmtArray_eq 0 list, ← Json.utf8_append, ← Json.utf8_append]
    rfl
  | .string string => by
    rw [fmt, text, writeEscapedString, ← utf8_escaped, ← Json.utf8_append, ← Json.utf8_append]
    rfl
  | .number number => by rw [fmt, text]
  | .boolean true => by rw [fmt, text]
  | .boolean false => by rw [fmt, text]
  | .null => by rw [fmt, text]

theorem fmtObject_eq : ∀ (i : ℕ) (object : List (String × JSON ν)),
    fmtObject N i object = utf8 (textObject N i object)
  | _, [] => rfl
  | i, (k, v) :: object => by
    rw [fmtObject, textObject, fmt_eq v, fmtObject_eq (i + 1) object]
    simp only [← Json.utf8_append]
    simp

theorem fmtArray_eq : ∀ (i : ℕ) (list : List (JSON ν)),
    fmtArray N i list = utf8 (textArray N i list)
  | _, [] => rfl
  | i, v :: list => by
    rw [fmtArray, textArray, fmt_eq v, fmtArray_eq (i + 1) list]
    simp only [← Json.utf8_append]
end

end Text

/-! ## Reading the text back -/

mutual
/-- No object key holds a character that needs an escape. -/
def KeysClean {ν : Type} : JSON ν → Prop
  | .object object => KeysCleanObject object
  | .array list => KeysCleanArray list
  | .string _ | .number _ | .boolean _ | .null => True

def KeysCleanObject {ν : Type} : List (String × JSON ν) → Prop
  | [] => True
  | (k, v) :: object =>
    (∀ c ∈ k.toList, needsEscape c = false) ∧ KeysClean v ∧ KeysCleanObject object

def KeysCleanArray {ν : Type} : List (JSON ν) → Prop
  | [] => True
  | v :: list => KeysClean v ∧ KeysCleanArray list
end

theorem readChar_clean {c : Char} (h : needsEscape c = false) (rest : List Char) :
    Json.readChar ([c] ++ rest) = some (some c, rest) := by
  simp only [needsEscape, Bool.or_eq_false_iff, beq_eq_false_iff_ne, decide_eq_false_iff_not] at h
  obtain ⟨⟨hq, hb⟩, hc⟩ := h
  rw [List.singleton_append, Json.readChar]
  · rw [if_neg hc]
  · exact hq
  · exact hb

theorem escapeChar_clean_ascii : ∀ n < 0x80, needsEscape (Char.ofNat n) = false →
    escapeChar (Char.ofNat n) = [Char.ofNat n] := by
  decide +kernel

/-- Other characters are printed as they are. -/
theorem escapeChar_clean {c : Char} (h : needsEscape c = false) : escapeChar c = [c] := by
  by_cases hc : c.toNat < 0x80
  · have := escapeChar_clean_ascii c.toNat hc
    rw [Char.ofNat_toNat] at this
    exact this h
  · rw [escapeChar, if_neg hc]

theorem readChar_control {n : ℕ} (h : n < 0x20) (rest : List Char) :
    Json.readChar (escapeChar (Char.ofNat n) ++ rest) = some (some (Char.ofNat n), rest) := by
  interval_cases n <;> rfl

/-- **Every character of a string is read back from its escape.** -/
theorem readChar_escapeChar (c : Char) (rest : List Char) :
    Json.readChar (escapeChar c ++ rest) = some (some c, rest) := by
  by_cases hc : c.toNat < 0x20
  · have := readChar_control hc rest
    rwa [Char.ofNat_toNat] at this
  · by_cases hq : c = '"'
    · rw [hq]
      rfl
    · by_cases hb : c = '\\'
      · rw [hb]
        rfl
      · have hclean : needsEscape c = false := by
          simp only [needsEscape, Bool.or_eq_false_iff, beq_eq_false_iff_ne,
            decide_eq_false_iff_not]
          exact ⟨⟨hq, hb⟩, hc⟩
        rw [escapeChar_clean hclean]
        exact readChar_clean hclean rest

section Reading

variable {ν : Type} (N : Numbers ν)

/-- A printed value starts with a character that no other construct starts with. -/
theorem text_head (j : JSON ν) :
    ∃ c cs, text N j = c :: cs ∧ Json.isWs c = false ∧ c ≠ ']' := by
  cases j with
  | object object => exact ⟨'{', _, rfl, rfl, by decide⟩
  | array list => exact ⟨'[', _, rfl, rfl, by decide⟩
  | string string => exact ⟨'"', _, rfl, rfl, by decide⟩
  | boolean b =>
    cases b with
    | true => exact ⟨'t', _, rfl, rfl, by decide⟩
    | false => exact ⟨'f', _, rfl, rfl, by decide⟩
  | null => exact ⟨'n', _, rfl, rfl, by decide⟩
  | number number =>
    have hn := N.print_isNumber number
    obtain ⟨c, cs, hc⟩ := List.exists_cons_of_ne_nil (Json.ne_nil_of_isNumber hn)
    have hch : Json.isNumberChar c = true := by
      have := Json.all_numberChar_of_isNumber hn
      rw [hc, List.all_cons, Bool.and_eq_true] at this
      exact this.1
    refine ⟨c, cs, hc, ?_, ?_⟩
    · by_contra hws
      simp only [Json.isWs, Bool.not_eq_false, Bool.or_eq_true, beq_iff_eq] at hws
      rcases hws with ((rfl | rfl) | rfl) | rfl <;> exact absurd hch (by decide)
    · rintro rfl
      exact absurd hch (by decide)

/-- A clean key is read up to the quotation mark printed after it. -/
theorem stringBody_key {k : String} (h : ∀ c ∈ k.toList, needsEscape c = false)
    (rest : List Char) :
    Json.stringBody (k.toList ++ '"' :: rest).length (k.toList ++ '"' :: rest) =
      some (k.toList, rest) := by
  have hlen : k.toList.length < (k.toList ++ '"' :: rest).length := by simp
  have hread : ∀ c ∈ k.toList, ∀ rest, Json.readChar ([c] ++ rest) = some (some c, rest) :=
    fun c hc => readChar_clean (h c hc)
  have := Json.stringBody_flatMap hread rest hlen
  rwa [List.flatMap_singleton'] at this

theorem escapeChar_ne_nil (c : Char) : escapeChar c ≠ [] := by
  intro hnil
  have hread := readChar_escapeChar c []
  rw [hnil] at hread
  cases hread

theorem length_le_flatMap_escapeChar (s : List Char) :
    s.length ≤ (s.flatMap escapeChar).length := by
  induction s with
  | nil => exact Nat.le_refl 0
  | cons c s ih =>
    have hpos := List.length_pos_iff.mpr (escapeChar_ne_nil c)
    rw [List.flatMap_cons, List.length_append, List.length_cons]
    omega

theorem stringBody_escaped (s : List Char) (rest : List Char) :
    Json.stringBody (s.flatMap escapeChar ++ '"' :: rest).length
      (s.flatMap escapeChar ++ '"' :: rest) = some (s, rest) := by
  refine Json.stringBody_flatMap (fun c _ => readChar_escapeChar c) rest ?_
  have hlen := length_le_flatMap_escapeChar s
  rw [List.length_append, List.length_cons]
  omega

mutual
/-- **A printed value with clean keys is read back, whatever follows.** -/
theorem value_text : ∀ (j : JSON ν), j.Distinct → KeysClean j → ∀ (fuel : ℕ) (rest : List Char),
    2 * (text N j).length ≤ fuel → Json.EndsNumber rest →
      Json.value N fuel (text N j ++ rest) = some (j, rest)
  | j, hd, hk, 0, rest, hf, hr => by
    obtain ⟨c, cs, hc, -⟩ := text_head N j
    rw [hc, List.length_cons] at hf
    omega
  | .object [], hd, hk, fuel + 1, rest, hf, hr => rfl
  | .object ((k, v) :: object), hd, hk, fuel + 1, rest, hf, hr => by
    rw [Value.Distinct] at hd
    rw [KeysClean] at hk
    have h := members_text k v object hd.1 hd.2 hk fuel rest 0 (by
      simp only [text, textObject, separator] at hf
      simp at hf ⊢
      omega)
    have htext : text N (.object ((k, v) :: object)) ++ rest =
        '{' :: '"' :: (k.toList ++ '"' :: ':' :: ' ' ::
          (text N v ++ (textObject N 1 object ++ '}' :: rest))) := by
      simp [text, textObject, separator]
    rw [htext]
    exact Json.value_object N fuel h
  | .array [], hd, hk, fuel + 1, rest, hf, hr => rfl
  | .array (v :: list), hd, hk, fuel + 1, rest, hf, hr => by
    rw [Value.Distinct] at hd
    rw [KeysClean] at hk
    have h := elements_text v list hd hk fuel rest 0 (by
      simp only [text, textArray, separator] at hf
      simp at hf ⊢
      omega)
    have htext : text N (.array (v :: list)) ++ rest =
        '[' :: (text N v ++ (textArray N 1 list ++ ']' :: rest)) := by
      simp [text, textArray, separator]
    obtain ⟨c, cs, hc, hws, hne⟩ := text_head N v
    rw [htext, hc, List.cons_append]
    rw [hc, List.cons_append] at h
    exact Json.value_array N fuel hws hne h
  | .string s, hd, hk, fuel + 1, rest, hf, hr => by
    have h := stringBody_escaped s.toList rest
    have htext : text N (.string s) ++ rest =
        '"' :: (s.toList.flatMap escapeChar ++ '"' :: rest) := by simp [text]
    rw [htext, Json.value_string N fuel h, String.ofList_toList]
  | .number n, hd, hk, fuel + 1, rest, hf, hr => by
    rw [text]
    exact Json.value_number N fuel n hr
  | .boolean true, hd, hk, fuel + 1, rest, hf, hr => by
    rw [text]
    exact Json.value_true N fuel rest
  | .boolean false, hd, hk, fuel + 1, rest, hf, hr => by
    rw [text]
    exact Json.value_false N fuel rest
  | .null, hd, hk, fuel + 1, rest, hf, hr => by
    rw [text]
    exact Json.value_null N fuel rest

/-- The entries of a printed object, from any one on. -/
theorem members_text : ∀ (k : String) (v : JSON ν) (object : List (String × JSON ν)),
    (((k, v) :: object).map Prod.fst).Nodup → Json.DistinctMembers ((k, v) :: object) →
    KeysCleanObject ((k, v) :: object) → ∀ (fuel : ℕ) (rest : List Char) (i : ℕ),
    2 * (k.toList.length + (text N v).length + (textObject N (i + 1) object).length) + 1 ≤ fuel →
      Json.members N fuel ('"' :: (k.toList ++ '"' :: ':' :: ' ' ::
        (text N v ++ (textObject N (i + 1) object ++ '}' :: rest)))) =
        some ((k, v) :: object, rest)
  | _, _, _, _, _, _, 0, _, _, hf => by omega
  | k, v, [], hn, hd, hk, fuel + 1, rest, i, hf => by
    rw [Json.DistinctMembers] at hd
    rw [KeysCleanObject] at hk
    have hv := value_text v hd.1 hk.2.1 fuel ('}' :: rest) (by omega)
      (by intro c hc; cases hc; rfl)
    obtain ⟨c, cs, hc, hws, -⟩ := text_head N v
    rw [hc, List.cons_append] at hv
    have hkey := stringBody_key hk.1 (':' :: ' ' :: (text N v ++ '}' :: rest))
    rw [hc, List.cons_append] at hkey
    simp only [textObject, List.nil_append, hc, List.cons_append]
    rw [Json.members_last N fuel hkey hws hv, String.ofList_toList]
  | k, v, (k', v') :: object, hn, hd, hk, fuel + 1, rest, i, hf => by
    rw [Json.DistinctMembers] at hd
    rw [KeysCleanObject] at hk
    rw [List.map_cons, List.nodup_cons] at hn
    simp only [textObject, separator, List.length_append, List.length_cons] at hf
    have hsep : textObject N (i + 1) ((k', v') :: object) ++ '}' :: rest =
        ',' :: ' ' :: '"' :: (k'.toList ++ '"' :: ':' :: ' ' ::
          (text N v' ++ (textObject N (i + 1 + 1) object ++ '}' :: rest))) := by
      simp [textObject, separator]
    have hms := members_text k' v' object hn.2 hd.2 hk.2.2 fuel rest (i + 1)
      (by omega)
    have hv := value_text v hd.1 hk.2.1 fuel
      (textObject N (i + 1) ((k', v') :: object) ++ '}' :: rest) (by omega)
      (by rw [hsep]; intro c hc; cases hc; rfl)
    obtain ⟨c, cs, hc, hws, -⟩ := text_head N v
    have hkey := stringBody_key hk.1 (':' :: ' ' :: (text N v ++
      (textObject N (i + 1) ((k', v') :: object) ++ '}' :: rest)))
    rw [hc, List.cons_append] at hv hkey
    rw [hc, List.cons_append]
    rw [hsep] at hv
    have hnew : String.ofList k.toList ∉ ((k', v') :: object).map Prod.fst := by
      rw [String.ofList_toList]
      exact hn.1
    rw [Json.members_cons N fuel hkey hws (by rw [hsep]; exact hv) hms hnew, String.ofList_toList]

/-- The elements of a printed array, from any one on. -/
theorem elements_text : ∀ (v : JSON ν) (list : List (JSON ν)),
    Json.DistinctElements (v :: list) → KeysCleanArray (v :: list) →
    ∀ (fuel : ℕ) (rest : List Char) (i : ℕ),
    2 * ((text N v).length + (textArray N (i + 1) list).length) + 1 ≤ fuel →
      Json.elements N fuel (text N v ++ (textArray N (i + 1) list ++ ']' :: rest)) =
        some (v :: list, rest)
  | _, _, _, _, 0, _, _, hf => by omega
  | v, [], hd, hk, fuel + 1, rest, i, hf => by
    rw [Json.DistinctElements] at hd
    rw [KeysCleanArray] at hk
    have hv := value_text v hd.1 hk.1 fuel (']' :: rest) (by omega)
      (by intro c hc; cases hc; rfl)
    exact Json.elements_last N fuel hv
  | v, w :: list, hd, hk, fuel + 1, rest, i, hf => by
    rw [Json.DistinctElements] at hd
    rw [KeysCleanArray] at hk
    simp only [textArray, separator, List.length_append] at hf
    have hsep : textArray N (i + 1) (w :: list) ++ ']' :: rest =
        ',' :: ' ' :: (text N w ++ (textArray N (i + 1 + 1) list ++ ']' :: rest)) := by
      simp [textArray, separator]
    have hvs := elements_text w list hd.2 hk.2 fuel rest (i + 1) (by
      simp at hf
      omega)
    have hv := value_text v hd.1 hk.1 fuel
      (textArray N (i + 1) (w :: list) ++ ']' :: rest) (by simp at hf; omega)
      (by rw [hsep]; intro c hc; cases hc; rfl)
    obtain ⟨c, cs, hc, hws, -⟩ := text_head N w
    rw [hsep, hc, List.cons_append] at hv
    rw [hc, List.cons_append] at hvs
    rw [hsep, hc, List.cons_append]
    exact Json.elements_cons N fuel hv hws hvs
end

end Reading

/-! ## The weight of a printed value -/

theorem weight_escapeChar_ascii : ∀ n < 0x80,
    Json.weight (escapeChar (Char.ofNat n)) = Json.cost (Char.ofNat n) := by
  decide +kernel

/-- The escapes are the lightest there are. -/
theorem weight_escapeChar (c : Char) : Json.weight (escapeChar c) = Json.cost c := by
  by_cases hc : c.toNat < 0x80
  · have := weight_escapeChar_ascii c.toNat hc
    rwa [Char.ofNat_toNat] at this
  · have hne : ∀ d : Char, d.toNat < 0x80 → c ≠ d := by
      rintro d hd rfl
      exact hc hd
    have hq := hne '"' (by decide)
    have hb := hne '\\' (by decide)
    have hu := hne 'u' (by decide)
    rw [escapeChar, if_neg hc, Json.weight_cons]
    simp [Json.heavy, Json.cost, hq, hb, hu]
    omega

theorem weight_flatMap_escapeChar (s : List Char) :
    Json.weight (s.flatMap escapeChar) = (s.map Json.cost).sum := by
  induction s with
  | nil => rfl
  | cons c s ih =>
    rw [List.flatMap_cons, Json.weight_append, weight_escapeChar, ih, List.map_cons, List.sum_cons]

/-- What an unescaped character lacks. -/
def lack (c : Char) : ℕ := Json.cost c - Json.weight [c]

theorem lack_add (c : Char) : lack c + Json.weight [c] = Json.cost c := by
  have hle : Json.weight [c] ≤ Json.cost c := by
    rw [Json.weight_singleton]
    simp only [Json.heavy, Json.cost]
    by_cases hq : c = '"'
    · simp [hq]
    · by_cases hb : c = '\\'
      · simp [hb]
      · by_cases hu : c = 'u'
        · simp [hu]
        · simp [hq, hb, hu]
  rw [lack]
  omega

theorem lack_eq_zero {c : Char} : lack c = 0 ↔ needsEscape c = false := by
  rw [lack, Json.weight_singleton]
  simp only [needsEscape, Json.heavy, Json.cost]
  by_cases hq : c = '"'
  · simp [hq]
  · by_cases hb : c = '\\'
    · simp [hb]
    · by_cases hc : c.toNat < 0x20
      · have hu : c ≠ 'u' := by
          rintro rfl
          exact absurd hc (by decide)
        by_cases hs : Json.hasShortEscape c = true
        · simp [hq, hb, hc, hu, hs]
        · simp [hq, hb, hc, hu, hs]
      · by_cases hu : c = 'u'
        · simp [hu]
        · simp [hq, hb, hc, hu]

/-- What the characters of a key lack. -/
def keyLack (k : List Char) : ℕ := (k.map lack).sum

theorem keyLack_add (k : List Char) : keyLack k + Json.weight k = (k.map Json.cost).sum := by
  induction k with
  | nil => rfl
  | cons c k ih =>
    have hc := lack_add c
    rw [Json.weight_singleton] at hc
    simp only [keyLack, List.map_cons, List.sum_cons, Json.weight_cons] at ih ⊢
    omega

theorem keyLack_eq_zero {k : List Char} :
    keyLack k = 0 ↔ ∀ c ∈ k, needsEscape c = false := by
  induction k with
  | nil => simp [keyLack]
  | cons c k ih =>
    have hsum : keyLack (c :: k) = lack c + keyLack k := by simp [keyLack]
    rw [hsum, Nat.add_eq_zero_iff, lack_eq_zero, ih]
    simp

variable {ν : Type}

mutual
/-- What the keys of a value lack. -/
def keysLack : JSON ν → ℕ
  | .object object => keysLackObject object
  | .array list => keysLackArray list
  | .string _ | .number _ | .boolean _ | .null => 0

def keysLackObject : List (String × JSON ν) → ℕ
  | [] => 0
  | (k, v) :: object => keyLack k.toList + keysLack v + keysLackObject object

def keysLackArray : List (JSON ν) → ℕ
  | [] => 0
  | v :: list => keysLack v + keysLackArray list
end

mutual
theorem keysLack_eq_zero : ∀ j : JSON ν, keysLack j = 0 ↔ KeysClean j
  | .object object => by rw [keysLack, KeysClean, keysLackObject_eq_zero object]
  | .array list => by rw [keysLack, KeysClean, keysLackArray_eq_zero list]
  | .string _ | .number _ | .boolean _ | .null => by simp [keysLack, KeysClean]

theorem keysLackObject_eq_zero : ∀ object : List (String × JSON ν),
    keysLackObject object = 0 ↔ KeysCleanObject object
  | [] => by simp [keysLackObject, KeysCleanObject]
  | (k, v) :: object => by
    rw [keysLackObject, KeysCleanObject, Nat.add_eq_zero_iff, Nat.add_eq_zero_iff,
      keyLack_eq_zero, keysLack_eq_zero v, keysLackObject_eq_zero object, and_assoc]

theorem keysLackArray_eq_zero : ∀ list : List (JSON ν),
    keysLackArray list = 0 ↔ KeysCleanArray list
  | [] => by simp [keysLackArray, KeysCleanArray]
  | v :: list => by
    rw [keysLackArray, KeysCleanArray, Nat.add_eq_zero_iff, keysLack_eq_zero v,
      keysLackArray_eq_zero list]
end

theorem weight_separator (i : ℕ) : Json.weight (separator i) = 0 := by
  unfold separator
  split_ifs <;> rfl

/-- A number holds no heavy character. -/
theorem weight_of_isNumber {cs : List Char} (h : Json.isNumber cs = true) :
    Json.weight cs = 0 := by
  have hall := Json.all_numberChar_of_isNumber h
  rw [Json.weight, List.countP_eq_zero]
  intro c hc hheavy
  have hch := List.all_eq_true.mp hall c hc
  simp only [Json.heavy, Bool.or_eq_true, beq_iff_eq] at hheavy
  rcases hheavy with (rfl | rfl) | rfl <;> exact absurd hch (by decide)

mutual
/-- **A printed value weighs what it costs, less what its keys lack.** -/
theorem weight_text (N : Numbers ν) : ∀ j : JSON ν,
    keysLack j + Json.weight (text N j) = j.cost
  | .object object => by
    have h := weight_textObject N 0 object
    have h1 : Json.weight ('{' :: textObject N 0 object ++ ['}']) =
        Json.weight (textObject N 0 object) := by
      simp [Json.weight_cons, Json.weight_append, Json.heavy]
    rw [keysLack, text, Value.cost, h1, h]
  | .array list => by
    have h := weight_textArray N 0 list
    have h1 : Json.weight ('[' :: textArray N 0 list ++ [']']) =
        Json.weight (textArray N 0 list) := by
      simp [Json.weight_cons, Json.weight_append, Json.heavy]
    rw [keysLack, text, Value.cost, h1, h]
  | .string s => by
    have h := weight_flatMap_escapeChar s.toList
    have h1 : Json.weight ('"' :: s.toList.flatMap escapeChar ++ ['"']) =
        2 + Json.weight (s.toList.flatMap escapeChar) := by
      simp [Json.weight_cons, Json.weight_append, Json.heavy]
      omega
    rw [keysLack, text, Value.cost, Json.stringCost, h1, h]
    omega
  | .number n => by
    rw [keysLack, text, Value.cost, weight_of_isNumber (N.print_isNumber n)]
  | .boolean true => rfl
  | .boolean false => rfl
  | .null => rfl

theorem weight_textObject (N : Numbers ν) : ∀ (i : ℕ) (object : List (String × JSON ν)),
    keysLackObject object + Json.weight (textObject N i object) = Json.membersCost object
  | _, [] => rfl
  | i, (k, v) :: object => by
    have hk := keyLack_add k.toList
    have hv := weight_text N v
    have ho := weight_textObject N (i + 1) object
    have h1 : Json.weight ('"' :: k.toList ++ '"' :: ':' :: ' ' :: text N v) =
        2 + Json.weight k.toList + Json.weight (text N v) := by
      simp [Json.weight_cons, Json.weight_append, Json.heavy]
      omega
    rw [keysLackObject, textObject, Json.membersCost, Json.stringCost, Json.weight_append,
      Json.weight_append, weight_separator, h1]
    omega

theorem weight_textArray (N : Numbers ν) : ∀ (i : ℕ) (list : List (JSON ν)),
    keysLackArray list + Json.weight (textArray N i list) = Json.elementsCost list
  | _, [] => rfl
  | i, v :: list => by
    have hv := weight_text N v
    have hl := weight_textArray N (i + 1) list
    rw [keysLackArray, textArray, Json.elementsCost, Json.weight_append, Json.weight_append,
      weight_separator]
    omega
end

/-! ## Round trip -/

/-- A whole text is read back. -/
theorem parse_text (N : Numbers ν) {j : JSON ν} (hd : j.Distinct) (hk : KeysClean j) :
    Json.parse N (text N j) = some j := by
  obtain ⟨c, cs, hc, hws, -⟩ := text_head N j
  have hskip : Json.skipWs (text N j) = text N j := by rw [hc, Json.skipWs_cons hws]
  have hv := value_text N j hd hk (2 * (text N j).length + 1) [] (by omega)
    (by intro d hd; cases hd)
  rw [List.append_nil] at hv
  rw [Json.parse, hskip, hv]
  rfl

/-- **A value is read back from its text exactly when no key needs an escape.** -/
theorem fmt_parses_back_iff (N : Numbers ν) {j : JSON ν} (hd : j.Distinct) :
    (∃ v, Json.parseBytes N (fmt N j) = some v ∧ v.Same j) ↔ KeysClean j := by
  rw [fmt_eq, Json.parseBytes_utf8]
  constructor
  · rintro ⟨v, hv, hsame⟩
    have h1 := Json.cost_le_of_parse N hv
    have h2 := hsame.cost_eq
    have h3 := weight_text N j
    rw [← keysLack_eq_zero]
    omega
  · intro hk
    exact ⟨j, parse_text N hd hk, Value.Same.refl j⟩

/-- The numbers `0` to `9`. -/
def digitNumbers : Numbers (Fin 10) where
  print n := [Nat.digitChar n]
  read cs := Fin.ofNat 10 (Nat.ofDigitChars 10 cs 0)
  print_isNumber := by decide
  read_print := by decide

/-- An object with an array and a string that needs escapes. -/
def sample : JSON (Fin 10) :=
  .object [("array", .array [.boolean true, .string "a \"quoted\" \\ and\n"]), ("number", .number 7)]

theorem sample_parses_back :
    sample.Distinct ∧
      ∃ v, Json.parseBytes digitNumbers (fmt digitNumbers sample) = some v ∧ v.Same sample := by
  have hd : sample.Distinct := by
    simp [sample, Value.Distinct, Json.DistinctMembers, Json.DistinctElements]
  have hk : KeysClean sample := by
    simp [sample, KeysClean, KeysCleanObject, KeysCleanArray, needsEscape]
  exact ⟨hd, (fmt_parses_back_iff digitNumbers hd).mpr hk⟩

/-- An object whose key is a quotation mark. -/
def quoteKey : JSON (Fin 10) := .object [("\"", .null)]

/-- It is printed as three quotation marks in a row, which no reader accepts. -/
theorem quoteKey_not_parsed :
    quoteKey.Distinct ∧ text digitNumbers quoteKey = "\x7b\"\"\": null\x7d".toList ∧
      ¬ ∃ v, Json.parseBytes digitNumbers (fmt digitNumbers quoteKey) = some v ∧
        v.Same quoteKey := by
  refine ⟨by simp [quoteKey, Value.Distinct, Json.DistinctMembers], rfl, ?_⟩
  have hnone : Json.parse digitNumbers (text digitNumbers quoteKey) = none := rfl
  rw [fmt_eq, Json.parseBytes_utf8, hnone]
  rintro ⟨v, hv, -⟩
  cases hv

end JSON

end TypeDBDriver
