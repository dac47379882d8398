import Mathlib.Data.Int.Notation
import Mathlib.Data.List.TakeWhile
import Mathlib.Data.Nat.Notation
import Mathlib.Tactic.IntervalCases

/-!
# JSON texts

The grammar of RFC 8259 as a reader. Numbers are abstract: `Numbers` says how they are written and
read, and asks that the two agree.

* `Value`: JSON values, the members of an object in the order of the text.
* `Distinct`, `Same`: no name twice in an object; equality whatever the order of members.
* `isNumber`, `readChar`, `stringBody`, `value`, `parse`: the reader. Of members with one name the
  last is kept.
* `value_array`, `value_object`, `elements_cons`, `members_cons`: what the reader makes of a text,
  construct by construct.
* `cost`, `Value.cost`: the fewest quotes, backslashes and letters `u` that a text of a value needs.
* **`cost_le_of_parse`**: a text has at least as many as its value needs.
-/

namespace Json

/-- JSON values over the numbers `ν`. -/
inductive Value (ν : Type) where
  | object (members : List (String × Value ν))
  | array (elements : List (Value ν))
  | string (string : String)
  | number (number : ν)
  | boolean (boolean : Bool)
  | null

section Values

variable {ν : Type}

mutual
/-- No object names two members alike. -/
def Value.Distinct : Value ν → Prop
  | .object members => (members.map Prod.fst).Nodup ∧ DistinctMembers members
  | .array elements => DistinctElements elements
  | .string _ | .number _ | .boolean _ | .null => True

def DistinctMembers : List (String × Value ν) → Prop
  | [] => True
  | (_, v) :: members => v.Distinct ∧ DistinctMembers members

def DistinctElements : List (Value ν) → Prop
  | [] => True
  | v :: elements => v.Distinct ∧ DistinctElements elements
end

mutual
/-- Equality of values, objects being maps. -/
inductive Value.Same : Value ν → Value ν → Prop
  | object {ms ns : List (String × Value ν)} (h : SameMembers ms ns) :
      Value.Same (.object ms) (.object ns)
  | array {vs ws : List (Value ν)} (h : SameElements vs ws) : Value.Same (.array vs) (.array ws)
  | string (s : String) : Value.Same (.string s) (.string s)
  | number (n : ν) : Value.Same (.number n) (.number n)
  | boolean (b : Bool) : Value.Same (.boolean b) (.boolean b)
  | null : Value.Same .null .null

/-- Every member has its counterpart, and none is left over. -/
inductive SameMembers : List (String × Value ν) → List (String × Value ν) → Prop
  | nil : SameMembers [] []
  | cons {k : String} {v w : Value ν} {ms before after : List (String × Value ν)}
      (hv : Value.Same v w) (hms : SameMembers ms (before ++ after)) :
      SameMembers ((k, v) :: ms) (before ++ (k, w) :: after)

inductive SameElements : List (Value ν) → List (Value ν) → Prop
  | nil : SameElements [] []
  | cons {v w : Value ν} {vs ws : List (Value ν)} (hv : Value.Same v w)
      (hvs : SameElements vs ws) : SameElements (v :: vs) (w :: ws)
end

mutual
theorem Value.Same.refl : ∀ v : Value ν, v.Same v
  | .object members => .object (SameMembers.refl members)
  | .array elements => .array (SameElements.refl elements)
  | .string s => .string s
  | .number n => .number n
  | .boolean b => .boolean b
  | .null => .null

theorem SameMembers.refl : ∀ members : List (String × Value ν), SameMembers members members
  | [] => .nil
  | (_, v) :: members =>
    @SameMembers.cons _ _ v v members [] members (Value.Same.refl v) (SameMembers.refl members)

theorem SameElements.refl : ∀ elements : List (Value ν), SameElements elements elements
  | [] => .nil
  | v :: elements => .cons (Value.Same.refl v) (SameElements.refl elements)
end

end Values

/-! ## Numbers -/

def isDigit19 (c : Char) : Bool := c.isDigit && c != '0'

/-- The characters a number is written with. -/
def isNumberChar (c : Char) : Bool :=
  c.isDigit || c == '-' || c == '+' || c == '.' || c == 'e' || c == 'E'

/-- `*DIGIT`, and what follows. -/
def spanDigits (cs : List Char) : List Char × List Char :=
  (cs.takeWhile Char.isDigit, cs.dropWhile Char.isDigit)

/-- `[ exp ]`, to the end. -/
def isExp : List Char → Bool
  | [] => true
  | e :: cs => (e == 'e' || e == 'E') &&
      match cs with
      | '+' :: ds | '-' :: ds => !ds.isEmpty && ds.all Char.isDigit
      | ds => !ds.isEmpty && ds.all Char.isDigit

/-- `[ frac ] [ exp ]`, to the end. -/
def isFrac : List Char → Bool
  | '.' :: cs => !(spanDigits cs).1.isEmpty && isExp (spanDigits cs).2
  | cs => isExp cs

/-- `int [ frac ] [ exp ]`, to the end. -/
def isUnsigned : List Char → Bool
  | '0' :: cs => isFrac cs
  | c :: cs => isDigit19 c && isFrac (spanDigits cs).2
  | [] => false

/-- `number = [ minus ] int [ frac ] [ exp ]`. -/
def isNumber : List Char → Bool
  | '-' :: cs => isUnsigned cs
  | cs => isUnsigned cs

/-- How numbers are written and read. -/
structure Numbers (ν : Type) where
  print : ν → List Char
  read : List Char → ν
  print_isNumber (n : ν) : isNumber (print n) = true
  read_print (n : ν) : read (print n) = n

/-! ## Strings -/

/-- `HEXDIG`. -/
def hexValue (c : Char) : Option ℕ :=
  if c.isDigit then some (c.toNat - '0'.toNat)
  else if 'a' ≤ c ∧ c ≤ 'f' then some (c.toNat - 'a'.toNat + 10)
  else if 'A' ≤ c ∧ c ≤ 'F' then some (c.toNat - 'A'.toNat + 10)
  else none

/-- `4HEXDIG`. -/
def hex4 : List Char → Option (ℕ × List Char)
  | a :: b :: c :: d :: cs => do
    let a ← hexValue a
    let b ← hexValue b
    let c ← hexValue c
    let d ← hexValue d
    some (((a * 16 + b) * 16 + c) * 16 + d, cs)
  | _ => none

/-- The character of `\uXXXX`, a surrogate pair taking two of them. -/
def readUnicode (cs : List Char) : Option (Char × List Char) := do
  let (u, cs) ← hex4 cs
  if 0xD800 ≤ u ∧ u < 0xDC00 then
    match cs with
    | '\\' :: 'u' :: cs => do
      let (l, cs) ← hex4 cs
      if 0xDC00 ≤ l ∧ l < 0xE000 then
        some (Char.ofNat (0x10000 + (u - 0xD800) * 0x400 + (l - 0xDC00)), cs)
      else none
    | _ => none
  else if 0xDC00 ≤ u ∧ u < 0xE000 then none
  else some (Char.ofNat u, cs)

/-- The character after a backslash. -/
def readEscape : List Char → Option (Char × List Char)
  | '"' :: cs => some ('"', cs)
  | '\\' :: cs => some ('\\', cs)
  | '/' :: cs => some ('/', cs)
  | 'b' :: cs => some (Char.ofNat 0x08, cs)
  | 'f' :: cs => some (Char.ofNat 0x0C, cs)
  | 'n' :: cs => some (Char.ofNat 0x0A, cs)
  | 'r' :: cs => some (Char.ofNat 0x0D, cs)
  | 't' :: cs => some (Char.ofNat 0x09, cs)
  | 'u' :: cs => readUnicode cs
  | _ => none

/-- One character of a string, or `none` for its closing quotation mark. -/
def readChar : List Char → Option (Option Char × List Char)
  | [] => none
  | '"' :: cs => some (none, cs)
  | '\\' :: cs => (readEscape cs).map fun p => (some p.1, p.2)
  | c :: cs => if c.toNat < 0x20 then none else some (some c, cs)

/-- The characters up to the closing quotation mark. -/
def stringBody : ℕ → List Char → Option (List Char × List Char)
  | 0, _ => none
  | fuel + 1, cs =>
    match readChar cs with
    | none => none
    | some (none, cs) => some ([], cs)
    | some (some c, cs) => (stringBody fuel cs).map fun p => (c :: p.1, p.2)

/-! ## Values -/

/-- `ws`. -/
def isWs (c : Char) : Bool := c == ' ' || c == '\t' || c == '\n' || c == '\r'

def skipWs (cs : List Char) : List Char := cs.dropWhile isWs

section Reader

variable {ν : Type} (N : Numbers ν)

/-- The member in front of later ones, unless one of them has its name. -/
def addMember (k : String) (v : Value ν) (members : List (String × Value ν)) :
    List (String × Value ν) :=
  if k ∈ members.map Prod.fst then members else (k, v) :: members

/-- A number runs as far as its characters do. -/
def number (cs : List Char) : Option (Value ν × List Char) :=
  if isNumber (cs.takeWhile isNumberChar) then
    some (.number (N.read (cs.takeWhile isNumberChar)), cs.dropWhile isNumberChar)
  else none

mutual
/-- `value`. -/
def value : ℕ → List Char → Option (Value ν × List Char)
  | 0, _ => none
  | fuel + 1, cs =>
    match cs with
    | '{' :: cs =>
      match skipWs cs with
      | '}' :: cs => some (.object [], cs)
      | cs => (members fuel cs).map fun p => (.object p.1, p.2)
    | '[' :: cs =>
      match skipWs cs with
      | ']' :: cs => some (.array [], cs)
      | cs => (elements fuel cs).map fun p => (.array p.1, p.2)
    | '"' :: cs => (stringBody cs.length cs).map fun p => (.string (String.ofList p.1), p.2)
    | 't' :: 'r' :: 'u' :: 'e' :: cs => some (.boolean true, cs)
    | 'f' :: 'a' :: 'l' :: 's' :: 'e' :: cs => some (.boolean false, cs)
    | 'n' :: 'u' :: 'l' :: 'l' :: cs => some (.null, cs)
    | cs => number N cs

/-- `member *( value-separator member ) end-object`. -/
def members : ℕ → List Char → Option (List (String × Value ν) × List Char)
  | 0, _ => none
  | fuel + 1, cs =>
    match cs with
    | '"' :: cs => do
      let (k, cs) ← stringBody cs.length cs
      match skipWs cs with
      | ':' :: cs => do
        let (v, cs) ← value fuel (skipWs cs)
        match skipWs cs with
        | ',' :: cs => do
          let (ms, cs) ← members fuel (skipWs cs)
          some (addMember (String.ofList k) v ms, cs)
        | '}' :: cs => some ([(String.ofList k, v)], cs)
        | _ => none
      | _ => none
    | _ => none

/-- `value *( value-separator value ) end-array`. -/
def elements : ℕ → List Char → Option (List (Value ν) × List Char)
  | 0, _ => none
  | fuel + 1, cs => do
    let (v, cs) ← value fuel cs
    match skipWs cs with
    | ',' :: cs => do
      let (vs, cs) ← elements fuel (skipWs cs)
      some (v :: vs, cs)
    | ']' :: cs => some ([v], cs)
    | _ => none
end

/-- `JSON-text = ws value ws`. -/
def parse (text : List Char) : Option (Value ν) :=
  match value N (2 * text.length + 1) (skipWs text) with
  | none => none
  | some (v, rest) => if skipWs rest = [] then some v else none

end Reader

/-! ## Reading what was written -/

/-- A string is read back from any writing of its characters that `readChar` undoes. -/
theorem stringBody_flatMap {write : Char → List Char} {s : List Char}
    (h : ∀ c ∈ s, ∀ rest, readChar (write c ++ rest) = some (some c, rest)) (rest : List Char)
    {fuel : ℕ} (hf : s.length < fuel) :
    stringBody fuel (s.flatMap write ++ '"' :: rest) = some (s, rest) := by
  induction s generalizing fuel with
  | nil =>
    cases fuel with
    | zero => cases hf
    | succ fuel => rfl
  | cons c s ih =>
    cases fuel with
    | zero => cases hf
    | succ fuel =>
      rw [List.flatMap_cons, List.append_assoc, stringBody, h c List.mem_cons_self]
      simp only
      rw [ih (fun d hd => h d (List.mem_cons_of_mem c hd)) (Nat.lt_of_succ_lt_succ hf)]
      rfl

/-- What follows a number is not part of it. -/
def EndsNumber (rest : List Char) : Prop := ∀ c ∈ rest.head?, isNumberChar c = false

theorem isNumberChar_of_isDigit {c : Char} (h : c.isDigit = true) : isNumberChar c = true := by
  simp [isNumberChar, h]

theorem takeWhile_append_dropWhile_all {p q : Char → Bool} {cs : List Char}
    (hpq : ∀ c, p c = true → q c = true) (h : (cs.dropWhile p).all q = true) :
    cs.all q = true := by
  rw [← List.takeWhile_append_dropWhile (p := p) (l := cs), List.all_append, h, Bool.and_true,
    List.all_eq_true]
  intro c hc
  exact hpq c (List.mem_takeWhile_imp hc)

theorem all_numberChar_of_digits {cs : List Char} (h : cs.all Char.isDigit = true) :
    cs.all isNumberChar = true := by
  rw [List.all_eq_true] at *
  exact fun c hc => isNumberChar_of_isDigit (h c hc)

theorem all_numberChar_of_isExp {cs : List Char} (h : isExp cs = true) :
    cs.all isNumberChar = true := by
  cases cs with
  | nil => rfl
  | cons e cs =>
    simp only [isExp, Bool.and_eq_true, Bool.or_eq_true, beq_iff_eq] at h
    have he : isNumberChar e = true := by
      rcases h.1 with rfl | rfl <;> rfl
    rw [List.all_cons, he, Bool.true_and]
    have hcs := h.2
    split at hcs
    · simp only [Bool.and_eq_true] at hcs
      rw [List.all_cons, all_numberChar_of_digits hcs.2]
      rfl
    · simp only [Bool.and_eq_true] at hcs
      rw [List.all_cons, all_numberChar_of_digits hcs.2]
      rfl
    · simp only [Bool.and_eq_true] at hcs
      exact all_numberChar_of_digits hcs.2

theorem all_numberChar_of_isFrac {cs : List Char} (h : isFrac cs = true) :
    cs.all isNumberChar = true := by
  rw [isFrac.eq_def] at h
  split at h
  · rename_i cs
    simp only [spanDigits, Bool.and_eq_true] at h
    rw [List.all_cons, takeWhile_append_dropWhile_all (fun _ => isNumberChar_of_isDigit)
      (all_numberChar_of_isExp h.2)]
    rfl
  · exact all_numberChar_of_isExp h

theorem all_numberChar_of_isUnsigned {cs : List Char} (h : isUnsigned cs = true) :
    cs.all isNumberChar = true := by
  rw [isUnsigned.eq_def] at h
  split at h
  · rw [List.all_cons, all_numberChar_of_isFrac h]
    rfl
  · rename_i c cs _
    simp only [spanDigits, isDigit19, Bool.and_eq_true] at h
    rw [List.all_cons, isNumberChar_of_isDigit h.1.1, takeWhile_append_dropWhile_all
      (fun _ => isNumberChar_of_isDigit) (all_numberChar_of_isFrac h.2)]
    rfl
  · cases h

theorem all_numberChar_of_isNumber {cs : List Char} (h : isNumber cs = true) :
    cs.all isNumberChar = true := by
  rw [isNumber.eq_def] at h
  split at h
  · rw [List.all_cons, all_numberChar_of_isUnsigned h]
    rfl
  · exact all_numberChar_of_isUnsigned h

theorem ne_nil_of_isNumber {cs : List Char} (h : isNumber cs = true) : cs ≠ [] := by
  rintro rfl
  cases h

theorem takeWhile_append_of_ends {cs rest : List Char} (h : cs.all isNumberChar = true)
    (hr : EndsNumber rest) :
    (cs ++ rest).takeWhile isNumberChar = cs ∧ (cs ++ rest).dropWhile isNumberChar = rest := by
  induction cs with
  | nil =>
    cases rest with
    | nil => exact ⟨rfl, rfl⟩
    | cons c rest =>
      have hc := hr c rfl
      simp [hc]
  | cons c cs ih =>
    rw [List.all_cons, Bool.and_eq_true] at h
    obtain ⟨h1, h2⟩ := ih h.2
    simp [h.1, h1, h2]

section Rules

variable {ν : Type} (N : Numbers ν) (fuel : ℕ)

theorem number_print (n : ν) {rest : List Char} (h : EndsNumber rest) :
    number N (N.print n ++ rest) = some (.number n, rest) := by
  have hn := N.print_isNumber n
  obtain ⟨h1, h2⟩ := takeWhile_append_of_ends (all_numberChar_of_isNumber hn) h
  rw [number, h1, h2, if_pos hn, N.read_print]

theorem value_string {s : List Char} {cs rest : List Char}
    (h : stringBody cs.length cs = some (s, rest)) :
    value N (fuel + 1) ('"' :: cs) = some (.string (String.ofList s), rest) := by
  simp [value, h]

theorem value_number (n : ν) {rest : List Char} (h : EndsNumber rest) :
    value N (fuel + 1) (N.print n ++ rest) = some (.number n, rest) := by
  have hn := N.print_isNumber n
  obtain ⟨c, cs, hc⟩ := List.exists_cons_of_ne_nil (ne_nil_of_isNumber hn)
  have hch : isNumberChar c = true := by
    have := all_numberChar_of_isNumber hn
    rw [hc, List.all_cons, Bool.and_eq_true] at this
    exact this.1
  have hne : ∀ d, isNumberChar d = false → c ≠ d := by
    rintro d hd rfl
    rw [hch] at hd
    cases hd
  rw [← number_print N n h, hc, List.cons_append]
  have h1 := hne '{' rfl
  have h2 := hne '[' rfl
  have h3 := hne '"' rfl
  have h4 := hne 't' rfl
  have h5 := hne 'f' rfl
  have h6 := hne 'n' rfl
  rw [value] <;> simp [h1, h2, h3, h4, h5, h6]

theorem value_true (rest : List Char) :
    value N (fuel + 1) ("true".toList ++ rest) = some (.boolean true, rest) := rfl

theorem value_false (rest : List Char) :
    value N (fuel + 1) ("false".toList ++ rest) = some (.boolean false, rest) := rfl

theorem value_null (rest : List Char) :
    value N (fuel + 1) ("null".toList ++ rest) = some (.null, rest) := rfl

theorem skipWs_cons {c : Char} (h : isWs c = false) (cs : List Char) :
    skipWs (c :: cs) = c :: cs := by
  simp [skipWs, h]

/-- An array that is not empty. -/
theorem value_array {c : Char} {cs rest : List Char} {vs : List (Value ν)} (hws : isWs c = false)
    (hc : c ≠ ']') (h : elements N fuel (c :: cs) = some (vs, rest)) :
    value N (fuel + 1) ('[' :: c :: cs) = some (.array vs, rest) := by
  rw [value]
  simp only [skipWs_cons hws]
  split
  · rename_i heq
    exact absurd (List.cons.inj heq).1 hc
  · rw [h]
    rfl

/-- An object that is not empty. -/
theorem value_object {cs rest : List Char} {ms : List (String × Value ν)}
    (h : members N fuel ('"' :: cs) = some (ms, rest)) :
    value N (fuel + 1) ('{' :: '"' :: cs) = some (.object ms, rest) := by
  rw [value]
  simp [skipWs_cons (c := '"') rfl, h]

/-- The last element. -/
theorem elements_last {cs rest : List Char} {v : Value ν}
    (h : value N fuel cs = some (v, ']' :: rest)) :
    elements N (fuel + 1) cs = some ([v], rest) := by
  rw [elements, h]
  rfl

/-- An element before others. -/
theorem elements_cons {cs rest rest' : List Char} {v : Value ν} {vs : List (Value ν)} {c : Char}
    (h : value N fuel cs = some (v, ',' :: ' ' :: c :: rest)) (hws : isWs c = false)
    (hvs : elements N fuel (c :: rest) = some (vs, rest')) :
    elements N (fuel + 1) cs = some (v :: vs, rest') := by
  have hskip : skipWs (' ' :: c :: rest) = c :: rest := skipWs_cons hws rest
  rw [elements, h]
  simp only [Option.bind_eq_bind, Option.bind_some, skipWs_cons (c := ',') rfl, hskip, hvs]

/-- The last member. -/
theorem members_last {cs cs' rest : List Char} {k : List Char} {v : Value ν} {c : Char}
    (hk : stringBody cs.length cs = some (k, ':' :: ' ' :: c :: cs')) (hws : isWs c = false)
    (h : value N fuel (c :: cs') = some (v, '}' :: rest)) :
    members N (fuel + 1) ('"' :: cs) = some ([(String.ofList k, v)], rest) := by
  have hskip : skipWs (' ' :: c :: cs') = c :: cs' := skipWs_cons hws cs'
  rw [members]
  simp only [hk, Option.bind_eq_bind, Option.bind_some, skipWs_cons (c := ':') rfl, hskip, h,
    skipWs_cons (c := '}') rfl]

/-- A member before others. -/
theorem members_cons {cs cs' rest rest' : List Char} {k : List Char} {v : Value ν}
    {ms : List (String × Value ν)} {c : Char}
    (hk : stringBody cs.length cs = some (k, ':' :: ' ' :: c :: cs')) (hws : isWs c = false)
    (h : value N fuel (c :: cs') = some (v, ',' :: ' ' :: '"' :: rest))
    (hms : members N fuel ('"' :: rest) = some (ms, rest'))
    (hnew : String.ofList k ∉ ms.map Prod.fst) :
    members N (fuel + 1) ('"' :: cs) = some ((String.ofList k, v) :: ms, rest') := by
  have hskip : skipWs (' ' :: c :: cs') = c :: cs' := skipWs_cons hws cs'
  have hskip' : skipWs (' ' :: '"' :: rest) = '"' :: rest := rfl
  rw [members]
  simp only [hk, Option.bind_eq_bind, Option.bind_some, skipWs_cons (c := ':') rfl, hskip, h,
    skipWs_cons (c := ',') rfl, hskip', hms]
  rw [addMember, if_neg hnew]

end Rules

/-! ## What a text of a value needs -/

/-- The characters that writing a special character takes. -/
def heavy (c : Char) : Bool := c == '"' || c == '\\' || c == 'u'

def weight (cs : List Char) : ℕ := cs.countP heavy

/-- The control characters with a two-character escape. -/
def hasShortEscape (c : Char) : Bool := [0x08, 0x09, 0x0A, 0x0C, 0x0D].contains c.toNat

/-- The least weight of a character inside a string. -/
def cost (c : Char) : ℕ :=
  if c = '"' ∨ c = '\\' then 2
  else if c.toNat < 0x20 then if hasShortEscape c then 1 else 2
  else if c = 'u' then 1
  else 0

/-- The least weight of a string, its quotation marks included. -/
def stringCost (s : List Char) : ℕ := 2 + (s.map cost).sum

variable {ν : Type}

mutual
/-- The least weight of a text of a value. -/
def Value.cost : Value ν → ℕ
  | .object members => membersCost members
  | .array elements => elementsCost elements
  | .string s => stringCost s.toList
  | .number _ => 0
  | .boolean true => 1
  | .boolean false => 0
  | .null => 1

def membersCost : List (String × Value ν) → ℕ
  | [] => 0
  | (k, v) :: members => stringCost k.toList + v.cost + membersCost members

def elementsCost : List (Value ν) → ℕ
  | [] => 0
  | v :: elements => v.cost + elementsCost elements
end

theorem weight_cons (c : Char) (cs : List Char) :
    weight (c :: cs) = weight cs + if heavy c then 1 else 0 := List.countP_cons

@[simp] theorem weight_nil : weight [] = 0 := rfl

theorem weight_singleton (c : Char) : weight [c] = if heavy c then 1 else 0 := by
  rw [weight_cons, weight_nil, Nat.zero_add]

theorem weight_append (cs ds : List Char) : weight (cs ++ ds) = weight cs + weight ds :=
  List.countP_append

theorem weight_skipWs (cs : List Char) : weight (skipWs cs) ≤ weight cs :=
  (List.dropWhile_sublist isWs).countP_le

theorem weight_dropWhile (p : Char → Bool) (cs : List Char) :
    weight (cs.dropWhile p) ≤ weight cs := (List.dropWhile_sublist p).countP_le

theorem cost_le_two (c : Char) : cost c ≤ 2 := by
  unfold cost
  split_ifs <;> omega

theorem membersCost_append (ms ns : List (String × Value ν)) :
    membersCost (ms ++ ns) = membersCost ms + membersCost ns := by
  induction ms with
  | nil => simp [membersCost]
  | cons m ms ih =>
    obtain ⟨k, v⟩ := m
    rw [List.cons_append, membersCost, membersCost, ih]
    omega

mutual
/-- Equal values cost the same. -/
theorem Value.Same.cost_eq : ∀ {v w : Value ν}, v.Same w → v.cost = w.cost
  | _, _, .object h => by
    rw [Value.cost, Value.cost]
    exact h.cost_eq
  | _, _, .array h => by
    rw [Value.cost, Value.cost]
    exact h.cost_eq
  | _, _, .string _ | _, _, .number _ | _, _, .boolean _ | _, _, .null => rfl

theorem SameMembers.cost_eq : ∀ {ms ns : List (String × Value ν)}, SameMembers ms ns →
    membersCost ms = membersCost ns
  | _, _, .nil => rfl
  | _, _, .cons hv hms => by
    have h1 := hv.cost_eq
    have h2 := hms.cost_eq
    rw [membersCost_append] at h2
    rw [membersCost, membersCost_append, membersCost, h1, h2]
    omega

theorem SameElements.cost_eq : ∀ {vs ws : List (Value ν)}, SameElements vs ws →
    elementsCost vs = elementsCost ws
  | _, _, .nil => rfl
  | _, _, .cons hv hvs => by
    rw [elementsCost, elementsCost, hv.cost_eq, hvs.cost_eq]
end

theorem weight_of_hex4 {cs rest : List Char} {u : ℕ} (h : hex4 cs = some (u, rest)) :
    weight rest ≤ weight cs := by
  match cs, h with
  | a :: b :: c :: d :: cs, h =>
    simp only [hex4, Option.bind_eq_bind, Option.bind_eq_some_iff, Option.some.injEq,
      Prod.mk.injEq] at h
    obtain ⟨-, -, -, -, -, -, -, -, -, rfl⟩ := h
    simp only [weight_cons]
    omega

theorem weight_of_readUnicode {cs rest : List Char} {c : Char}
    (h : readUnicode cs = some (c, rest)) : weight rest ≤ weight cs := by
  simp only [readUnicode, Option.bind_eq_bind, Option.bind_eq_some_iff] at h
  obtain ⟨⟨u, cs'⟩, hu, h⟩ := h
  have hw := weight_of_hex4 hu
  simp only at h
  split at h
  · split at h
    · rename_i ds
      simp only [Option.bind_eq_some_iff] at h
      obtain ⟨⟨l, ds'⟩, hl, h⟩ := h
      have hw' := weight_of_hex4 hl
      simp only [weight_cons] at hw
      split at h
      · simp only [Option.some.injEq, Prod.mk.injEq] at h
        obtain ⟨-, rfl⟩ := h
        omega
      · cases h
    · cases h
  · split at h
    · cases h
    · simp only [Option.some.injEq, Prod.mk.injEq] at h
      obtain ⟨-, rfl⟩ := h
      exact hw

/-- The backslash pays for what the rest of the escape does not. -/
theorem cost_le_of_readEscape {cs rest : List Char} {c : Char}
    (h : readEscape cs = some (c, rest)) : cost c + weight rest ≤ weight cs + 1 := by
  rw [readEscape.eq_def] at h
  split at h
  case h_9 cs =>
    have h1 := weight_of_readUnicode h
    have h2 := cost_le_two c
    have h3 : heavy 'u' = true := rfl
    rw [weight_cons, h3, if_pos rfl]
    omega
  case h_10 => cases h
  all_goals
    obtain ⟨rfl, rfl⟩ := Prod.mk.inj (Option.some.inj h)
    rw [weight_cons, Nat.add_comm]
    simp [cost, heavy, hasShortEscape]

theorem cost_le_of_readChar {cs rest : List Char} {c : Char}
    (h : readChar cs = some (some c, rest)) : cost c + weight rest ≤ weight cs := by
  rw [readChar.eq_def] at h
  split at h
  · cases h
  · cases h
  · obtain ⟨⟨d, rest'⟩, hd, heq⟩ := Option.map_eq_some_iff.mp h
    obtain ⟨hc, rfl⟩ := Prod.mk.inj heq
    obtain rfl : d = c := Option.some.inj hc
    have hw := cost_le_of_readEscape hd
    have hb : heavy '\\' = true := rfl
    rw [weight_cons, hb, if_pos rfl]
    exact hw
  · rename_i d cs hq hb
    split at h
    · cases h
    · rename_i hlt
      obtain ⟨hc, rfl⟩ := Prod.mk.inj (Option.some.inj h)
      obtain rfl : d = c := Option.some.inj hc
      have hq' : d ≠ '"' := hq
      have hb' : d ≠ '\\' := hb
      have hcost : cost d = if heavy d then 1 else 0 := by
        simp [cost, heavy, hq', hb', hlt]
      rw [weight_cons, hcost, Nat.add_comm]

theorem weight_of_readChar_none {cs rest : List Char} (h : readChar cs = some (none, rest)) :
    weight cs = weight rest + 1 := by
  rw [readChar.eq_def] at h
  split at h
  · cases h
  · obtain ⟨-, rfl⟩ := Prod.mk.inj (Option.some.inj h)
    rw [weight_cons]
    rfl
  · obtain ⟨⟨d, rest'⟩, -, heq⟩ := Option.map_eq_some_iff.mp h
    cases (Prod.mk.inj heq).1
  · split at h
    · cases h
    · cases (Prod.mk.inj (Option.some.inj h)).1

/-- The closing quotation mark is the last one that counts. -/
theorem cost_le_of_stringBody {fuel : ℕ} {cs s rest : List Char}
    (h : stringBody fuel cs = some (s, rest)) :
    (s.map cost).sum + 1 + weight rest ≤ weight cs := by
  induction fuel generalizing cs s with
  | zero => cases h
  | succ fuel ih =>
    rw [stringBody] at h
    split at h
    · cases h
    · rename_i cs' hc
      obtain ⟨rfl, rfl⟩ := Prod.mk.inj (Option.some.inj h)
      have := weight_of_readChar_none hc
      simp only [List.map_nil, List.sum_nil]
      omega
    · rename_i c cs' hc
      obtain ⟨⟨s', rest'⟩, hs, heq⟩ := Option.map_eq_some_iff.mp h
      simp only [Prod.mk.injEq] at heq
      obtain ⟨rfl, rfl⟩ := heq
      have h1 := cost_le_of_readChar hc
      have h2 := ih hs
      simp only [List.map_cons, List.sum_cons]
      omega

theorem membersCost_addMember (k : String) (v : Value ν) (ms : List (String × Value ν)) :
    membersCost (addMember k v ms) ≤ stringCost k.toList + v.cost + membersCost ms := by
  rw [addMember]
  split_ifs
  · omega
  · rw [membersCost]

section Reader

variable (N : Numbers ν)

/-- The cost of what is read, and the weight of the rest, stay within the weight of the text. -/
theorem cost_le_of_reader (fuel : ℕ) :
    (∀ {cs rest : List Char} {v : Value ν}, value N fuel cs = some (v, rest) →
      v.cost + weight rest ≤ weight cs) ∧
    (∀ {cs rest : List Char} {ms : List (String × Value ν)}, members N fuel cs = some (ms, rest) →
      membersCost ms + weight rest ≤ weight cs) ∧
    (∀ {cs rest : List Char} {vs : List (Value ν)}, elements N fuel cs = some (vs, rest) →
      elementsCost vs + weight rest ≤ weight cs) := by
  induction fuel with
  | zero => exact ⟨fun h => (by cases h), fun h => (by cases h), fun h => (by cases h)⟩
  | succ fuel ih =>
    obtain ⟨ihv, ihm, ihe⟩ := ih
    refine ⟨?_, ?_, ?_⟩
    · intro cs rest v h
      rw [value.eq_def] at h
      simp only at h
      split at h
      · -- an object
        rename_i cs
        have hws := weight_skipWs cs
        rw [weight_cons]
        split at h
        · rename_i cs' heq
          obtain ⟨rfl, rfl⟩ := Prod.mk.inj (Option.some.inj h)
          rw [heq, weight_cons] at hws
          rw [Value.cost, membersCost]
          omega
        · obtain ⟨⟨ms, rest'⟩, hms, heq⟩ := Option.map_eq_some_iff.mp h
          simp only [Prod.mk.injEq] at heq
          obtain ⟨rfl, rfl⟩ := heq
          have := ihm hms
          rw [Value.cost]
          omega
      · -- an array
        rename_i cs
        have hws := weight_skipWs cs
        rw [weight_cons]
        split at h
        · rename_i cs' heq
          obtain ⟨rfl, rfl⟩ := Prod.mk.inj (Option.some.inj h)
          rw [heq, weight_cons] at hws
          rw [Value.cost, elementsCost]
          omega
        · obtain ⟨⟨vs, rest'⟩, hvs, heq⟩ := Option.map_eq_some_iff.mp h
          simp only [Prod.mk.injEq] at heq
          obtain ⟨rfl, rfl⟩ := heq
          have := ihe hvs
          rw [Value.cost]
          omega
      · -- a string
        obtain ⟨⟨s, rest'⟩, hs, heq⟩ := Option.map_eq_some_iff.mp h
        simp only [Prod.mk.injEq] at heq
        obtain ⟨rfl, rfl⟩ := heq
        have := cost_le_of_stringBody hs
        have hq : heavy '"' = true := rfl
        rw [weight_cons, hq, if_pos rfl, Value.cost, stringCost, String.toList_ofList]
        omega
      · obtain ⟨rfl, rfl⟩ := Prod.mk.inj (Option.some.inj h)
        simp [weight_cons, heavy, Value.cost]
        omega
      · obtain ⟨rfl, rfl⟩ := Prod.mk.inj (Option.some.inj h)
        simp [weight_cons, heavy, Value.cost]
      · obtain ⟨rfl, rfl⟩ := Prod.mk.inj (Option.some.inj h)
        simp [weight_cons, heavy, Value.cost]
        omega
      · -- a number
        rw [number] at h
        split at h
        · obtain ⟨rfl, rfl⟩ := Prod.mk.inj (Option.some.inj h)
          have := weight_dropWhile isNumberChar cs
          rw [Value.cost]
          omega
        · cases h
    · intro cs rest ms h
      rw [members.eq_def] at h
      simp only at h
      split at h
      · rename_i cs
        obtain ⟨⟨k, cs₁⟩, hk, h⟩ := Option.bind_eq_some_iff.mp h
        have h1 := cost_le_of_stringBody hk
        have h2 := weight_skipWs cs₁
        have hq : heavy '"' = true := rfl
        rw [weight_cons, hq, if_pos rfl]
        simp only at h
        split at h
        · rename_i cs₂ heq₂
          obtain ⟨⟨v, cs₃⟩, hv, h⟩ := Option.bind_eq_some_iff.mp h
          have h3 := ihv hv
          have h4 := weight_skipWs cs₂
          have h5 := weight_skipWs cs₃
          rw [heq₂, weight_cons] at h2
          simp only at h
          split at h
          · rename_i cs₄ heq₄
            obtain ⟨⟨ms', cs₅⟩, hms, h⟩ := Option.bind_eq_some_iff.mp h
            have h6 := ihm hms
            have h7 := weight_skipWs cs₄
            have h8 := membersCost_addMember (String.ofList k) v ms'
            rw [heq₄, weight_cons] at h5
            rw [stringCost, String.toList_ofList] at h8
            simp only [Option.some.injEq, Prod.mk.injEq] at h
            obtain ⟨rfl, rfl⟩ := h
            omega
          · rename_i cs₄ heq₄
            rw [heq₄, weight_cons] at h5
            obtain ⟨rfl, rfl⟩ := Prod.mk.inj (Option.some.inj h)
            rw [membersCost, membersCost, stringCost, String.toList_ofList]
            omega
          · cases h
        · cases h
      · cases h
    · intro cs rest vs h
      rw [elements] at h
      obtain ⟨⟨v, cs₁⟩, hv, h⟩ := Option.bind_eq_some_iff.mp h
      have h1 := ihv hv
      have h2 := weight_skipWs cs₁
      simp only at h
      split at h
      · rename_i cs₂ heq₂
        obtain ⟨⟨vs', cs₃⟩, hvs, h⟩ := Option.bind_eq_some_iff.mp h
        have h3 := ihe hvs
        have h4 := weight_skipWs cs₂
        rw [heq₂, weight_cons] at h2
        simp only [Option.some.injEq, Prod.mk.injEq] at h
        obtain ⟨rfl, rfl⟩ := h
        rw [elementsCost]
        omega
      · rename_i cs₂ heq₂
        rw [heq₂, weight_cons] at h2
        obtain ⟨rfl, rfl⟩ := Prod.mk.inj (Option.some.inj h)
        rw [elementsCost, elementsCost]
        omega
      · cases h

/-- **A text weighs at least what its value costs.** -/
theorem cost_le_of_parse {text : List Char} {v : Value ν} (h : parse N text = some v) :
    v.cost ≤ weight text := by
  rw [parse] at h
  split at h
  · cases h
  · rename_i w rest hv
    have h1 := (cost_le_of_reader N _).1 hv
    have h2 := weight_skipWs text
    split at h
    · obtain rfl := Option.some.inj h
      omega
    · cases h

end Reader

/-! ## Bytes -/

/-- The UTF-8 encoding. -/
def utf8 (cs : List Char) : List UInt8 := cs.flatMap String.utf8EncodeChar

theorem utf8_append (cs ds : List Char) : utf8 (cs ++ ds) = utf8 cs ++ utf8 ds :=
  List.flatMap_append

theorem utf8_cons (c : Char) (cs : List Char) :
    utf8 (c :: cs) = String.utf8EncodeChar c ++ utf8 cs := List.flatMap_cons

/-- A JSON text as bytes. -/
def parseBytes (N : Numbers ν) (bytes : List UInt8) : Option (Value ν) :=
  bytes.toByteArray.utf8Decode?.bind fun cs => parse N cs.toList

theorem parseBytes_utf8 (N : Numbers ν) (cs : List Char) :
    parseBytes N (utf8 cs) = parse N cs := by
  have h : (utf8 cs).toByteArray = cs.utf8Encode := rfl
  rw [parseBytes, h, List.utf8Decode?_utf8Encode]
  simp

/-- Every byte of a character beyond ASCII is beyond ASCII. -/
theorem le_of_mem_utf8EncodeChar {c : Char} (hc : 0x80 ≤ c.toNat) {b : UInt8}
    (hb : b ∈ String.utf8EncodeChar c) : 0x80 ≤ b.toNat := by
  have hlow : ¬ c.val.toNat ≤ 0x7f := by
    rw [not_le]
    exact hc
  have hmod : ∀ n d k : ℕ, 0x80 ≤ d → d + k ≤ 256 → 0 < k → 0x80 ≤ (UInt8.ofNat (n % k + d)).toNat := by
    intro n d k hd hk hpos
    have := Nat.mod_lt n hpos
    rw [UInt8.toNat_ofNat', Nat.mod_eq_of_lt (by omega)]
    omega
  rw [String.utf8EncodeChar, if_neg hlow] at hb
  split_ifs at hb
  · simp only [List.mem_cons, List.not_mem_nil, or_false] at hb
    rcases hb with rfl | rfl
    · exact hmod _ 0xc0 0x20 (by decide) (by decide) (by decide)
    · exact hmod _ 0x80 0x40 (by decide) (by decide) (by decide)
  · simp only [List.mem_cons, List.not_mem_nil, or_false] at hb
    rcases hb with rfl | rfl | rfl
    · exact hmod _ 0xe0 0x10 (by decide) (by decide) (by decide)
    · exact hmod _ 0x80 0x40 (by decide) (by decide) (by decide)
    · exact hmod _ 0x80 0x40 (by decide) (by decide) (by decide)
  · simp only [List.mem_cons, List.not_mem_nil, or_false] at hb
    rcases hb with rfl | rfl | rfl | rfl
    · exact hmod _ 0xf0 0x08 (by decide) (by decide) (by decide)
    · exact hmod _ 0x80 0x40 (by decide) (by decide) (by decide)
    · exact hmod _ 0x80 0x40 (by decide) (by decide) (by decide)
    · exact hmod _ 0x80 0x40 (by decide) (by decide) (by decide)

theorem utf8EncodeChar_of_lt {c : Char} (hc : c.toNat < 0x80) :
    String.utf8EncodeChar c = [UInt8.ofNat c.toNat] := by
  have hlow : c.val.toNat ≤ 0x7f := Nat.le_of_lt_succ hc
  rw [String.utf8EncodeChar, if_pos hlow]
  rfl

end Json
