import TypeDBDriver.Answer.Json
import TypeDBDriver.Lib.JsonTree

/-!
# Documents of the C++ driver

A document reaches the C++ driver as JSON text. The parser is any reader of the grammar: it keeps
numbers as they are written, and which kind it gives them is a parameter. Doubles are abstract.

* `Platform`, `Platform.Classifies`: the parameters, and the documented kinds of numbers.
* `build`, `JSON.parse`: the tree made from what the parser read.
* `appendToString`, `JSON.toString`: the tree printed.
* `exact`: a number as the text means it.
* `build_eq`: the tree is the parsed value with its numbers converted, its objects ordered by name.
* `weight_toString`: quotation marks, backslashes and control characters are printed bare, which
  leaves the text too light for its tree.
* **`faithful_iff`**: exactly which texts keep their integers, and which trees are read back.
-/

namespace TypeDBDriver.Cpp

open Json (Literal literals emplace)

/-! ## Numbers -/

/-- Whether `long` has 64 bits. `int` has 32 in both models. -/
inductive DataModel
  | lp64
  | llp64

def DataModel.longBits : DataModel → ℕ
  | lp64 => 64
  | llp64 => 32

/-- The parser's kinds of numbers. -/
inductive Token
  | numberInteger (i : ℤ)
  | numberUnsigned (n : ℕ)
  | numberFloat

/-- What the driver is compiled for and with; `δ` are its doubles. -/
structure Platform (δ : Type) where
  dataModel : DataModel
  /-- the kind that the parser gives a number -/
  token : Literal → Token
  strtod : List Char → δ
  printDouble : δ → List Char

/-- The number is written with a minus sign. -/
def Signed (l : Literal) : Prop := l.val.head? = some '-'

instance (l : Literal) : Decidable (Signed l) := by unfold Signed; infer_instance

/-- The documented kinds: integers of 64 bits are signed when they are written with a minus, and
unsigned otherwise; a number with a fraction or an exponent is a double. -/
structure Platform.Classifies {δ : Type} (P : Platform δ) : Prop where
  float : ∀ l : Literal, l.integer = none → P.token l = .numberFloat
  integer : ∀ (l : Literal) (i : ℤ), l.integer = some i → Signed l → -2 ^ 63 ≤ i →
    P.token l = .numberInteger i
  unsigned : ∀ (l : Literal) (i : ℤ), l.integer = some i → ¬ Signed l → i < 2 ^ 64 →
    P.token l = .numberUnsigned i.toNat

/-- The numbers of a tree. -/
inductive Number (δ : Type)
  | long (l : ℤ)
  | double (d : δ)

/-- A tree; maps are ordered by key. -/
abbrev JSON (δ : Type) : Type := Json.Value (Number δ)

/-- `get<int>()`. -/
def getInt (i : ℤ) : ℤ := i.bmod (2 ^ 32)

/-- `get<unsigned>()`. -/
def getUnsigned (n : ℕ) : ℕ := n % 2 ^ 32

/-- `(JSONLong)`. -/
def toLong (m : DataModel) (i : ℤ) : ℤ := i.bmod (2 ^ m.longBits)

/-! ## Parsing and printing -/

section Tree

variable {δ : Type} (P : Platform δ)

/-- `JSONBuilder::build` on a number. -/
def buildNumber (l : Literal) : Number δ :=
  match P.token l with
  | .numberInteger i => .long (toLong P.dataModel (getInt i))
  | .numberUnsigned n => .long (toLong P.dataModel (getUnsigned n))
  | .numberFloat => .double (P.strtod l.val)

mutual
/-- `JSONBuilder::build`. -/
def build : Json.Value Literal → JSON δ
  | .boolean b => .boolean b
  | .number l => .number (buildNumber P l)
  | .string s => .string s
  | .object items => .object (buildMap items [])
  | .array items => .array (buildArray items)
  | .null => .null

/-- `JSONBuilder::buildMap`, from the entries made so far. -/
def buildMap : List (String × Json.Value Literal) → List (String × JSON δ) → List (String × JSON δ)
  | [], m => m
  | (key, value) :: items, m => buildMap items (emplace key (build value) m)

/-- `JSONBuilder::buildArray`. -/
def buildArray : List (Json.Value Literal) → List (JSON δ)
  | [] => []
  | item :: items => build item :: buildArray items
end

/-- `JSON::parse`; `none` is the parser's exception. -/
def JSON.parse (text : List Char) : Option (JSON δ) := (Json.parse literals text).map (build P)

mutual
def appendToString : JSON δ → List Char
  | .string string => '"' :: string.toList ++ ['"']
  | .array array => '[' :: appendArray 0 array ++ [']']
  | .object map => '{' :: appendMap true map ++ ['}']
  | .boolean true => "true".toList
  | .boolean false => "false".toList
  | .number (.long l) => Numeral.displaySigned l
  | .number (.double d) => P.printDouble d
  | .null => "null".toList

/-- The elements from index `i` on. -/
def appendArray : ℕ → List (JSON δ) → List Char
  | _, [] => []
  | i, json :: array =>
    (if i > 0 then ", ".toList else []) ++ appendToString json ++ appendArray (i + 1) array

def appendMap : Bool → List (String × JSON δ) → List Char
  | _, [] => []
  | first, (k, json) :: map =>
    (if !first then ", ".toList else []) ++
      ('"' :: k.toList ++ '"' :: ':' :: ' ' :: appendToString json) ++ appendMap false map
end

/-- `JSON::toString`. -/
def JSON.toString (json : JSON δ) : List Char := appendToString P json

/-! ## The meaning of a text -/

/-- A number as the text means it: integers are themselves. -/
def exact (l : Literal) : Number δ :=
  match l.integer with
  | some i => .long i
  | none => .double (P.strtod l.val)

/-- An integer is at least `low` and below `high`. -/
def Within (low high : ℤ) (l : Literal) : Prop := ∀ i ∈ l.integer, low ≤ i ∧ i < high

/-- The unsigned integers that `unsigned` and `long` both hold are below this. -/
def DataModel.limit : DataModel → ℤ
  | lp64 => 2 ^ 32
  | llp64 => 2 ^ 31

def Number.IsLong : Number δ → Prop
  | long _ => True
  | double _ => False

/-- A `long` that an `int` or an `unsigned` is converted to. -/
def Number.InRange (m : DataModel) : Number δ → Prop
  | long l => -2 ^ 31 ≤ l ∧ l < m.limit
  | double _ => True

/-- A string with nothing to escape. -/
def Clean (s : String) : Prop := ∀ c ∈ s.toList, TypeDBDriver.JSON.needsEscape c = false

end Tree

/-! ## Conversions -/

section Conversions

variable {δ : Type} {P : Platform δ}

theorem limit_bounds (m : DataModel) : 2 ^ 31 ≤ m.limit ∧ m.limit ≤ 2 ^ 32 := by
  cases m <;> simp [DataModel.limit]

theorem getInt_bounds (i : ℤ) : -2 ^ 31 ≤ getInt i ∧ getInt i < 2 ^ 31 := by
  have h1 : -(((2 ^ 32 : ℕ) : ℤ) / 2) ≤ getInt i := Int.le_bmod (by decide)
  have h2 : getInt i < (((2 ^ 32 : ℕ) : ℤ) + 1) / 2 := Int.bmod_lt (by decide)
  omega

theorem getInt_of_le {i : ℤ} (hl : -2 ^ 31 ≤ i) (hh : i < 2 ^ 31) : getInt i = i :=
  Int.bmod_eq_of_le (by omega) (by omega)

theorem getUnsigned_of_lt {n : ℕ} (h : (n : ℤ) < 2 ^ 32) : getUnsigned n = n :=
  Nat.mod_eq_of_lt (by omega)

theorem toLong_of_le {m : DataModel} {i : ℤ} (hl : -2 ^ 31 ≤ i) (hh : i < m.limit) :
    toLong m i = i := by
  cases m with
  | lp64 =>
    simp only [DataModel.limit] at hh
    exact Int.bmod_eq_of_le (by simp only [DataModel.longBits]; omega)
      (by simp only [DataModel.longBits]; omega)
  | llp64 =>
    simp only [DataModel.limit] at hh
    exact Int.bmod_eq_of_le (by simp only [DataModel.longBits]; omega)
      (by simp only [DataModel.longBits]; omega)

theorem toLong_getUnsigned_bounds (m : DataModel) (n : ℕ) :
    -2 ^ 31 ≤ toLong m (getUnsigned n) ∧ toLong m (getUnsigned n) < m.limit := by
  have hlt : getUnsigned n < 2 ^ 32 := Nat.mod_lt n (by decide)
  cases m with
  | lp64 =>
    have hlt' : (getUnsigned n : ℤ) < DataModel.lp64.limit := by
      simp only [DataModel.limit]
      omega
    rw [toLong_of_le (by omega) hlt']
    exact ⟨by omega, hlt'⟩
  | llp64 => exact getInt_bounds (getUnsigned n)

/-- Whatever is converted ends up in the range. -/
theorem buildNumber_inRange (l : Literal) : (buildNumber P l).InRange P.dataModel := by
  rw [buildNumber]
  cases P.token l with
  | numberInteger i =>
    have h := getInt_bounds i
    have hlimit := limit_bounds P.dataModel
    have hlong := toLong_of_le (m := P.dataModel) h.1 (by omega)
    simp only [hlong, Number.InRange]
    exact ⟨h.1, by omega⟩
  | numberUnsigned n => exact toLong_getUnsigned_bounds P.dataModel n
  | numberFloat => trivial

/-- With a minus sign, an integer is not positive. -/
theorem signed_nonpos {l : Literal} {i : ℤ} (hi : l.integer = some i) (hs : Signed l) : i ≤ 0 := by
  obtain ⟨ds, hds⟩ := List.head?_eq_some_iff.mp hs
  rw [Json.Literal.integer, hds, Json.signedDigits] at hi
  split_ifs at hi
  obtain rfl := Option.some.inj hi
  omega

/-- Without a minus sign, an integer is not negative. -/
theorem nonneg_of_not_signed {l : Literal} {i : ℤ} (hi : l.integer = some i) (hs : ¬ Signed l) :
    0 ≤ i := by
  rw [Json.Literal.integer] at hi
  split_ifs at hi
  obtain rfl := Option.some.inj hi
  rw [Json.signedDigits]
  · exact Int.natCast_nonneg _
  · intro ds hds
    exact hs (by rw [Signed, hds]; rfl)

/-- **Integers in the range are converted to themselves.** -/
theorem buildNumber_eq_exact (hP : P.Classifies) {l : Literal}
    (h : Within (-2 ^ 31) P.dataModel.limit l) : buildNumber P l = exact P l := by
  have hlimit := limit_bounds P.dataModel
  cases hint : l.integer with
  | none => simp only [buildNumber, exact, hint, hP.float l hint]
  | some i =>
    obtain ⟨hl, hh⟩ := h i hint
    rw [buildNumber, exact, hint]
    by_cases hs : Signed l
    · have hneg := signed_nonpos hint hs
      simp only [hP.integer l i hint hs (by omega), getInt_of_le hl (by omega), toLong_of_le hl hh]
    · have hpos := nonneg_of_not_signed hint hs
      have hn : (i.toNat : ℤ) = i := Int.toNat_of_nonneg hpos
      simp only [hP.unsigned l i hint hs (by omega), getUnsigned_of_lt (n := i.toNat) (by omega), hn,
        toLong_of_le hl hh]

/-- The text of a number of a tree. -/
def literal : Number δ → Literal
  | .long l => .ofInt l
  | .double _ => .ofInt 0

theorem buildNumber_literal (hP : P.Classifies) {n : Number δ} (hr : n.InRange P.dataModel) (hl : n.IsLong) :
    buildNumber P (literal n) = n := by
  cases n with
  | long l =>
    have hint : (literal (.long l : Number δ)).integer = some l := Json.Literal.integer_ofInt l
    have hwithin : Within (-2 ^ 31) P.dataModel.limit (literal (.long l : Number δ)) := by
      intro i hi
      rw [hint] at hi
      obtain rfl := Option.some.inj hi
      exact hr
    rw [buildNumber_eq_exact hP hwithin, exact, hint]
  | double d => exact absurd hl id

end Conversions

/-! ## What is built -/

section Built

variable {δ : Type} (P : Platform δ)

mutual
/-- **The numbers are converted, the objects ordered, and nothing else is done.** -/
theorem build_eq : ∀ v : Json.Value Literal, build P v = (v.map (buildNumber P)).sorted
  | .object items => by
    rw [build, Json.Value.map, Json.Value.sorted, buildMap_eq items []]
  | .array items => by
    rw [build, Json.Value.map, Json.Value.sorted, buildArray_eq items]
  | .string _ | .number _ | .boolean _ | .null => by
    simp only [build, Json.Value.map, Json.Value.sorted]

theorem buildMap_eq : ∀ (items : List (String × Json.Value Literal)) (m : List (String × JSON δ)),
    buildMap P items m = Json.sortMembers (Json.mapMembers (buildNumber P) items) m
  | [], _ => rfl
  | (key, value) :: items, m => by
    rw [buildMap, Json.mapMembers, Json.sortMembers, build_eq value, buildMap_eq items]

theorem buildArray_eq : ∀ items : List (Json.Value Literal),
    buildArray P items = Json.sortElements (Json.mapElements (buildNumber P) items)
  | [] => rfl
  | item :: items => by
    rw [buildArray, Json.mapElements, Json.sortElements, build_eq item, buildArray_eq items]
end

/-- What is known of every tree that was parsed. -/
theorem parsed {text : List Char} {t : JSON δ} (h : JSON.parse P text = some t) :
    ∃ v, Json.parse literals text = some v ∧ t.IsSorted ∧
      (v.map (buildNumber P)).Same t ∧ t.EachNumber (Number.InRange P.dataModel) := by
  obtain ⟨v, hv, rfl⟩ := Option.map_eq_some_iff.mp h
  have hdistinct : (v.map (buildNumber P)).Distinct :=
    (Json.Value.distinct_map (buildNumber P) v).mpr (Json.distinct_of_parse hv)
  have hsame := Json.Value.same_sorted hdistinct
  have hrange : (v.map (buildNumber P)).EachNumber (Number.InRange P.dataModel) :=
    (Json.Value.each_map _ _ _ v).mpr
      (Json.Value.each_of_forall (fun _ => trivial) (fun l => buildNumber_inRange l) v)
  rw [build_eq]
  exact ⟨v, hv, Json.Value.isSorted_sorted _, hsame, hsame.each.mp hrange⟩

/-- **A tree means what its text means just when every integer of the text is in the range.** -/
theorem same_exact_iff (hP : P.Classifies) {text : List Char} {v : Json.Value Literal}
    (hv : Json.parse literals text = some v) :
    (∃ t, JSON.parse P text = some t ∧ (v.map (exact P)).Same t) ↔
      v.EachNumber (Within (-2 ^ 31) P.dataModel.limit) := by
  constructor
  · rintro ⟨t, ht, hsame⟩
    obtain ⟨-, -, -, -, hrange⟩ := parsed P ht
    have heach := (Json.Value.each_map _ _ _ v).mp (hsame.each.mpr hrange)
    refine heach.mono (fun _ h => h) fun l hl i hi => ?_
    rw [Function.comp, exact, hi] at hl
    exact hl
  · intro hwithin
    have hmap : v.map (buildNumber P) = v.map (exact P) :=
      Json.Value.map_congr (hwithin.mono (fun _ h => h) fun _ h => buildNumber_eq_exact hP h)
    have ht : JSON.parse P text = some (build P v) := by rw [JSON.parse, hv, Option.map_some]
    obtain ⟨w, hw, -, hsame, -⟩ := parsed P ht
    rw [hv] at hw
    obtain rfl := Option.some.inj hw
    rw [hmap] at hsame
    exact ⟨build P v, ht, hsame⟩

end Built

/-! ## What is printed -/

section Printed

variable {δ : Type} (P : Platform δ)

mutual
theorem keysClean_of_each {ν : Type} {Q : ν → Prop} : ∀ {v : Json.Value ν}, v.Each Clean Q →
    TypeDBDriver.JSON.KeysClean v
  | .object _, h => by
    rw [Json.Value.Each] at h
    rw [TypeDBDriver.JSON.KeysClean]
    exact keysCleanObject_of_each h
  | .array _, h => by
    rw [Json.Value.Each] at h
    rw [TypeDBDriver.JSON.KeysClean]
    exact keysCleanArray_of_each h
  | .string _, _ | .number _, _ | .boolean _, _ | .null, _ => trivial

theorem keysCleanObject_of_each {ν : Type} {Q : ν → Prop} : ∀ {m : List (String × Json.Value ν)},
    Json.EachMember Clean Q m → TypeDBDriver.JSON.KeysCleanObject m
  | [], _ => trivial
  | (_, _) :: _, h => ⟨h.1, keysClean_of_each h.2.1, keysCleanObject_of_each h.2.2⟩

theorem keysCleanArray_of_each {ν : Type} {Q : ν → Prop} : ∀ {a : List (Json.Value ν)},
    Json.EachElement Clean Q a → TypeDBDriver.JSON.KeysCleanArray a
  | [], _ => trivial
  | _ :: _, h => ⟨keysClean_of_each h.1, keysCleanArray_of_each h.2⟩
end

theorem flatMap_escapeChar {s : String} (h : Clean s) :
    s.toList.flatMap TypeDBDriver.JSON.escapeChar = s.toList := by
  have hone : ∀ c ∈ s.toList, TypeDBDriver.JSON.escapeChar c = [c] :=
    fun c hc => TypeDBDriver.JSON.escapeChar_clean (h c hc)
  rw [List.flatMap_congr hone, List.flatMap_singleton']

mutual
/-- Without anything to escape, the text is one that escapes what it has to. -/
theorem appendToString_eq : ∀ {t : JSON δ}, t.Each Clean Number.IsLong →
    appendToString P t = TypeDBDriver.JSON.text literals (t.map literal)
  | .object map, h => by
    rw [Json.Value.Each] at h
    rw [appendToString, Json.Value.map, TypeDBDriver.JSON.text, appendMap_eq true 0 (by simp) h]
  | .array array, h => by
    rw [Json.Value.Each] at h
    rw [appendToString, Json.Value.map, TypeDBDriver.JSON.text, appendArray_eq 0 h]
  | .string s, h => by
    rw [appendToString, Json.Value.map, TypeDBDriver.JSON.text, flatMap_escapeChar h]
  | .number (.long l), _ => rfl
  | .number (.double _), h => absurd h id
  | .boolean true, _ => rfl
  | .boolean false, _ => rfl
  | .null, _ => rfl

theorem appendMap_eq (first : Bool) (i : ℕ) (hi : first = true ↔ i = 0) :
    ∀ {map : List (String × JSON δ)}, Json.EachMember Clean Number.IsLong map →
      appendMap P first map = TypeDBDriver.JSON.textObject literals i (Json.mapMembers literal map)
  | [], _ => rfl
  | (k, json) :: map, h => by
    have hsep : (if !first then ", ".toList else []) = TypeDBDriver.JSON.separator i := by
      cases first <;> simp_all [TypeDBDriver.JSON.separator, Nat.pos_iff_ne_zero]
    rw [appendMap, Json.mapMembers, TypeDBDriver.JSON.textObject, hsep,
      appendToString_eq h.2.1, appendMap_eq false (i + 1) (by simp) h.2.2]

theorem appendArray_eq (i : ℕ) : ∀ {array : List (JSON δ)},
    Json.EachElement Clean Number.IsLong array → appendArray P i array =
      TypeDBDriver.JSON.textArray literals i (Json.mapElements literal array)
  | [], _ => rfl
  | json :: array, h => by
    rw [appendArray, Json.mapElements, TypeDBDriver.JSON.textArray, TypeDBDriver.JSON.separator,
      appendToString_eq h.1, appendArray_eq (i + 1) h.2]
end

mutual
/-- What the strings and keys of a tree lack when they are printed bare. -/
def lack : JSON δ → ℕ
  | .string string => TypeDBDriver.JSON.keyLack string.toList
  | .array array => lackArray array
  | .object map => lackMap map
  | .boolean _ | .number _ | .null => 0

def lackMap : List (String × JSON δ) → ℕ
  | [] => 0
  | (k, json) :: map => TypeDBDriver.JSON.keyLack k.toList + lack json + lackMap map

def lackArray : List (JSON δ) → ℕ
  | [] => 0
  | json :: array => lack json + lackArray array
end

mutual
theorem lack_eq_zero : ∀ t : JSON δ, lack t = 0 ↔ t.EachString Clean
  | .object map => by rw [lack, Json.Value.EachString, Json.Value.Each, lackMap_eq_zero map]
  | .array array => by rw [lack, Json.Value.EachString, Json.Value.Each, lackArray_eq_zero array]
  | .string s => by
    rw [lack, Json.Value.EachString, Json.Value.Each, TypeDBDriver.JSON.keyLack_eq_zero]
    rfl
  | .number _ | .boolean _ | .null => by simp [lack, Json.Value.Each]

theorem lackMap_eq_zero : ∀ map : List (String × JSON δ),
    lackMap map = 0 ↔ Json.EachMember Clean (fun _ => True) map
  | [] => by simp [lackMap, Json.EachMember]
  | (k, json) :: map => by
    rw [lackMap, Json.EachMember, Nat.add_eq_zero_iff, Nat.add_eq_zero_iff,
      TypeDBDriver.JSON.keyLack_eq_zero, lack_eq_zero json, lackMap_eq_zero map, and_assoc]
    rfl

theorem lackArray_eq_zero : ∀ array : List (JSON δ),
    lackArray array = 0 ↔ Json.EachElement Clean (fun _ => True) array
  | [] => by simp [lackArray, Json.EachElement]
  | json :: array => by
    rw [lackArray, Json.EachElement, Nat.add_eq_zero_iff, lack_eq_zero json,
      lackArray_eq_zero array]
end

mutual
/-- **A printed tree weighs what it costs, less what its strings and keys lack.** -/
theorem weight_toString : ∀ {t : JSON δ}, t.EachNumber Number.IsLong →
    lack t + Json.weight (appendToString P t) = t.cost
  | .object map, h => by
    rw [Json.Value.EachNumber, Json.Value.Each] at h
    have hmap := weight_appendMap true h
    have h1 : Json.weight ('{' :: appendMap P true map ++ ['}']) =
        Json.weight (appendMap P true map) := by
      simp [Json.weight_cons, Json.weight_append, Json.heavy]
    rw [lack, appendToString, Json.Value.cost, h1, hmap]
  | .array array, h => by
    rw [Json.Value.EachNumber, Json.Value.Each] at h
    have harray := weight_appendArray 0 h
    have h1 : Json.weight ('[' :: appendArray P 0 array ++ [']']) =
        Json.weight (appendArray P 0 array) := by
      simp [Json.weight_cons, Json.weight_append, Json.heavy]
    rw [lack, appendToString, Json.Value.cost, h1, harray]
  | .string s, _ => by
    have hs := TypeDBDriver.JSON.keyLack_add s.toList
    have h1 : Json.weight ('"' :: s.toList ++ ['"']) = 2 + Json.weight s.toList := by
      simp [Json.weight_cons, Json.weight_append, Json.heavy]
      omega
    rw [lack, appendToString, Json.Value.cost, Json.stringCost, h1]
    omega
  | .number (.long l), _ => by
    rw [lack, appendToString, Json.Value.cost,
      TypeDBDriver.JSON.weight_of_isNumber (Json.isNumber_displaySigned l)]
  | .number (.double _), h => absurd h id
  | .boolean true, _ => rfl
  | .boolean false, _ => rfl
  | .null, _ => rfl

theorem weight_appendMap (first : Bool) : ∀ {map : List (String × JSON δ)},
    Json.EachMember (fun _ => True) Number.IsLong map →
      lackMap map + Json.weight (appendMap P first map) = Json.membersCost map
  | [], _ => rfl
  | (k, json) :: map, h => by
    have hk := TypeDBDriver.JSON.keyLack_add k.toList
    have hjson := weight_toString h.2.1
    have hmap := weight_appendMap false h.2.2
    have hsep : Json.weight (if !first then ", ".toList else []) = 0 := by
      cases first <;> rfl
    have h1 : Json.weight ('"' :: k.toList ++ '"' :: ':' :: ' ' :: appendToString P json) =
        2 + Json.weight k.toList + Json.weight (appendToString P json) := by
      simp [Json.weight_cons, Json.weight_append, Json.heavy]
      omega
    rw [lackMap, appendMap, Json.membersCost, Json.stringCost, Json.weight_append,
      Json.weight_append, hsep, h1]
    omega

theorem weight_appendArray (i : ℕ) : ∀ {array : List (JSON δ)},
    Json.EachElement (fun _ => True) Number.IsLong array →
      lackArray array + Json.weight (appendArray P i array) = Json.elementsCost array
  | [], _ => rfl
  | json :: array, h => by
    have hjson := weight_toString h.1
    have harray := weight_appendArray (i + 1) h.2
    have hsep : Json.weight (if i > 0 then ", ".toList else []) = 0 :=
      TypeDBDriver.JSON.weight_separator i
    rw [lackArray, appendArray, Json.elementsCost, Json.weight_append, Json.weight_append, hsep]
    omega
end

/-- **A parsed tree is read back just when it has nothing to escape.** -/
theorem read_back_iff (hP : P.Classifies) {text : List Char} {t : JSON δ} (ht : JSON.parse P text = some t)
    (hlong : t.EachNumber Number.IsLong) :
    JSON.parse P (t.toString P) = some t ↔ t.EachString Clean := by
  obtain ⟨-, -, hsorted, -, hrange⟩ := parsed P ht
  constructor
  · intro hback
    obtain ⟨v, hv, -, hsame, -⟩ := parsed P hback
    have h1 := Json.cost_le_of_parse literals hv
    have h2 := weight_toString P hlong
    have h3 := hsame.cost_eq
    rw [Json.Value.cost_map] at h3
    rw [JSON.toString] at h1
    rw [← lack_eq_zero]
    omega
  · intro hclean
    have heach : t.Each Clean Number.IsLong :=
      hclean.imp (fun _ h _ => h) (fun _ _ h => h) hlong
    have hliteral : t.EachNumber fun n => (buildNumber P ∘ literal) n = id n :=
      hrange.imp (fun _ h _ => h) (fun _ hr hl => buildNumber_literal hP hr hl) hlong
    have hdistinct : (t.map literal).Distinct :=
      (Json.Value.distinct_map literal t).mpr hsorted.distinct
    have hkeys : TypeDBDriver.JSON.KeysClean (t.map literal) :=
      keysClean_of_each ((Json.Value.each_map literal Clean (fun _ => True) t).mpr hclean)
    rw [JSON.parse, JSON.toString, appendToString_eq P heach,
      TypeDBDriver.JSON.parse_text literals hdistinct hkeys, Option.map_some, build_eq,
      Json.Value.map_map, Json.Value.map_congr hliteral, Json.Value.map_id,
      Json.Value.sorted_eq_self hsorted]

end Printed

/-! ## Faithfulness -/

/-- **A text's integers are kept just when those that are negative fit an `int` and the others an
`unsigned` that a `long` can hold, and a tree without doubles is read back just when none of its
strings and keys holds a quotation mark, a backslash or a control character.** -/
theorem faithful_iff {δ : Type} (P : Platform δ) (hP : P.Classifies) {text : List Char}
    {v : Json.Value Literal} (hv : Json.parse literals text = some v) :
    ((∃ t, JSON.parse P text = some t ∧ (v.map (exact P)).Same t) ↔
      v.EachNumber (Within (-2 ^ 31) P.dataModel.limit)) ∧
    ∀ t, JSON.parse P text = some t → t.EachNumber Number.IsLong →
      (JSON.parse P (t.toString P) = some t ↔ t.EachString Clean) :=
  ⟨same_exact_iff P hP hv, fun _ ht hlong => read_back_iff P hP ht hlong⟩

/-- The kind of a number; integers beyond 64 bits are taken for doubles. -/
def kindOf (l : Literal) : Token :=
  match l.integer with
  | none => .numberFloat
  | some i =>
    if Signed l then if -2 ^ 63 ≤ i then .numberInteger i else .numberFloat
    else if i < 2 ^ 64 then .numberUnsigned i.toNat
    else .numberFloat

/-- A platform with 64-bit `long` and a single double. -/
def singleDouble : Platform Unit where
  dataModel := .lp64
  token := kindOf
  strtod _ := ()
  printDouble _ := "0".toList

theorem classifies_singleDouble : singleDouble.Classifies where
  float l hl := by simp [singleDouble, kindOf, hl]
  integer l i hl hs hi := by simp only [singleDouble, kindOf, hl, if_pos hs, if_pos hi]
  unsigned l i hl hs hi := by simp only [singleDouble, kindOf, hl, if_neg hs, if_pos hi]

def sampleText : List Char := "\x7b\"a\": [1, -7, null]\x7d".toList

def sampleValue : Json.Value Literal :=
  .object [("a", .array [.number (.ofInt 1), .number (.ofInt (-7)), .null])]

theorem parse_sampleText : Json.parse literals sampleText = some sampleValue := by
  have htext : TypeDBDriver.JSON.text literals sampleValue = sampleText := rfl
  have hdistinct : sampleValue.Distinct := by
    simp [sampleValue, Json.Value.Distinct, Json.DistinctMembers, Json.DistinctElements]
  have hkeys : TypeDBDriver.JSON.KeysClean sampleValue := by
    simp [sampleValue, TypeDBDriver.JSON.KeysClean, TypeDBDriver.JSON.KeysCleanObject,
      TypeDBDriver.JSON.KeysCleanArray, TypeDBDriver.JSON.needsEscape]
  rw [← htext]
  exact TypeDBDriver.JSON.parse_text literals hdistinct hkeys

theorem faithful_iff_sample :
    ((∃ t, JSON.parse singleDouble sampleText = some t ∧
        (sampleValue.map (exact singleDouble)).Same t) ↔
      sampleValue.EachNumber (Within (-2 ^ 31) singleDouble.dataModel.limit)) ∧
    ∀ t, JSON.parse singleDouble sampleText = some t → t.EachNumber Number.IsLong →
      (JSON.parse singleDouble (t.toString singleDouble) = some t ↔ t.EachString Clean) :=
  faithful_iff singleDouble classifies_singleDouble parse_sampleText

theorem buildNumber_four_gib : buildNumber singleDouble (.ofInt 4294967296) = .long 0 := by
  have hint := Json.Literal.integer_ofInt 4294967296
  have hs : ¬ Signed (.ofInt 4294967296) := by
    intro h
    exact absurd (signed_nonpos hint h) (by omega)
  rw [buildNumber, classifies_singleDouble.unsigned _ _ hint hs (by omega)]
  rfl

/-- `4294967296` becomes `0`, and a string of one quotation mark is printed as three of them. -/
theorem not_faithful :
    (¬ ∀ text v, Json.parse literals text = some v → v.EachNumber (Within (-2 ^ 63) (2 ^ 63)) →
      ∃ t, JSON.parse singleDouble text = some t ∧ (v.map (exact singleDouble)).Same t) ∧
    ¬ ∀ text t, JSON.parse singleDouble text = some t → t.EachNumber Number.IsLong →
      JSON.parse singleDouble (t.toString singleDouble) = some t := by
  constructor
  · intro h
    have hint : (Literal.ofInt 4294967296).integer = some 4294967296 :=
      Json.Literal.integer_ofInt 4294967296
    have hfits : Within (-2 ^ 63) (2 ^ 63) (Literal.ofInt 4294967296) := by
      intro i hi
      rw [hint] at hi
      obtain rfl := Option.some.inj hi
      omega
    have htext : TypeDBDriver.JSON.text literals (.number (.ofInt 4294967296)) =
        "4294967296".toList := by
      decide +kernel
    have hdistinct : (Json.Value.number (Literal.ofInt 4294967296)).Distinct := trivial
    have hparse := TypeDBDriver.JSON.parse_text literals hdistinct trivial
    rw [htext] at hparse
    obtain ⟨t, ht, hsame⟩ := h _ _ hparse hfits
    rw [JSON.parse, hparse, Option.map_some, build, buildNumber_four_gib] at ht
    rw [← Option.some.inj ht, Json.Value.map, exact, hint] at hsame
    cases hsame
  · intro h
    have hback := h "\"\\\"\"".toList (.string "\"") rfl trivial
    have hnone : JSON.parse singleDouble "\"\"\"".toList = none := rfl
    cases hnone.symm.trans hback

end TypeDBDriver.Cpp
