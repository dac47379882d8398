import TypeDBDriver.Answer.Json
import TypeDBDriver.Concept.Chrono
import TypeDBDriver.Concept.DurationGrammar
import TypeDBDriver.Concept.Proto

/-!
# Concept documents

Maps are hash maps, given as their entries in the order of iteration.

* `Proto.Node`, `Node`, `Leaf`: a document on the wire and decoded.
* `Node.tryFromProto`, `ConceptDocument.tryFromProto`: the decoder; `documentParts` are its checks.
* `Node.intoJson`, `ConceptDocument.intoJson`: the conversion; `none` is its `unreachable!`.
* `Renders`: a JSON value has the tree shape of a message.
* **`follows_document`**: decoding ends as the parts say.
* **`document_into_json`**: a decoded document is converted, and keeps its shape.
-/

namespace TypeDBDriver

open Decode

/-! ## Messages -/

namespace Proto

inductive LeafInner
  | empty
  | entityType (type : EntityType)
  | relationType (type : RelationType)
  | attributeType (type : AttributeType)
  | roleType (type : RoleType)
  | valueType (type : ValueType)
  | attribute (attr : Attribute)
  | value (value : Value)
  | kind (kind : Int32)

structure Leaf where
  leaf : Option LeafInner

/-- A node; `unset` when the message has none of the three. -/
inductive Node
  | map (map : List (String × Node))
  | list (list : List Node)
  | leaf (leaf : Leaf)
  | unset

structure ConceptDocument where
  root : Option Node

end Proto

/-! ## Documents -/

inductive Leaf (C : Chrono)
  | empty
  | concept (concept : Concept C)
  | valueType (type : ValueType)
  | kind (kind : Kind)

inductive Node (C : Chrono)
  | map (map : List (String × Node C))
  | list (list : List (Node C))
  | leaf (leaf : Option (Leaf C))

structure ConceptDocument (C : Chrono) where
  root : Option (Node C)

variable (C : Chrono)

/-! ## Decoding -/

/-- A leaf, `none` when it is empty. -/
def Leaf.tryFromProto (proto : Proto.Leaf) : Decode Error (Option (Leaf C)) :=
  match proto.leaf with
  | some .empty => pure none
  | some (.entityType type) => pure (some (.concept (.entityType (.fromProto type))))
  | some (.relationType type) => pure (some (.concept (.relationType (.fromProto type))))
  | some (.attributeType type) => do
    let type ← AttributeType.fromProto type
    pure (some (.concept (.attributeType type)))
  | some (.roleType type) => pure (some (.concept (.roleType (.fromProto type))))
  | some (.valueType type) => (fun type => some (.valueType type)) <$> ValueType.tryFromProto type
  | some (.attribute attr) =>
    (fun attr => some (.concept (.attribute attr))) <$> Attribute.tryFromProto C attr
  | some (.value value) =>
    (fun value => some (.concept (.value value))) <$> Value.tryFromProto C value
  | some (.kind k) => (fun k => some (.kind k)) <$> Kind.tryFromProto k
  | none => pure none

mutual
def Node.tryFromProto : Proto.Node → Decode Error (Node C)
  | .map entries => do
    let entries ← mapTryFromProto entries
    pure (.map entries)
  | .list nodes => do
    let nodes ← listTryFromProto nodes
    pure (.list nodes)
  | .leaf leaf => do
    let result ← Leaf.tryFromProto C leaf
    pure (.leaf result)
  | .unset => throw (missing "node")

/-- The entries of a map, up to the first that fails. -/
def mapTryFromProto : List (String × Proto.Node) → Decode Error (List (String × Node C))
  | [] => pure []
  | (var, node) :: entries => do
    let node ← Node.tryFromProto node
    let entries ← mapTryFromProto entries
    pure ((var, node) :: entries)

def listTryFromProto : List Proto.Node → Decode Error (List (Node C))
  | [] => pure []
  | node :: nodes => do
    let node ← Node.tryFromProto node
    let nodes ← listTryFromProto nodes
    pure (node :: nodes)
end

def ConceptDocument.tryFromProto (proto : Proto.ConceptDocument) :
    Decode Error (ConceptDocument C) :=
  match proto.root with
  | none => pure ⟨none⟩
  | some node => (fun node => ⟨some node⟩) <$> Node.tryFromProto C node

/-! ## Conversion -/

variable {C}

def KIND : String := "kind"
def LABEL : String := "label"
def VALUE_TYPE : String := "valueType"

def jsonKind (kind : Kind) : JSON Double := .string kind.name

def jsonType (kind : Kind) (label : String) : JSON Double :=
  .object [(KIND, jsonKind kind), (LABEL, .string label)]

def jsonValueType (type : Option ValueType) : JSON Double :=
  .string (match type with
    | none => ValueType.NONE_STR
    | some .boolean => ValueType.BOOLEAN_STR
    | some .integer => ValueType.INTEGER_STR
    | some .double => ValueType.DOUBLE_STR
    | some .decimal => ValueType.DECIMAL_STR
    | some .string => ValueType.STRING_STR
    | some .date => ValueType.DATE_STR
    | some .datetime => ValueType.DATETIME_STR
    | some .datetimeTZ => ValueType.DATETIME_TZ_STR
    | some .duration => ValueType.DURATION_STR
    | some (.struct name) => name)

def jsonAttributeType (label : String) (type : Option ValueType) : JSON Double :=
  .object [(KIND, .string Kind.attribute.name), (LABEL, .string label),
    (VALUE_TYPE, jsonValueType type)]

mutual
def jsonValue : Value C → JSON Double
  | .boolean v => .boolean v
  | .integer v => .number (.ofInt64 v)
  | .double v => .number v
  | .string v => .string v
  | .decimal v => .string (String.ofList v.display)
  | .date v => .string (C.formatDate v)
  | .datetime v => .string (C.formatDatetime v)
  | .datetimeTZ v => .string v.display
  | .duration v => .string (String.ofList v.display)
  | .struct fields name => .object [(name, .object (jsonStruct fields))]

def jsonStruct : List (String × Option (Value C)) → List (String × JSON Double)
  | [] => []
  | (key, none) :: fields => (key, .null) :: jsonStruct fields
  | (key, some value) :: fields => (key, jsonValue value) :: jsonStruct fields
end

/-- Entities and relations are not expected in a document. -/
def Leaf.intoJson : Leaf C → Option (JSON Double)
  | .empty => some .null
  | .concept (.entityType type) => some (jsonType .entity type.label)
  | .concept (.relationType type) => some (jsonType .relation type.label)
  | .concept (.attributeType type) => some (jsonAttributeType type.label type.valueType)
  | .concept (.roleType type) => some (jsonType .role type.label)
  | .concept (.attribute attr) => some (jsonValue attr.value)
  | .concept (.value value) => some (jsonValue value)
  | .concept (.entity _) | .concept (.relation _) => none
  | .valueType type => some (jsonValueType (some type))
  | .kind k => some (jsonKind k)

mutual
def Node.intoJson : Node C → Option (JSON Double)
  | .map entries => do
    let members ← mapIntoJson entries
    some (.object members)
  | .list nodes => do
    let elements ← listIntoJson nodes
    some (.array elements)
  | .leaf (some leaf) => leaf.intoJson
  | .leaf none => some .null

def mapIntoJson : List (String × Node C) → Option (List (String × JSON Double))
  | [] => some []
  | (var, node) :: entries => do
    let json ← Node.intoJson node
    let members ← mapIntoJson entries
    some ((var, json) :: members)

def listIntoJson : List (Node C) → Option (List (JSON Double))
  | [] => some []
  | node :: nodes => do
    let json ← Node.intoJson node
    let elements ← listIntoJson nodes
    some (json :: elements)
end

def ConceptDocument.intoJson (document : ConceptDocument C) : Option (JSON Double) :=
  match document.root with
  | none => some .null
  | some root => root.intoJson

/-! ## Checks and assertions -/

variable (C) in
def leafInnerParts : Proto.LeafInner → List Part
  | .attributeType type => attributeTypeParts type
  | .valueType type => valueTypeParts type
  | .attribute attr => attributeParts C attr
  | .value value => valueParts C value
  | .kind kind => kindParts kind
  | .empty | .entityType _ | .relationType _ | .roleType _ => []

variable (C) in
def leafParts (leaf : Proto.Leaf) : List Part := optionalParts (leafInnerParts C) leaf.leaf

section Parts

variable (C)

mutual
def nodeParts : Proto.Node → List Part
  | .map entries => mapParts entries
  | .list nodes => listParts nodes
  | .leaf leaf => leafParts C leaf
  | .unset => [.check false]

def mapParts : List (String × Proto.Node) → List Part
  | [] => []
  | (_, node) :: entries => nodeParts node ++ mapParts entries

def listParts : List Proto.Node → List Part
  | [] => []
  | node :: nodes => nodeParts node ++ listParts nodes
end

def documentParts (document : Proto.ConceptDocument) : List Part :=
  optionalParts (nodeParts C) document.root

theorem follows_leaf (leaf : Proto.Leaf) :
    Follows (Leaf.tryFromProto C leaf) (leafParts C leaf) := by
  obtain ⟨_ | leaf⟩ := leaf
  · exact follows_pure none
  · rcases leaf with _ | type | type | type | type | type | v | v | kind
    · exact follows_pure none
    · exact follows_pure _
    · exact follows_pure _
    · exact (follows_attributeType type).build fun t => some (Leaf.concept (.attributeType t))
    · exact follows_pure _
    · exact (follows_valueType type).map fun t => some (Leaf.valueType t)
    · exact (follows_attribute C v).map fun attr => some (Leaf.concept (.attribute attr))
    · exact (follows_value C v).map fun value => some (Leaf.concept (.value value))
    · exact (follows_kind kind).map fun k => some (Leaf.kind k)

mutual
theorem follows_node : ∀ node : Proto.Node, Follows (Node.tryFromProto C node) (nodeParts C node)
  | .map entries => (follows_map entries).build Node.map
  | .list nodes => (follows_list nodes).build Node.list
  | .leaf leaf => (follows_leaf C leaf).build Node.leaf
  | .unset => follows_throw _

theorem follows_map : ∀ entries : List (String × Proto.Node),
    Follows (mapTryFromProto C entries) (mapParts C entries)
  | [] => follows_pure []
  | (var, node) :: entries =>
    (follows_node node).bind fun n => (follows_map entries).build fun es => (var, n) :: es

theorem follows_list : ∀ nodes : List Proto.Node,
    Follows (listTryFromProto C nodes) (listParts C nodes)
  | [] => follows_pure []
  | node :: nodes =>
    (follows_node node).bind fun n => (follows_list nodes).build fun ns => n :: ns
end

/-- **Decoding a document ends as its parts say.** -/
theorem follows_document (document : Proto.ConceptDocument) :
    Follows (ConceptDocument.tryFromProto C document) (documentParts C document) := by
  obtain ⟨_ | node⟩ := document
  · exact follows_pure _
  · exact (follows_node C node).map fun n => ConceptDocument.mk (some n)

end Parts

/-! ## Shapes -/

/-- An object with the kind and the label of a type. -/
def TypeForm (kind : Kind) (label : String) (json : JSON Double) : Prop :=
  ∃ members, json = .object members ∧ ("kind", .string kind.name) ∈ members ∧
    ("label", .string label) ∈ members

/-- The number is the integer. -/
def IsInteger (v : Int64) (number : Double) : Prop := number.toRat = some (v.toInt : ℚ)

/-- The number is the nearest double, which is the integer itself up to `2 ^ 53`. -/
def RoundsInteger (v : Int64) (number : Double) : Prop :=
  number = .ofInt64 v ∧ (v.toInt.natAbs ≤ 2 ^ 53 → IsInteger v number)

/-- The text denotes the decimal. -/
def DenotesDecimal (v : Decimal) (text : String) : Prop :=
  Decimal.denoted text.toList = some v.toRat

/-- What a number of a document is represented by. -/
structure NumberForm where
  integer : Int64 → Double → Prop
  decimal : Decimal → String → Prop

/-- By exactly that number. -/
def NumberForm.exact : NumberForm := ⟨IsInteger, DenotesDecimal⟩

/-- An integer by the nearest double; a decimal by exactly that number, unless its fraction counts
upwards from a negative integer part. -/
def NumberForm.rounded : NumberForm where
  integer := RoundsInteger
  decimal v text := 0 ≤ v.integer.toInt ∨ v.fractional = 0 → DenotesDecimal v text

/-- The JSON form of a value. -/
def ValueForm (F : NumberForm) : Value C → JSON Double → Prop
  | .boolean v, json => json = .boolean v
  | .integer v, json => ∃ number, json = .number number ∧ F.integer v number
  | .double v, json => json = .number v
  | .string v, json => json = .string v
  | .decimal v, json => ∃ text, json = .string text ∧ F.decimal v text
  | .date v, json => json = .string (C.formatDate v)
  | .datetime v, json => json = .string (C.formatDatetime v)
  | .datetimeTZ ⟨v, .IANA tz⟩, json => json = .string (C.formatIANA v tz ++ " " ++ C.tzName tz)
  | .datetimeTZ ⟨v, .fixed offset⟩, json => json = .string (C.formatFixed v offset)
  | .duration v, json =>
    ∃ form : Duration.Form, json = .string (String.ofList form.text) ∧ form.Denotes v
  | .struct _ _, _ => False

variable (C) in
/-- The JSON form of a leaf; a leaf that has nothing set is empty. -/
def LeafForm (F : NumberForm) : Option Proto.LeafInner → JSON Double → Prop
  | none, json | some .empty, json => json = .null
  | some (.entityType type), json => TypeForm .entity type.label json
  | some (.relationType type), json => TypeForm .relation type.label json
  | some (.attributeType type), json => TypeForm .attribute type.label json
  | some (.roleType type), json => TypeForm .role type.label json
  | some (.valueType type), json =>
    ∃ t, Accepts (ValueType.tryFromProto type) t ∧ json = .string t.name
  | some (.attribute attr), json =>
    ∃ p v, attr.value = some p ∧ Accepts (Value.tryFromProto C p) v ∧ ValueForm F v json
  | some (.value p), json => ∃ v, Accepts (Value.tryFromProto C p) v ∧ ValueForm F v json
  | some (.kind kind), json => ∃ k, Accepts (Kind.tryFromProto kind) k ∧ json = .string k.name

mutual
/-- A JSON value has the tree shape of a message, and null is in the place of an empty leaf. -/
inductive Renders (C : Chrono) (F : NumberForm) : Proto.Node → JSON Double → Prop
  | map {entries : List (String × Proto.Node)} {members : List (String × JSON Double)}
      (h : RendersMap C F entries members) : Renders C F (.map entries) (.object members)
  | list {nodes : List Proto.Node} {elements : List (JSON Double)}
      (h : RendersList C F nodes elements) : Renders C F (.list nodes) (.array elements)
  | leaf {leaf : Proto.Leaf} {json : JSON Double} (h : LeafForm C F leaf.leaf json)
      (hnull : json = .null ↔ leaf.leaf = none ∨ leaf.leaf = some .empty) :
      Renders C F (.leaf leaf) json

/-- The same keys, and under each of them the same shape. -/
inductive RendersMap (C : Chrono) (F : NumberForm) :
    List (String × Proto.Node) → List (String × JSON Double) → Prop
  | nil : RendersMap C F [] []
  | cons {key : String} {node : Proto.Node} {json : JSON Double}
      {entries : List (String × Proto.Node)} {members : List (String × JSON Double)}
      (hnode : Renders C F node json) (h : RendersMap C F entries members) :
      RendersMap C F ((key, node) :: entries) ((key, json) :: members)

/-- The same length, and in each place the same shape. -/
inductive RendersList (C : Chrono) (F : NumberForm) :
    List Proto.Node → List (JSON Double) → Prop
  | nil : RendersList C F [] []
  | cons {node : Proto.Node} {json : JSON Double} {nodes : List Proto.Node}
      {elements : List (JSON Double)} (hnode : Renders C F node json)
      (h : RendersList C F nodes elements) : RendersList C F (node :: nodes) (json :: elements)
end

variable (C) in
/-- The shape of a document; one without a root is null. -/
def DocumentRenders (F : NumberForm) (document : Proto.ConceptDocument)
    (json : JSON Double) : Prop :=
  match document.root with
  | none => json = .null
  | some root => Renders C F root json

/-! ## The conversion keeps the shape -/

theorem typeForm_jsonType (kind : Kind) (label : String) :
    TypeForm kind label (jsonType kind label) :=
  ⟨_, rfl, by simp [KIND, jsonKind], by simp [LABEL]⟩

theorem typeForm_jsonAttributeType (label : String) (type : Option ValueType) :
    TypeForm .attribute label (jsonAttributeType label type) :=
  ⟨_, rfl, by simp [KIND], by simp [LABEL]⟩

theorem jsonValueType_some (type : ValueType) : jsonValueType (some type) = .string type.name := by
  cases type <;> rfl

theorem roundsInteger_ofInt64 (v : Int64) : RoundsInteger v (.ofInt64 v) :=
  ⟨rfl, Double.toRat_ofInt64⟩

/-- What is read as a value is converted to its form: it is no struct, and a decimal has its
fraction in range. -/
theorem valueForm_jsonValue {p : Proto.Value} {v : Value C}
    (h : Accepts (Value.tryFromProto C p) v) : ValueForm .rounded v (jsonValue v) := by
  have hbounded := bounded_of_accepts h
  cases v with
  | boolean v => rfl
  | integer v => exact ⟨_, rfl, roundsInteger_ofInt64 v⟩
  | double v => rfl
  | string v => rfl
  | decimal v =>
    refine ⟨_, rfl, fun hv => ?_⟩
    rw [DenotesDecimal, String.toList_ofList]
    exact Decimal.denoted_display hbounded hv
  | date v => rfl
  | datetime v => rfl
  | datetimeTZ v =>
    obtain ⟨t, _ | _⟩ := v
    · rfl
    · rfl
  | duration v =>
    refine ⟨.ofDuration v, ?_, Duration.Form.denotes_ofDuration v⟩
    rw [Duration.Form.text_ofDuration]
    rfl
  | struct fields name => exact absurd trivial (not_isStruct_of_accepts h)

theorem jsonValue_ne_null (v : Value C) : jsonValue v ≠ .null := by
  cases v <;> simp [jsonValue]

/-- What a decoded leaf is converted to: nothing that the conversion does not expect is decoded. -/
theorem leaf_into_json {leaf : Proto.Leaf} {result : Option (Leaf C)}
    (h : Accepts (Leaf.tryFromProto C leaf) result) :
    ∃ json, (Node.leaf result).intoJson = some json ∧ Renders C .rounded (.leaf leaf) json := by
  obtain ⟨_ | leaf⟩ := leaf
  · cases accepts_pure.mp h
    exact ⟨_, rfl, .leaf rfl (by simp)⟩
  · rcases leaf with _ | type | type | type | type | type | attr | v | kind
    · cases accepts_pure.mp h
      exact ⟨_, rfl, .leaf rfl (by simp)⟩
    · cases accepts_pure.mp h
      exact ⟨_, rfl, .leaf (typeForm_jsonType .entity type.label) (by simp [jsonType])⟩
    · cases accepts_pure.mp h
      exact ⟨_, rfl, .leaf (typeForm_jsonType .relation type.label) (by simp [jsonType])⟩
    · simp only [Leaf.tryFromProto, accepts_bind, accepts_pure] at h
      obtain ⟨t, ht, rfl⟩ := h
      have hform := typeForm_jsonAttributeType t.label t.valueType
      rw [label_of_accepts ht] at hform
      refine ⟨_, rfl, .leaf ?_ (by simp [jsonAttributeType])⟩
      rw [label_of_accepts ht]
      exact hform
    · cases accepts_pure.mp h
      exact ⟨_, rfl, .leaf (typeForm_jsonType .role type.label) (by simp [jsonType])⟩
    · simp only [Leaf.tryFromProto, accepts_map] at h
      obtain ⟨t, ht, rfl⟩ := h
      exact ⟨_, rfl, .leaf ⟨t, ht, jsonValueType_some t⟩ (by simp [jsonValueType])⟩
    · simp only [Leaf.tryFromProto, accepts_map] at h
      obtain ⟨a, ha, rfl⟩ := h
      obtain ⟨p, hp, hv⟩ := value_of_accepts ha
      exact ⟨_, rfl, .leaf ⟨p, a.value, hp, hv, valueForm_jsonValue hv⟩
        (by simp [jsonValue_ne_null])⟩
    · simp only [Leaf.tryFromProto, accepts_map] at h
      obtain ⟨v', hv, rfl⟩ := h
      exact ⟨_, rfl, .leaf ⟨v', hv, valueForm_jsonValue hv⟩
        (by simp [jsonValue_ne_null])⟩
    · simp only [Leaf.tryFromProto, accepts_map] at h
      obtain ⟨k, hk, rfl⟩ := h
      exact ⟨_, rfl, .leaf ⟨k, hk, rfl⟩ (by simp [jsonKind])⟩

mutual
theorem node_into_json : ∀ (p : Proto.Node) (node : Node C), Accepts (Node.tryFromProto C p) node →
    ∃ json, node.intoJson = some json ∧ Renders C .rounded p json
  | .map entries, node, h => by
    simp only [Node.tryFromProto, accepts_bind, accepts_pure] at h
    obtain ⟨es, hes, rfl⟩ := h
    obtain ⟨members, hmembers, hr⟩ := map_into_json entries es hes
    exact ⟨.object members, by rw [Node.intoJson, hmembers]; rfl, .map hr⟩
  | .list nodes, node, h => by
    simp only [Node.tryFromProto, accepts_bind, accepts_pure] at h
    obtain ⟨ns, hns, rfl⟩ := h
    obtain ⟨elements, helements, hr⟩ := list_into_json nodes ns hns
    exact ⟨.array elements, by rw [Node.intoJson, helements]; rfl, .list hr⟩
  | .leaf leaf, node, h => by
    simp only [Node.tryFromProto, accepts_bind, accepts_pure] at h
    obtain ⟨result, hresult, rfl⟩ := h
    exact leaf_into_json hresult
  | .unset, node, h => absurd h (not_accepts_throw _ _)

theorem map_into_json : ∀ (ps : List (String × Proto.Node)) (entries : List (String × Node C)),
    Accepts (mapTryFromProto C ps) entries →
    ∃ members, mapIntoJson entries = some members ∧ RendersMap C .rounded ps members
  | [], entries, h => by
    cases accepts_pure.mp h
    exact ⟨[], rfl, .nil⟩
  | (var, p) :: ps, entries, h => by
    simp only [mapTryFromProto, accepts_bind, accepts_pure] at h
    obtain ⟨node, hnode, es, hes, rfl⟩ := h
    obtain ⟨json, hjson, hr⟩ := node_into_json p node hnode
    obtain ⟨members, hmembers, hrs⟩ := map_into_json ps es hes
    exact ⟨(var, json) :: members, by rw [mapIntoJson, hjson, hmembers]; rfl, .cons hr hrs⟩

theorem list_into_json : ∀ (ps : List Proto.Node) (nodes : List (Node C)),
    Accepts (listTryFromProto C ps) nodes →
    ∃ elements, listIntoJson nodes = some elements ∧ RendersList C .rounded ps elements
  | [], nodes, h => by
    cases accepts_pure.mp h
    exact ⟨[], rfl, .nil⟩
  | p :: ps, nodes, h => by
    simp only [listTryFromProto, accepts_bind, accepts_pure] at h
    obtain ⟨node, hnode, ns, hns, rfl⟩ := h
    obtain ⟨json, hjson, hr⟩ := node_into_json p node hnode
    obtain ⟨elements, helements, hrs⟩ := list_into_json ps ns hns
    exact ⟨json :: elements, by rw [listIntoJson, hjson, helements]; rfl, .cons hr hrs⟩
end

section Samples

open Gregorian (chrono)

/-- A list of one integer and an empty leaf under a key. -/
def sampleDocument (n : Int64) : Proto.ConceptDocument :=
  ⟨some (.map [("n", .list [.leaf ⟨some (.value ⟨some (.integer n)⟩)⟩, .leaf ⟨some .empty⟩])])⟩

def sampleDecoded (n : Int64) : ConceptDocument chrono :=
  ⟨some (.map [("n", .list [.leaf (some (.concept (.value (.integer n)))), .leaf none])])⟩

theorem accepts_sampleDocument (n : Int64) :
    Accepts (ConceptDocument.tryFromProto chrono (sampleDocument n)) (sampleDecoded n) := rfl

end Samples

end TypeDBDriver
