import TypeDBDriver.Analyze.Message

/-!
# Decoding analyzed queries

The fields of a result are decoded in the order in which it is written.

* `expectTryFromProto`, `vecFromProto`, `entriesFromProto`, `enumFromProto`: fields that have to
  be there, lists, maps and enumerations.
* `Constraint.tryFromProto`, `Pipeline.tryFromProto`, `Fetch.tryFromProto`, …: the decoders.
* `AnalyzeResponse.tryFromProto`: the decoder of a whole reply.
-/

namespace TypeDBDriver

open Decode

variable {Src Dst T : Type}

def expectTryFromProto (tryFromProto : Src → Decode Error Dst) (x : Option Src)
    (field : String) : Decode Error Dst := do
  let x ← okOr (.analyze (.missingResponseField field)) x
  tryFromProto x

def vecFromProto (tryFromProto : Src → Decode Error Dst) (protocolVec : List Src) :
    Decode Error (List Dst) :=
  protocolVec.mapM tryFromProto

/-- The entries of a map of variables. -/
def entriesFromProto (tryFromProto : Src → Decode Error Dst) (entries : List (UInt32 × Src)) :
    Decode Error (List (Variable × Dst)) :=
  entries.mapM fun e => do
    let v ← tryFromProto e.2
    pure (⟨e.1⟩, v)

def enumFromProto (fromI32 : Int32 → Option T) (enumName : String) (asI32 : Int32) :
    Decode Error T :=
  okOr (.analyze (.unknownEnumValue enumName asI32.toInt)) (fromI32 asI32)

/-! ## Variables, vertices and annotations -/

def Variable.tryFromProto (proto : Proto.Variable) : Decode Error Variable := pure ⟨proto.id⟩

def NamedRole.tryFromProto (proto : Proto.NamedRole) : Decode Error NamedRole := do
  let var ← expectTryFromProto Variable.tryFromProto proto.var "NamedRole.variable"
  pure ⟨var, proto.name⟩

def ConstraintVertex.tryFromProto (C : Chrono) (proto : Proto.ConstraintVertex) :
    Decode Error (ConstraintVertex C) :=
  match proto.vertex with
  | some (.variable v) => .variable <$> Variable.tryFromProto v
  | some (.label type) => .label <$> Type_.tryFromProto type
  | some (.value v) => .value <$> Value.tryFromProto C v
  | some (.namedRole role) => .namedRole <$> NamedRole.tryFromProto role
  | none => throw (.analyze (.missingResponseField "StructureVertex.vertex"))

def TypeAnnotations.tryFromProto (proto : Proto.Annotations) : Decode Error TypeAnnotations :=
  match proto with
  | .instance_ types => .instance_ <$> vecFromProto Type_.tryFromProto types
  | .type types => .type <$> vecFromProto Type_.tryFromProto types
  | .valueAnnotations valueType => do
    let valueType ← okOr (.analyze (.missingResponseField
      "Value.value_type in VariableAnnotations::ValueAnnotations")) valueType.valueType
    pure (.value (.fromProto valueType))

def VariableAnnotations.tryFromProto (proto : Proto.VariableAnnotations) :
    Decode Error VariableAnnotations := do
  let types ← expectTryFromProto TypeAnnotations.tryFromProto proto.annotations
    "VariableAnnotations.annotations"
  pure ⟨proto.isOptional, types⟩

/-! ## Constraints -/

def ConstraintSpan.tryFromProto (proto : Proto.ConstraintSpan) : Decode Error ConstraintSpan :=
  pure ⟨proto.first.toNat, proto.last.toNat⟩

def ConstraintExactness.ofProto : Proto.ConstraintExactness → ConstraintExactness
  | .exact => .exact
  | .subtypes => .subtypes

def ConstraintExactness.tryFromProto (proto : Proto.ConstraintExactness) :
    Decode Error ConstraintExactness :=
  pure (.ofProto proto)

def Comparator.ofProto : Proto.Comparator → Comparator
  | .equal => .equal
  | .notEqual => .notEqual
  | .less => .lessThan
  | .lessOrEqual => .lessOrEqual
  | .greater => .greater
  | .greaterOrEqual => .greaterOrEqual
  | .like => .like
  | .contains => .contains

def Comparator.tryFromProto (proto : Proto.Comparator) : Decode Error Comparator :=
  pure (.ofProto proto)

def ConjunctionID.ofBlock (block : UInt32) : ConjunctionID := ⟨block.toNat⟩

section Constraints

variable (C : Chrono) (E : AnalyzeEnums)

/-- The vertex of a constraint. -/
def expectVertex (x : Option Proto.ConstraintVertex) (field : String) :
    Decode Error (ConstraintVertex C) :=
  expectTryFromProto (ConstraintVertex.tryFromProto C) x field

def exactnessFromProto (exactness : Int32) : Decode Error Proto.ConstraintExactness :=
  enumFromProto E.constraintExactness E.constraintExactnessName exactness

def Constraint.tryFromProto : Proto.ConstraintInner → Decode Error (Constraint C)
  | .or branches => pure (.or (branches.map .ofBlock))
  | .not conjunction => pure (.not (.ofBlock conjunction))
  | .try_ conjunction => pure (.try_ (.ofBlock conjunction))
  | .isa inst type exactness => do
    let exactnessProto ← exactnessFromProto E exactness
    let inst ← expectVertex C inst "structure_constraint::Isa.instance"
    let type ← expectVertex C type "structure_constraint::Isa.type"
    let exactness ← ConstraintExactness.tryFromProto exactnessProto
    pure (.isa inst type exactness)
  | .has owner attr exactness => do
    let exactnessProto ← exactnessFromProto E exactness
    let owner ← expectVertex C owner "structure_constraint::Has.owner"
    let attr ← expectVertex C attr "structure_constraint::Has.attribute"
    let exactness ← ConstraintExactness.tryFromProto exactnessProto
    pure (.has owner attr exactness)
  | .links relation player role exactness => do
    let exactnessProto ← exactnessFromProto E exactness
    let relation ← expectVertex C relation "structure_constraint::Links.relation"
    let player ← expectVertex C player "structure_constraint::Links.player"
    let role ← expectVertex C role "structure_constraint::Links.role"
    let exactness ← ConstraintExactness.tryFromProto exactnessProto
    pure (.links relation player role exactness)
  | .kind k type => do
    let k ← Kind.tryFromProto k
    let type ← expectVertex C type "structure_constraint::Kind.kind"
    pure (.kind k type)
  | .sub subtype supertype exactness => do
    let exactnessProto ← exactnessFromProto E exactness
    let subtype ← expectVertex C subtype "structure_constraint::Sub.subtype"
    let supertype ← expectVertex C supertype "structure_constraint::Sub.supertype"
    let exactness ← ConstraintExactness.tryFromProto exactnessProto
    pure (.sub subtype supertype exactness)
  | .owns owner attr exactness => do
    let exactnessProto ← exactnessFromProto E exactness
    let owner ← expectVertex C owner "structure_constraint::Owns.owner"
    let attr ← expectVertex C attr "structure_constraint::Owns.attribute"
    let exactness ← ConstraintExactness.tryFromProto exactnessProto
    pure (.owns owner attr exactness)
  | .relates relation role exactness => do
    let exactnessProto ← exactnessFromProto E exactness
    let relation ← expectVertex C relation "structure_constraint::Relates.relation"
    let role ← expectVertex C role "structure_constraint::Relates.role"
    let exactness ← ConstraintExactness.tryFromProto exactnessProto
    pure (.relates relation role exactness)
  | .plays player role exactness => do
    let exactnessProto ← exactnessFromProto E exactness
    let player ← expectVertex C player "structure_constraint::Plays.player"
    let role ← expectVertex C role "structure_constraint::Plays.role"
    let exactness ← ConstraintExactness.tryFromProto exactnessProto
    pure (.plays player role exactness)
  | .value attributeType valueType => do
    let attributeType ← expectVertex C attributeType "structure_constraint::Value.attribute_type"
    let valueType ← expectTryFromProto ValueType.tryFromProto valueType
      "structure_constraint::Value.value_type"
    pure (.value attributeType valueType)
  | .label type text => do
    let type ← expectVertex C type "structure_constraint::Label.type"
    pure (.label type text)
  | .comparison lhs rhs comparator => do
    let comparator ← enumFromProto E.comparator E.comparatorName comparator
    let lhs ← expectVertex C lhs "structure_constraint::Comparison.lhs"
    let rhs ← expectVertex C rhs "structure_constraint::Comparison.rhs"
    let comparator ← Comparator.tryFromProto comparator
    pure (.comparison lhs rhs comparator)
  | .expression assigned arguments text => do
    let assigned ← expectVertex C assigned "Expression.assigned"
    let arguments ← vecFromProto (ConstraintVertex.tryFromProto C) arguments
    pure (.expression text assigned arguments)
  | .functionCall name assigned arguments => do
    let assigned ← vecFromProto (ConstraintVertex.tryFromProto C) assigned
    let arguments ← vecFromProto (ConstraintVertex.tryFromProto C) arguments
    pure (.functionCall name assigned arguments)
  | .is lhs rhs => do
    let lhs ← expectVertex C lhs "structure_constraint::Is.lhs"
    let rhs ← expectVertex C rhs "structure_constraint::Is.rhs"
    pure (.is lhs rhs)
  | .iid concept bytes => do
    let concept ← expectVertex C concept "structure_constraint::Iid.concept"
    pure (.iid concept ⟨bytes⟩)

def ConstraintWithSpan.tryFromProto (proto : Proto.Constraint) :
    Decode Error (ConstraintWithSpan C) := do
  let constraint ← expectTryFromProto (Constraint.tryFromProto C E) proto.constraint
    "Constraint.constraint"
  let span ← transpose ConstraintSpan.tryFromProto proto.span
  pure ⟨constraint, span⟩

def Conjunction.tryFromProto (proto : Proto.AnalyzedConjunction) :
    Decode Error (Conjunction C) := do
  let variableAnnotations ←
    entriesFromProto VariableAnnotations.tryFromProto proto.variableAnnotations
  let constraints ← vecFromProto (ConstraintWithSpan.tryFromProto C E) proto.constraints
  pure ⟨constraints, variableAnnotations⟩

end Constraints

/-! ## Pipelines -/

def Reducer.tryFromProto (proto : Proto.Reducer) : Decode Error Reducer := do
  let arguments ← vecFromProto Variable.tryFromProto proto.vars
  pure ⟨arguments, proto.reducer⟩

def ReduceAssignment.tryFromProto (proto : Proto.ReduceAssign) :
    Decode Error ReduceAssignment := do
  let assigned ← expectTryFromProto Variable.tryFromProto proto.assigned "ReduceAssign.assigned"
  let reducer ← expectTryFromProto Reducer.tryFromProto proto.reducer "ReduceAssign.reducer"
  pure ⟨assigned, reducer⟩

section Pipelines

variable (C : Chrono) (E : AnalyzeEnums)

def SortOrder.ofProto : Proto.SortDirection → SortOrder
  | .asc => .ascending
  | .desc => .descending

def SortVariable.tryFromProto (proto : Proto.SortVariable) : Decode Error SortVariable := do
  let var ← expectTryFromProto Variable.tryFromProto proto.var "SortVariable.variable"
  let direction ← enumFromProto E.sortDirection E.sortDirectionName proto.direction
  pure ⟨var, .ofProto direction⟩

def PipelineStage.tryFromProto (proto : Proto.PipelineStage) : Decode Error PipelineStage := do
  let stage ← okOr (.analyze (.missingResponseField "PipelineStage.stage")) proto.stage
  match stage with
  | .match_ block => pure (.match_ (.ofBlock block))
  | .insert block => pure (.insert (.ofBlock block))
  | .put block => pure (.put (.ofBlock block))
  | .update block => pure (.update (.ofBlock block))
  | .delete block deletedVariables => do
    let deletedVariables ← vecFromProto Variable.tryFromProto deletedVariables
    pure (.delete (.ofBlock block) deletedVariables)
  | .select vars => .select <$> vecFromProto Variable.tryFromProto vars
  | .sort vars => .sort <$> vecFromProto (SortVariable.tryFromProto E) vars
  | .require vars => .require <$> vecFromProto Variable.tryFromProto vars
  | .offset n => pure (.offset n)
  | .limit n => pure (.limit n)
  | .distinct => pure .distinct
  | .reduce reducers groupby => do
    let reducers ← vecFromProto ReduceAssignment.tryFromProto reducers
    let groupby ← vecFromProto Variable.tryFromProto groupby
    pure (.reduce reducers groupby)

def VariableInfo.tryFromProto (proto : Proto.VariableInfo) : Decode Error VariableInfo :=
  pure ⟨proto.name⟩

def Pipeline.tryFromProto (proto : Proto.Pipeline) : Decode Error (Pipeline C) := do
  let conjunctions ← vecFromProto (Conjunction.tryFromProto C E) proto.conjunctions
  let stages ← vecFromProto (PipelineStage.tryFromProto E) proto.stages
  let variableInfo ← entriesFromProto VariableInfo.tryFromProto proto.variableInfo
  let outputs ← vecFromProto Variable.tryFromProto proto.outputs
  pure ⟨conjunctions, stages, variableInfo, outputs⟩

def ReturnOperation.tryFromProto (proto : Proto.ReturnOperationInner) :
    Decode Error ReturnOperation :=
  match proto with
  | .stream vars => .stream <$> vecFromProto Variable.tryFromProto vars
  | .single selector vars => .single selector <$> vecFromProto Variable.tryFromProto vars
  | .check => pure .check
  | .reduce reducers => .reduce <$> vecFromProto Reducer.tryFromProto reducers

def Function.tryFromProto (proto : Proto.Function) : Decode Error (Function C) := do
  let argumentVariables ← vecFromProto Variable.tryFromProto proto.arguments
  let returnOperation ← expectTryFromProto ReturnOperation.tryFromProto
    (proto.returnOperation.bind fun r => r.returnOperation) "Function.return_operation"
  let body ← expectTryFromProto (Pipeline.tryFromProto C E) proto.body "Function.body"
  let argumentAnnotations ← vecFromProto VariableAnnotations.tryFromProto
    proto.argumentsAnnotations
  let returnAnnotations ← vecFromProto VariableAnnotations.tryFromProto proto.returnAnnotations
  pure ⟨argumentVariables, returnOperation, body, argumentAnnotations, returnAnnotations⟩

end Pipelines

/-! ## Queries -/

def Given.tryFromProto (proto : Proto.AnalyzedGiven) : Decode Error Given := do
  let vars ← vecFromProto Variable.tryFromProto proto.vars
  let variableAnnotations ←
    entriesFromProto VariableAnnotations.tryFromProto proto.variableAnnotations
  pure ⟨vars, variableAnnotations⟩

def FetchLeaf.tryFromProto (annotations : List Proto.ValueType) : Decode Error FetchLeaf := do
  let annotations ← vecFromProto ValueType.tryFromProto annotations
  pure ⟨annotations⟩

mutual
def Fetch.tryFromProto : Proto.Fetch → Decode Error Fetch
  | .object fetch => do
    let fields ← fieldsTryFromProto fetch
    pure (.object fields)
  | .list elements => do
    let elements ← Fetch.tryFromProto elements
    pure (.list elements)
  | .leaf annotations => do
    let leaf ← FetchLeaf.tryFromProto annotations
    pure (.leaf leaf)
  | .unset => throw (.analyze (.missingResponseField "Fetch.node"))

def fieldsTryFromProto : List (String × Proto.Fetch) → Decode Error (List (String × Fetch))
  | [] => pure []
  | (key, annotations) :: fields => do
    let annotations ← Fetch.tryFromProto annotations
    let fields ← fieldsTryFromProto fields
    pure ((key, annotations) :: fields)
end

section Queries

variable (C : Chrono) (E : AnalyzeEnums)

def AnalyzedQuery.tryFromProto (proto : Proto.AnalyzedQuery) :
    Decode Error (AnalyzedQuery C) := do
  let preamble ← vecFromProto (Function.tryFromProto C E) proto.preamble
  let given ← transpose Given.tryFromProto proto.given
  let query ← expectTryFromProto (Pipeline.tryFromProto C E) proto.query "AnalyzedQuery.query"
  let fetch ← transpose Fetch.tryFromProto proto.fetch
  pure ⟨proto.source, preamble, given, query, fetch⟩

def ServerError.fromProto (proto : Proto.Error) : ServerError :=
  ⟨proto.errorCode, proto.domain, "", proto.stackTrace⟩

def AnalyzeResponse.tryFromProto (proto : Proto.AnalyzeRes) : Decode Error (AnalyzeResponse C) :=
  expectTryFromProto (fun result =>
    match result with
    | .ok query => .ok <$> AnalyzedQuery.tryFromProto C E query
    | .err error => pure (.err (.fromProto error))) proto.result "analyze.Res.result"

end Queries

end TypeDBDriver
