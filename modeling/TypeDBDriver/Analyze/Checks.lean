import TypeDBDriver.Analyze.Query

/-!
# What decoding an analyzed query checks

* `expectParts`, `enumParts`: fields that have to be there, and enumerations.
* `vertexParts`, `constraintParts`, `pipelineParts`, `fetchParts`, `queryParts`: the checks and
  assertions of a decoder, in order.
* `follows_constraint`, `follows_pipeline`, `follows_fetch`: the decoders end as these say.
* **`follows_analyze`**: and so does decoding a whole reply.
-/

namespace TypeDBDriver

open Decode

variable {Src Dst T : Type}

/-! ## Fields -/

def expectParts (parts : Src → List Part) (x : Option Src) : List Part :=
  .check x.isSome :: optionalParts parts x

def enumParts (fromI32 : Int32 → Option T) (asI32 : Int32) : List Part :=
  [.check (fromI32 asI32).isSome]

section Fields

variable {f : Src → Decode Error Dst} {parts : Src → List Part}

theorem follows_expect (hf : ∀ a, Follows (f a) (parts a)) (x : Option Src) (field : String) :
    Follows (expectTryFromProto f x field) (expectParts parts x) :=
  follows_required _ hf x

theorem follows_entries (hf : ∀ a, Follows (f a) (parts a)) (entries : List (UInt32 × Src)) :
    Follows (entriesFromProto f entries) (entries.flatMap fun e => parts e.2) := by
  refine follows_mapM (fun e => ?_) entries
  exact (hf e.2).build fun v => (Variable.mk e.1, v)

theorem follows_enum (fromI32 : Int32 → Option T) (enumName : String) (asI32 : Int32) :
    Follows (enumFromProto fromI32 enumName asI32) (enumParts fromI32 asI32) :=
  follows_okOr _ _

/-- What accepts every element accepts every list. -/
theorem follows_vec_nil (hf : ∀ a, Follows (f a) []) (l : List Src) :
    Follows (vecFromProto f l) [] := by
  have h := follows_mapM hf l
  rwa [List.flatMap_eq_nil_iff.mpr fun _ _ => rfl] at h

end Fields

/-! ## Parts -/

def namedRoleParts (role : Proto.NamedRole) : List Part := expectParts (fun _ => []) role.var

def annotationsParts : Proto.Annotations → List Part
  | .instance_ types | .type types => types.flatMap typeParts
  | .valueAnnotations valueType => valueTypeParts valueType

def variableAnnotationsParts (annotations : Proto.VariableAnnotations) : List Part :=
  expectParts annotationsParts annotations.annotations

def entriesParts (entries : List (UInt32 × Proto.VariableAnnotations)) : List Part :=
  entries.flatMap fun e => variableAnnotationsParts e.2

def reduceAssignParts (assign : Proto.ReduceAssign) : List Part :=
  expectParts (fun _ => []) assign.assigned ++ expectParts (fun _ => []) assign.reducer

section Parts

variable (C : Chrono) (E : AnalyzeEnums)

def vertexInnerParts : Proto.Vertex → List Part
  | .variable _ => []
  | .label type => typeParts type
  | .value v => valueParts C v
  | .namedRole role => namedRoleParts role

def vertexParts (vertex : Proto.ConstraintVertex) : List Part :=
  .check vertex.vertex.isSome :: optionalParts (vertexInnerParts C) vertex.vertex

def expectVertexParts (x : Option Proto.ConstraintVertex) : List Part :=
  expectParts (vertexParts C) x

def constraintParts : Proto.ConstraintInner → List Part
  | .or _ | .not _ | .try_ _ => []
  | .isa x y exactness | .has x y exactness | .sub x y exactness | .owns x y exactness
  | .relates x y exactness | .plays x y exactness =>
    enumParts E.constraintExactness exactness ++ (expectVertexParts C x ++ expectVertexParts C y)
  | .links relation player role exactness =>
    enumParts E.constraintExactness exactness ++ (expectVertexParts C relation ++
      (expectVertexParts C player ++ expectVertexParts C role))
  | .kind k type => kindParts k ++ expectVertexParts C type
  | .value attributeType valueType =>
    expectVertexParts C attributeType ++ expectParts valueTypeParts valueType
  | .label type _ => expectVertexParts C type
  | .comparison lhs rhs comparator =>
    enumParts E.comparator comparator ++ (expectVertexParts C lhs ++ expectVertexParts C rhs)
  | .expression assigned arguments _ =>
    expectVertexParts C assigned ++ arguments.flatMap (vertexParts C)
  | .functionCall _ assigned arguments =>
    assigned.flatMap (vertexParts C) ++ arguments.flatMap (vertexParts C)
  | .is lhs rhs => expectVertexParts C lhs ++ expectVertexParts C rhs
  | .iid concept _ => expectVertexParts C concept

def constraintWithSpanParts (constraint : Proto.Constraint) : List Part :=
  expectParts (constraintParts C E) constraint.constraint

def conjunctionParts (conjunction : Proto.AnalyzedConjunction) : List Part :=
  entriesParts conjunction.variableAnnotations ++
    conjunction.constraints.flatMap (constraintWithSpanParts C E)

def sortVariableParts (v : Proto.SortVariable) : List Part :=
  expectParts (fun _ => []) v.var ++ enumParts E.sortDirection v.direction

def stageInnerParts : Proto.Stage → List Part
  | .sort vars => vars.flatMap (sortVariableParts E)
  | .reduce reducers _ => reducers.flatMap reduceAssignParts
  | .match_ _ | .insert _ | .put _ | .update _ | .delete _ _ | .select _ | .require _ | .offset _
  | .limit _ | .distinct => []

def stageParts (stage : Proto.PipelineStage) : List Part :=
  .check stage.stage.isSome :: optionalParts (stageInnerParts E) stage.stage

def pipelineParts (pipeline : Proto.Pipeline) : List Part :=
  pipeline.conjunctions.flatMap (conjunctionParts C E) ++ pipeline.stages.flatMap (stageParts E)

def functionParts (function : Proto.Function) : List Part :=
  expectParts (fun _ => []) (function.returnOperation.bind fun r => r.returnOperation) ++
    (expectParts (pipelineParts C E) function.body ++
      (function.argumentsAnnotations.flatMap variableAnnotationsParts ++
        function.returnAnnotations.flatMap variableAnnotationsParts))

def givenParts (given : Proto.AnalyzedGiven) : List Part := entriesParts given.variableAnnotations

mutual
def fetchParts : Proto.Fetch → List Part
  | .object fetch => fieldsParts fetch
  | .list elements => fetchParts elements
  | .leaf annotations => annotations.flatMap valueTypeParts
  | .unset => [.check false]

def fieldsParts : List (String × Proto.Fetch) → List Part
  | [] => []
  | (_, annotations) :: fields => fetchParts annotations ++ fieldsParts fields
end

def queryParts (query : Proto.AnalyzedQuery) : List Part :=
  query.preamble.flatMap (functionParts C E) ++ (optionalParts givenParts query.given ++
    (expectParts (pipelineParts C E) query.query ++ optionalParts fetchParts query.fetch))

def analyzeResultParts : Proto.AnalyzeResult → List Part
  | .ok query => queryParts C E query
  | .err _ => []

def analyzeParts (res : Proto.AnalyzeRes) : List Part :=
  expectParts (analyzeResultParts C E) res.result

end Parts

/-! ## The decoders follow their parts -/

theorem follows_variable (v : Proto.Variable) : Follows (Variable.tryFromProto v) [] :=
  follows_pure _

theorem follows_variables (vars : List Proto.Variable) :
    Follows (vecFromProto Variable.tryFromProto vars) [] :=
  follows_vec_nil follows_variable vars

theorem follows_namedRole (role : Proto.NamedRole) :
    Follows (NamedRole.tryFromProto role) (namedRoleParts role) :=
  (follows_expect follows_variable role.var _).build fun var => NamedRole.mk var role.name

theorem follows_annotations (annotations : Proto.Annotations) :
    Follows (TypeAnnotations.tryFromProto annotations) (annotationsParts annotations) := by
  cases annotations with
  | instance_ types => exact (follows_mapM follows_type types).map TypeAnnotations.instance_
  | type types => exact (follows_mapM follows_type types).map TypeAnnotations.type
  | valueAnnotations valueType =>
    exact (follows_okOr _ valueType.valueType).build fun v => TypeAnnotations.value (.fromProto v)

theorem follows_variableAnnotations (annotations : Proto.VariableAnnotations) :
    Follows (VariableAnnotations.tryFromProto annotations)
      (variableAnnotationsParts annotations) :=
  (follows_expect follows_annotations annotations.annotations _).build fun types =>
    VariableAnnotations.mk annotations.isOptional types

theorem follows_variableEntries (entries : List (UInt32 × Proto.VariableAnnotations)) :
    Follows (entriesFromProto VariableAnnotations.tryFromProto entries) (entriesParts entries) :=
  follows_entries follows_variableAnnotations entries

theorem follows_reducer (reducer : Proto.Reducer) : Follows (Reducer.tryFromProto reducer) [] :=
  (follows_variables reducer.vars).build fun arguments => Reducer.mk arguments reducer.reducer

theorem follows_reduceAssign (assign : Proto.ReduceAssign) :
    Follows (ReduceAssignment.tryFromProto assign) (reduceAssignParts assign) :=
  (follows_expect follows_variable assign.assigned _).bind fun assigned =>
    (follows_expect follows_reducer assign.reducer _).build fun reducer =>
      ReduceAssignment.mk assigned reducer

section Follows

variable (C : Chrono) (E : AnalyzeEnums)

theorem follows_vertex (vertex : Proto.ConstraintVertex) :
    Follows (ConstraintVertex.tryFromProto C vertex) (vertexParts C vertex) := by
  obtain ⟨_ | vertex⟩ := vertex
  · exact follows_throw _
  · rcases vertex with v | type | v | role
    · exact (follows_variable v).map ConstraintVertex.variable
    · exact (follows_type type).map ConstraintVertex.label
    · exact (follows_value C v).map ConstraintVertex.value
    · exact (follows_namedRole role).map ConstraintVertex.namedRole

theorem follows_expectVertex (x : Option Proto.ConstraintVertex) (field : String) :
    Follows (expectVertex C x field) (expectVertexParts C x) :=
  follows_expect (follows_vertex C) x field

theorem follows_vertices (vertices : List Proto.ConstraintVertex) :
    Follows (vecFromProto (ConstraintVertex.tryFromProto C) vertices)
      (vertices.flatMap (vertexParts C)) :=
  follows_mapM (follows_vertex C) vertices

/-- Two vertices of a constraint, after its exactness. -/
theorem follows_exactness (exactness : Int32) (x y : Option Proto.ConstraintVertex)
    (first second : String)
    (build : ConstraintVertex C → ConstraintVertex C → ConstraintExactness → Constraint C) :
    Follows (do
      let exactnessProto ← exactnessFromProto E exactness
      let x ← expectVertex C x first
      let y ← expectVertex C y second
      let exactness ← ConstraintExactness.tryFromProto exactnessProto
      pure (build x y exactness))
      (enumParts E.constraintExactness exactness ++
        (expectVertexParts C x ++ expectVertexParts C y)) :=
  (follows_enum _ _ exactness).bind fun exactnessProto =>
    (follows_expectVertex C x first).bind fun a =>
      (follows_expectVertex C y second).build fun b => build a b (.ofProto exactnessProto)

theorem follows_constraint (constraint : Proto.ConstraintInner) :
    Follows (Constraint.tryFromProto C E constraint) (constraintParts C E constraint) := by
  cases constraint with
  | or branches => exact follows_pure _
  | not conjunction => exact follows_pure _
  | try_ conjunction => exact follows_pure _
  | isa inst type exactness => exact follows_exactness C E exactness inst type _ _ Constraint.isa
  | has owner attr exactness => exact follows_exactness C E exactness owner attr _ _ Constraint.has
  | sub subtype supertype exactness =>
    exact follows_exactness C E exactness subtype supertype _ _ Constraint.sub
  | owns owner attr exactness =>
    exact follows_exactness C E exactness owner attr _ _ Constraint.owns
  | relates relation role exactness =>
    exact follows_exactness C E exactness relation role _ _ Constraint.relates
  | plays player role exactness =>
    exact follows_exactness C E exactness player role _ _ Constraint.plays
  | links relation player role exactness =>
    exact (follows_enum _ _ exactness).bind fun exactnessProto =>
      (follows_expectVertex C relation _).bind fun a =>
        (follows_expectVertex C player _).bind fun b =>
          (follows_expectVertex C role _).build fun c =>
            Constraint.links a b c (.ofProto exactnessProto)
  | kind k type =>
    exact (follows_kind k).bind fun k =>
      (follows_expectVertex C type _).build fun type => Constraint.kind k type
  | value attributeType valueType =>
    exact (follows_expectVertex C attributeType _).bind fun a =>
      (follows_expect follows_valueType valueType _).build fun v => Constraint.value a v
  | label type text =>
    exact (follows_expectVertex C type _).build fun type => Constraint.label type text
  | comparison lhs rhs comparator =>
    exact (follows_enum _ _ comparator).bind fun comparator =>
      (follows_expectVertex C lhs _).bind fun l =>
        (follows_expectVertex C rhs _).build fun r =>
          Constraint.comparison l r (.ofProto comparator)
  | expression assigned arguments text =>
    exact (follows_expectVertex C assigned _).bind fun a =>
      (follows_vertices C arguments).build fun as => Constraint.expression text a as
  | functionCall name assigned arguments =>
    exact (follows_vertices C assigned).bind fun a =>
      (follows_vertices C arguments).build fun as => Constraint.functionCall name a as
  | is lhs rhs =>
    exact (follows_expectVertex C lhs _).bind fun l =>
      (follows_expectVertex C rhs _).build fun r => Constraint.is l r
  | iid concept bytes =>
    exact (follows_expectVertex C concept _).build fun c => Constraint.iid c ⟨bytes⟩

theorem follows_constraintWithSpan (constraint : Proto.Constraint) :
    Follows (ConstraintWithSpan.tryFromProto C E constraint)
      (constraintWithSpanParts C E constraint) := by
  have hspan : Follows (transpose ConstraintSpan.tryFromProto constraint.span) [] := by
    cases constraint.span with
    | none => exact follows_pure none
    | some span => exact follows_pure (some (ConstraintSpan.mk _ _))
  have h := (follows_expect (follows_constraint C E) constraint.constraint
    "Constraint.constraint").bind fun c => hspan.build fun span => ConstraintWithSpan.mk c span
  rwa [List.append_nil] at h

theorem follows_conjunction (conjunction : Proto.AnalyzedConjunction) :
    Follows (Conjunction.tryFromProto C E conjunction) (conjunctionParts C E conjunction) :=
  (follows_variableEntries conjunction.variableAnnotations).bind fun annotations =>
    (follows_mapM (follows_constraintWithSpan C E) conjunction.constraints).build fun constraints =>
      Conjunction.mk constraints annotations

theorem follows_sortVariable (v : Proto.SortVariable) :
    Follows (SortVariable.tryFromProto E v) (sortVariableParts E v) :=
  (follows_expect follows_variable v.var _).bind fun var =>
    (follows_enum _ _ v.direction).build fun direction => SortVariable.mk var (.ofProto direction)

theorem follows_stage (stage : Proto.PipelineStage) :
    Follows (PipelineStage.tryFromProto E stage) (stageParts E stage) := by
  refine follows_required _ (fun stage => ?_) stage.stage
  cases stage with
  | match_ block => exact follows_pure _
  | insert block => exact follows_pure _
  | put block => exact follows_pure _
  | update block => exact follows_pure _
  | delete block vars => exact (follows_variables vars).build (PipelineStage.delete (.ofBlock block))
  | select vars => exact (follows_variables vars).map PipelineStage.select
  | sort vars => exact (follows_mapM (follows_sortVariable E) vars).map PipelineStage.sort
  | require vars => exact (follows_variables vars).map PipelineStage.require
  | offset n => exact follows_pure _
  | limit n => exact follows_pure _
  | distinct => exact follows_pure _
  | reduce reducers groupby =>
    have h := (follows_mapM follows_reduceAssign reducers).bind fun reducers =>
      (follows_variables groupby).build fun groupby => PipelineStage.reduce reducers groupby
    rwa [List.append_nil] at h

theorem follows_variableInfo (info : Proto.VariableInfo) :
    Follows (VariableInfo.tryFromProto info) [] :=
  follows_pure _

theorem follows_pipeline (pipeline : Proto.Pipeline) :
    Follows (Pipeline.tryFromProto C E pipeline) (pipelineParts C E pipeline) := by
  have hinfo := follows_entries follows_variableInfo pipeline.variableInfo
  rw [List.flatMap_eq_nil_iff.mpr fun _ _ => rfl] at hinfo
  have h := (follows_mapM (follows_conjunction C E) pipeline.conjunctions).bind fun conjunctions =>
    (follows_mapM (follows_stage E) pipeline.stages).bind fun stages =>
      hinfo.bind fun info => (follows_variables pipeline.outputs).build fun outputs =>
        Pipeline.mk conjunctions stages info outputs
  rwa [List.append_nil, List.append_nil] at h

theorem follows_returnOperation (operation : Proto.ReturnOperationInner) :
    Follows (ReturnOperation.tryFromProto operation) [] := by
  cases operation with
  | stream vars => exact (follows_variables vars).map ReturnOperation.stream
  | single selector vars => exact (follows_variables vars).map (ReturnOperation.single selector)
  | check => exact follows_pure _
  | reduce reducers => exact (follows_vec_nil follows_reducer reducers).map ReturnOperation.reduce

theorem follows_function (function : Proto.Function) :
    Follows (Function.tryFromProto C E function) (functionParts C E function) :=
  (follows_variables function.arguments).bind fun arguments =>
    (follows_expect follows_returnOperation _ _).bind fun operation =>
      (follows_expect (follows_pipeline C E) function.body _).bind fun body =>
        (follows_mapM follows_variableAnnotations function.argumentsAnnotations).bind fun as =>
          (follows_mapM follows_variableAnnotations function.returnAnnotations).build fun rs =>
            Function.mk arguments operation body as rs

theorem follows_given (given : Proto.AnalyzedGiven) :
    Follows (Given.tryFromProto given) (givenParts given) :=
  (follows_variables given.vars).bind fun vars =>
    (follows_variableEntries given.variableAnnotations).build fun annotations =>
      Given.mk vars annotations

mutual
theorem follows_fetch : ∀ fetch : Proto.Fetch, Follows (Fetch.tryFromProto fetch) (fetchParts fetch)
  | .object fetch => (follows_fields fetch).build Fetch.object
  | .list elements => (follows_fetch elements).build Fetch.list
  | .leaf annotations => ((follows_mapM follows_valueType annotations).build FetchLeaf.mk).build
      Fetch.leaf
  | .unset => follows_throw _

theorem follows_fields : ∀ fields : List (String × Proto.Fetch),
    Follows (fieldsTryFromProto fields) (fieldsParts fields)
  | [] => follows_pure []
  | (key, annotations) :: fields => (follows_fetch annotations).bind fun a =>
      (follows_fields fields).build fun fs => (key, a) :: fs
end

theorem follows_query (query : Proto.AnalyzedQuery) :
    Follows (AnalyzedQuery.tryFromProto C E query) (queryParts C E query) :=
  (follows_mapM (follows_function C E) query.preamble).bind fun preamble =>
    (follows_transpose follows_given query.given).bind fun given =>
      (follows_expect (follows_pipeline C E) query.query _).bind fun pipeline =>
        (follows_transpose follows_fetch query.fetch).build fun fetch =>
          AnalyzedQuery.mk query.source preamble given pipeline fetch

/-- **Decoding the reply to an analyze request ends as its parts say.** -/
theorem follows_analyze (res : Proto.AnalyzeRes) :
    Follows (AnalyzeResponse.tryFromProto C E res) (analyzeParts C E res) := by
  refine follows_expect (fun result => ?_) res.result _
  cases result with
  | ok query => exact (follows_query C E query).map AnalyzeResponse.ok
  | err error => exact follows_pure _

end Follows

end TypeDBDriver
