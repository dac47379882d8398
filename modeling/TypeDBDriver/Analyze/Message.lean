import TypeDBDriver.Concept.Proto

/-!
# Analyzed queries

The messages of an analyzed query and what they are decoded to. Maps are hash maps, given as their
entries in the order of iteration.

* `Proto.AnalyzedQuery` and its parts: the messages.
* `AnalyzedQuery`, `Function`, `Pipeline`, `Conjunction`, `Constraint`, `Fetch`: the driver's data.
* `AnalyzeEnums`: the numbers of the enumerations, which the protocol's generated code fixes.
-/

namespace TypeDBDriver

/-! ## Messages -/

namespace Proto

structure Variable where
  id : UInt32

structure NamedRole where
  var : Option Variable
  name : String

inductive Vertex
  | variable (v : Variable)
  | label (type : Type_)
  | value (value : Value)
  | namedRole (role : NamedRole)

structure ConstraintVertex where
  vertex : Option Vertex

inductive ConstraintExactness
  | exact
  | subtypes

inductive Comparator
  | equal
  | notEqual
  | less
  | lessOrEqual
  | greater
  | greaterOrEqual
  | like
  | contains

inductive SortDirection
  | asc
  | desc

inductive ConstraintInner
  | or (branches : List UInt32)
  | not (conjunction : UInt32)
  | try_ (conjunction : UInt32)
  | isa (inst type : Option ConstraintVertex) (exactness : Int32)
  | has (owner attr : Option ConstraintVertex) (exactness : Int32)
  | links (relation player role : Option ConstraintVertex) (exactness : Int32)
  | kind (kind : Int32) (type : Option ConstraintVertex)
  | sub (subtype supertype : Option ConstraintVertex) (exactness : Int32)
  | owns (owner attr : Option ConstraintVertex) (exactness : Int32)
  | relates (relation role : Option ConstraintVertex) (exactness : Int32)
  | plays (player role : Option ConstraintVertex) (exactness : Int32)
  | value (attributeType : Option ConstraintVertex) (valueType : Option ValueType)
  | label (type : Option ConstraintVertex) (label : String)
  | comparison (lhs rhs : Option ConstraintVertex) (comparator : Int32)
  | expression (assigned : Option ConstraintVertex) (arguments : List ConstraintVertex)
      (text : String)
  | functionCall (name : String) (assigned arguments : List ConstraintVertex)
  | is (lhs rhs : Option ConstraintVertex)
  | iid (concept : Option ConstraintVertex) (iid : List UInt8)

structure ConstraintSpan where
  first : UInt64
  last : UInt64

structure Constraint where
  constraint : Option ConstraintInner
  span : Option ConstraintSpan

inductive Annotations
  | instance_ (types : List Type_)
  | type (types : List Type_)
  | valueAnnotations (valueType : ValueType)

structure VariableAnnotations where
  isOptional : Bool
  annotations : Option Annotations

structure AnalyzedConjunction where
  constraints : List Constraint
  variableAnnotations : List (UInt32 × VariableAnnotations)

structure Reducer where
  vars : List Variable
  reducer : String

structure ReduceAssign where
  assigned : Option Variable
  reducer : Option Reducer

structure SortVariable where
  var : Option Variable
  direction : Int32

inductive Stage
  | match_ (block : UInt32)
  | insert (block : UInt32)
  | put (block : UInt32)
  | update (block : UInt32)
  | delete (block : UInt32) (deletedVariables : List Variable)
  | select (vars : List Variable)
  | sort (sortVariables : List SortVariable)
  | require (vars : List Variable)
  | offset (offset : UInt64)
  | limit (limit : UInt64)
  | distinct
  | reduce (reducers : List ReduceAssign) (groupby : List Variable)

structure PipelineStage where
  stage : Option Stage

structure VariableInfo where
  name : String

structure Pipeline where
  conjunctions : List AnalyzedConjunction
  stages : List PipelineStage
  variableInfo : List (UInt32 × VariableInfo)
  outputs : List Variable

inductive ReturnOperationInner
  | stream (vars : List Variable)
  | single (selector : String) (vars : List Variable)
  | check
  | reduce (reducers : List Reducer)

structure ReturnOperation where
  returnOperation : Option ReturnOperationInner

structure Function where
  body : Option Pipeline
  arguments : List Variable
  returnOperation : Option ReturnOperation
  argumentsAnnotations : List VariableAnnotations
  returnAnnotations : List VariableAnnotations

structure AnalyzedGiven where
  vars : List Variable
  variableAnnotations : List (UInt32 × VariableAnnotations)

/-- What is fetched; `unset` when the message has none of the three. -/
inductive Fetch
  | object (fetch : List (String × Fetch))
  | list (elements : Fetch)
  | leaf (annotations : List ValueType)
  | unset

structure AnalyzedQuery where
  source : String
  preamble : List Function
  given : Option AnalyzedGiven
  query : Option Pipeline
  fetch : Option Fetch

structure Error where
  errorCode : String
  domain : String
  stackTrace : List String

inductive AnalyzeResult
  | ok (query : AnalyzedQuery)
  | err (error : Error)

structure AnalyzeRes where
  result : Option AnalyzeResult

end Proto

/-- The numbers that stand for the enumerations, and the names of their types. -/
structure AnalyzeEnums where
  constraintExactness : Int32 → Option Proto.ConstraintExactness
  constraintExactnessName : String
  comparator : Int32 → Option Proto.Comparator
  comparatorName : String
  sortDirection : Int32 → Option Proto.SortDirection
  sortDirectionName : String

/-! ## Data -/

structure ConjunctionID where
  id : ℕ

structure Variable where
  id : UInt32

structure NamedRole where
  var : Variable
  name : String

inductive ConstraintVertex (C : Chrono)
  | variable (v : Variable)
  | label (type : Type_)
  | value (value : Value C)
  | namedRole (role : NamedRole)

inductive ConstraintExactness
  | exact
  | subtypes

inductive Comparator
  | equal
  | notEqual
  | lessThan
  | lessOrEqual
  | greater
  | greaterOrEqual
  | like
  | contains

structure ConstraintSpan where
  first : ℕ
  last : ℕ

inductive Constraint (C : Chrono)
  | isa (inst type : ConstraintVertex C) (exactness : ConstraintExactness)
  | has (owner attr : ConstraintVertex C) (exactness : ConstraintExactness)
  | links (relation player role : ConstraintVertex C) (exactness : ConstraintExactness)
  | sub (subtype supertype : ConstraintVertex C) (exactness : ConstraintExactness)
  | owns (owner attr : ConstraintVertex C) (exactness : ConstraintExactness)
  | relates (relation role : ConstraintVertex C) (exactness : ConstraintExactness)
  | plays (player role : ConstraintVertex C) (exactness : ConstraintExactness)
  | functionCall (name : String) (assigned arguments : List (ConstraintVertex C))
  | expression (text : String) (assigned : ConstraintVertex C)
      (arguments : List (ConstraintVertex C))
  | is (lhs rhs : ConstraintVertex C)
  | iid (concept : ConstraintVertex C) (iid : IID)
  | comparison (lhs rhs : ConstraintVertex C) (comparator : Comparator)
  | kind (kind : Kind) (type : ConstraintVertex C)
  | label (type : ConstraintVertex C) (label : String)
  | value (attributeType : ConstraintVertex C) (valueType : ValueType)
  | or (branches : List ConjunctionID)
  | not (conjunction : ConjunctionID)
  | try_ (conjunction : ConjunctionID)

structure ConstraintWithSpan (C : Chrono) where
  constraint : Constraint C
  span : Option ConstraintSpan

inductive TypeAnnotations
  | instance_ (types : List Type_)
  | type (types : List Type_)
  | value (type : ValueType)

structure VariableAnnotations where
  isOptional : Bool
  types : TypeAnnotations

structure Conjunction (C : Chrono) where
  constraints : List (ConstraintWithSpan C)
  variableAnnotations : List (Variable × VariableAnnotations)

structure Reducer where
  arguments : List Variable
  reducer : String

structure ReduceAssignment where
  assigned : Variable
  reducer : Reducer

inductive SortOrder
  | ascending
  | descending

structure SortVariable where
  var : Variable
  order : SortOrder

inductive PipelineStage
  | match_ (block : ConjunctionID)
  | insert (block : ConjunctionID)
  | put (block : ConjunctionID)
  | update (block : ConjunctionID)
  | delete (block : ConjunctionID) (deletedVariables : List Variable)
  | select (vars : List Variable)
  | sort (vars : List SortVariable)
  | require (vars : List Variable)
  | offset (offset : UInt64)
  | limit (limit : UInt64)
  | distinct
  | reduce (reducers : List ReduceAssignment) (groupby : List Variable)

structure VariableInfo where
  name : String

structure Pipeline (C : Chrono) where
  conjunctions : List (Conjunction C)
  stages : List PipelineStage
  variableInfo : List (Variable × VariableInfo)
  outputs : List Variable

inductive ReturnOperation
  | stream (vars : List Variable)
  | single (selector : String) (vars : List Variable)
  | check
  | reduce (reducers : List Reducer)

structure Function (C : Chrono) where
  argumentVariables : List Variable
  returnOperation : ReturnOperation
  body : Pipeline C
  argumentAnnotations : List VariableAnnotations
  returnAnnotations : List VariableAnnotations

structure Given where
  vars : List Variable
  variableAnnotations : List (Variable × VariableAnnotations)

structure FetchLeaf where
  annotations : List ValueType

inductive Fetch
  | list (elements : Fetch)
  | leaf (leaf : FetchLeaf)
  | object (fields : List (String × Fetch))

structure AnalyzedQuery (C : Chrono) where
  source : String
  preamble : List (Function C)
  given : Option Given
  query : Pipeline C
  fetch : Option Fetch

inductive AnalyzeResponse (C : Chrono)
  | ok (query : AnalyzedQuery C)
  | err (error : ServerError)

end TypeDBDriver
