/-!
# Stored procedures

A procedure is discovered as a node: a definition, a package of definitions, or a named root over
another node. `ProcedureNode.name` is the identity of a node and `ProcedureNode.definitions` what
can be called through it.
-/

namespace Orm

/-- The way a parameter passes its value. -/
inductive ParameterDirection
  | input
  | output
  | inputOutput
  | result
deriving DecidableEq, Repr, Inhabited

namespace ParameterDirection

/-- All directions. -/
def all : List ParameterDirection := [.input, .output, .inputOutput, .result]

/-- The name of a direction. -/
def label : ParameterDirection → String
  | .input => "In"
  | .output => "Out"
  | .inputOutput => "InOut"
  | .result => "Return"

/-- The direction with the given name. -/
def ofLabel? (label : String) : Option ParameterDirection :=
  all.find? fun direction => direction.label = label

/-- Whether the caller gives the value. -/
def isInput : ParameterDirection → Bool
  | .input | .inputOutput => true
  | .output | .result => false

/-- Whether the procedure gives the value. -/
def isOutput : ParameterDirection → Bool
  | .output | .inputOutput | .result => true
  | .input => false

end ParameterDirection

/-- The description of a parameter. -/
structure ProcedureParameter where
  name : String
  typeTag : String
  direction : ParameterDirection
  ordinal : UInt32
deriving DecidableEq, Repr, Inhabited

/-- The name of a procedure; the owner and the package can be empty. -/
structure ProcedureName where
  owner : String
  package : String
  name : String
deriving DecidableEq, Repr, Inhabited

/-- The parts of a name that are not empty, with dots between them. -/
def ProcedureName.qualified (name : ProcedureName) : String :=
  (if name.owner.isEmpty then "" else name.owner ++ ".") ++
    (if name.package.isEmpty then "" else name.package ++ ".") ++ name.name

/-- A procedure that can be called. -/
structure ProcedureDefinition where
  name : ProcedureName
  params : List ProcedureParameter
deriving DecidableEq, Repr, Inhabited

namespace ProcedureDefinition

/-- Parameters by their ordinals; those with the same one stay in declared order. -/
def byOrdinal (params : List ProcedureParameter) : List ProcedureParameter :=
  params.mergeSort fun left right => left.ordinal ≤ right.ordinal

/-- The parameters with a value of the caller, by ordinal. -/
def inputs (definition : ProcedureDefinition) : List ProcedureParameter :=
  byOrdinal (definition.params.filter fun param => param.direction.isInput)

/-- The parameters with a value of the procedure, by ordinal. -/
def outputs (definition : ProcedureDefinition) : List ProcedureParameter :=
  byOrdinal (definition.params.filter fun param => param.direction.isOutput)

end ProcedureDefinition

/-- A discovered procedure. -/
inductive ProcedureNode
  | root (name : String) (inner : ProcedureNode)
  | package (name : String) (definitions : List ProcedureDefinition)
  | single (definition : ProcedureDefinition)
  | empty
deriving DecidableEq, Repr, Inhabited

namespace ProcedureNode

/-- The names on the way from a node to its leaf. -/
def nameParts : ProcedureNode → List String
  | .root name inner => name :: nameParts inner
  | .package name _ => [name]
  | .single definition => [definition.name.qualified]
  | .empty => []

/-- The identity of a node: its name parts with dots between them. -/
def name (node : ProcedureNode) : String := ".".intercalate node.nameParts

/-- The definitions that can be reached from a node. -/
def definitions : ProcedureNode → List ProcedureDefinition
  | .root _ inner => definitions inner
  | .package _ definitions => definitions
  | .single definition => [definition]
  | .empty => []

end ProcedureNode

end Orm
