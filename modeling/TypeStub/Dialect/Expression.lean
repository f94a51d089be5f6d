import TypeStub.Annotation.Cursor
import TypeStub.Dialect.Basic
import TypeStub.Journal

/-!
# Types as written in a dialect

A node is written by the dialect's name for it, and a collection with its members
by the collection template.  A member that is nil adds nothing to a collection of
others, so nil members are left out, and a collection with no member left is
written by its bare name.  What a mapping maps is not written.

The types of several annotations make one type.  Of more than one, a nil among
them makes the rest nilable, and otherwise they form a union.
-/

namespace TypeStub

open TypeStub.Annotation

inductive ExpressionFailure
  | unreadable (failure : ReadFailure)
  | template (fault : Template.Fault)
  | foreign (text : String)
  deriving DecidableEq, Repr

namespace ExpressionFailure

/-- The quoted form of a text, cut so that a message stays short. -/
def excerpt (text : String) : String :=
  let quoted := (Text.quote text).toList
  if quoted.length ≤ 100 then String.ofList quoted
  else String.ofList (quoted.take 100) ++ "..."

def message : ExpressionFailure → String
  | .unreadable failure => failure.message
  | .template fault => fault.message
  | .foreign text => "Expected code to be unreachable, but got: " ++ excerpt text

end ExpressionFailure

/-- Types in the order in which a list of them is written. -/
def listTypes (types : List String) : String := ", ".intercalate types

namespace Dialect

variable [Template.Members]

/-- A template filled, where a fault of it is a failure to write types. -/
def fillTemplate (template : String) (arguments : Template.Arguments) :
    Except ExpressionFailure String :=
  (Template.render template arguments).mapError .template

/-- A template with a single place, filled with types. -/
def wrap (template : String) (types : List String) : Except ExpressionFailure String :=
  fillTemplate template ⟨[listTypes types], []⟩

/-- The written form of a collection whose members are written. -/
def writeCollection (dialect : Dialect) (name : String) (members : List String) :
    Except ExpressionFailure String :=
  match members.filter (· ≠ dialect.nilType) with
  | [] => .ok (dialect.spell name)
  | kept =>
    fillTemplate dialect.collectionTemplate
      ⟨[], [("name", dialect.spell name), ("types", listTypes kept)]⟩

mutual

def writeNode (dialect : Dialect) : TypeNode → Except ExpressionFailure String
  | .simple name => .ok (dialect.spell name)
  | .mapping name _ _ => .ok (dialect.spell name)
  | .collection name types => do dialect.writeCollection name (← dialect.writeNodes types)
  | .fixed name types => do dialect.writeCollection name (← dialect.writeNodes types)
  | .foreign text => .error (.foreign text)

/-- The written forms of nodes, the first failure of which decides. -/
def writeNodes (dialect : Dialect) : List TypeNode → Except ExpressionFailure (List String)
  | [] => .ok []
  | node :: nodes => return (← dialect.writeNode node) :: (← dialect.writeNodes nodes)

end

/-- The written forms of the types of annotations.  An annotation is read only
after the types of those before it have been written. -/
def writeAnnotations (dialect : Dialect) : List String → Except ExpressionFailure (List String)
  | [] => .ok []
  | text :: texts => do
    let nodes ← (parse text).mapError .unreadable
    let written ← dialect.writeNodes nodes
    return written ++ (← dialect.writeAnnotations texts)

/-- One type out of written ones.  Of several nils, the first makes the type
nilable and the others stay. -/
def combine (dialect : Dialect) (types : List String) : Except ExpressionFailure String :=
  if types.length ≤ 1 then .ok (listTypes types)
  else if dialect.nilType ∈ types then
    wrap dialect.nilableTemplate (types.erase dialect.nilType)
  else wrap dialect.unionTemplate types

/-- The one type that annotations stand for, empty if there is no annotation. -/
def expression (dialect : Dialect) (annotations : List String) :
    Except ExpressionFailure String := do
  dialect.combine (← dialect.writeAnnotations annotations)

/-- The same with a record of it, which a failure does not leave. -/
def recordExpression (dialect : Dialect) (annotations : List String) :
    Journaled ExpressionFailure String := do
  let written ← Journaled.ofExcept (dialect.expression annotations)
  Journaled.note ⟨.debug, .expressions,
    "converted " ++ Text.quoteAll annotations ++ " to " ++ Text.quote written⟩
  return written

/-- The record changes nothing about the outcome. -/
theorem value_recordExpression (dialect : Dialect) (annotations : List String) :
    (dialect.recordExpression annotations).run.value = dialect.expression annotations := by
  rw [recordExpression, Journaled.value_run_bind]
  cases dialect.expression annotations with
  | ok written => rfl
  | error failure => rfl

end Dialect

end TypeStub
