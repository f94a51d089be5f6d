import TypeStub.Stub.Slot

/-!
# Sessions

A session answers requests one after another with one builder.  Some requests
change the builder, and the change holds from the next request on.  A request that
fails changes nothing.
-/

namespace TypeStub
namespace Stub

inductive Request
  | parameterType (parameter : DocumentedParameter)
  | parameters (documented : List DocumentedParameter) (declarations : List Declaration)
  | method (name : String) (documented : List DocumentedParameter)
      (declarations : List Declaration) (returnType : String)
  | initializer (docs : List (String × List DocumentedParameter)) (constant : String)
      (declarations : List Declaration)
  | slotMethods (slots : List Slot)
  | setFallback (fallback : String)
  | setDialect (layers : List Dialect.Layer)

/-- What a request that succeeds is answered with. -/
inductive Reply
  | text (text : String)
  | parameters (parameters : List TypedParameter)
  | signature (signature : Option MethodSignature)
  | signatures (signatures : List MethodSignature)
  deriving DecidableEq, Repr

inductive SessionFailure
  | building (failure : Failure)
  | dialect (fault : Dialect.Fault)
  deriving DecidableEq, Repr

namespace Builder

variable [Template.Members]

/-- Answers a request and gives the builder that answers the next one. -/
def perform (builder : Builder) :
    Request → Builder × Recorded (Except SessionFailure Reply)
  | .parameterType parameter =>
    (builder, answer Reply.text (builder.parameterType parameter))
  | .parameters documented declarations =>
    (builder, answer Reply.parameters (builder.parameters documented declarations))
  | .method name documented declarations returnType =>
    (builder, answer (Reply.signature ∘ some)
      (builder.method name documented declarations returnType))
  | .initializer docs constant declarations =>
    (builder, answer Reply.signature (builder.initializer docs constant declarations))
  | .slotMethods slots => (builder, answer Reply.signatures (builder.slotMethods slots))
  | .setFallback fallback => ({ builder with fallback }, pure (.ok (.text fallback)))
  | .setDialect layers =>
    match Dialect.ofLayers layers with
    | .ok dialect => ({ builder with dialect }, pure (.ok (.text dialect.nilType)))
    | .error fault => (builder, pure (.error (.dialect fault)))
where
  /-- The answer that a computation amounts to. -/
  answer {α : Type} (reply : α → Reply) (computation : Journaled Failure α) :
      Recorded (Except SessionFailure Reply) := do
    return ((← computation.run).map reply).mapError .building

def performAll (builder : Builder) : List Request → List (Recorded (Except SessionFailure Reply))
  | [] => []
  | request :: requests =>
    let (next, answer) := builder.perform request
    answer :: next.performAll requests

end Builder

end Stub
end TypeStub
