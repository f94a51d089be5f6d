import TypeStub.Stub.Parameter

/-!
# Method signatures

A signature is written as a stub of two lines: one with the types of the
parameters and the result, one with the definition of a method without a body.
-/

namespace TypeStub
namespace Stub

structure MethodSignature where
  name : String
  parameters : List TypedParameter
  returnType : String
  deriving DecidableEq, Repr

namespace MethodSignature

/-- The return type of a method whose result is of no use. -/
def void : String := "void"

/-- What the type line says of the result. -/
def renderReturn (signature : MethodSignature) : String :=
  if signature.returnType = void then void else "returns(" ++ signature.returnType ++ ")"

def renderTypes (signature : MethodSignature) : String :=
  let types := ", ".intercalate (signature.parameters.map (·.renderType))
  let parameters := if signature.parameters.isEmpty then "" else "params(" ++ types ++ ")."
  "sig \x7b " ++ parameters ++ signature.renderReturn ++ " \x7d"

def renderDefinition (signature : MethodSignature) : String :=
  let declarations := ", ".intercalate (signature.parameters.map (·.renderDeclaration))
  let parameters := if signature.parameters.isEmpty then "" else "(" ++ declarations ++ ")"
  "def " ++ signature.name ++ parameters ++ "; end"

def render (signature : MethodSignature) : String :=
  signature.renderTypes ++ "\n" ++ signature.renderDefinition

end MethodSignature

end Stub
end TypeStub
