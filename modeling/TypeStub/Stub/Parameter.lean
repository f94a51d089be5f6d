import TypeStub.Text.Quoted

/-!
# Parameters

The kinds of parameter a method can declare, and how a parameter whose type is
known stands in the two lines of a stub.
-/

namespace TypeStub
namespace Stub

/-- How a method declares a parameter. -/
inductive ParameterKind
  | req
  | opt
  | rest
  | keyreq
  | key
  | keyrest
  | block
  /-- The method takes no keywords. -/
  | nokey
  deriving DecidableEq, Repr

namespace ParameterKind

def all : List ParameterKind := [.req, .opt, .rest, .keyreq, .key, .keyrest, .block, .nokey]

/-- The word by which a caller refers to a kind. -/
def label : ParameterKind → String
  | .req => "req"
  | .opt => "opt"
  | .rest => "rest"
  | .keyreq => "keyreq"
  | .key => "key"
  | .keyrest => "keyrest"
  | .block => "block"
  | .nokey => "nokey"

def constantName (kind : ParameterKind) : String := kind.label.map Char.toUpper

def ofLabel? (text : String) : Option ParameterKind := all.find? (·.label == text)

theorem ofLabel?_label (kind : ParameterKind) : ofLabel? kind.label = some kind := by
  cases kind <;> decide

/-- What is said of a text that is no label of a kind. -/
def unknownMessage (text : String) : String :=
  Text.quote text ++ " is not a valid ParameterKind"

end ParameterKind

/-- A parameter with the type it has in a stub. -/
structure TypedParameter where
  name : String
  kind : ParameterKind
  type : String
  deriving DecidableEq, Repr

namespace TypedParameter

def renderType (parameter : TypedParameter) : String := parameter.name ++ ": " ++ parameter.type

/-- The parameter in the line of the definition.  A default value is not known, so
something that stands for any value takes its place. -/
def renderDeclaration (parameter : TypedParameter) : String :=
  match parameter.kind with
  | .req => parameter.name
  | .opt => parameter.name ++ " = T.unsafe(nil)"
  | .rest => "*" ++ parameter.name
  | .keyreq => parameter.name ++ ":"
  | .key => parameter.name ++ ": T.unsafe(nil)"
  | .keyrest => "**" ++ parameter.name
  | .block => "&" ++ parameter.name
  | .nokey => "**nil"

end TypedParameter

end Stub
end TypeStub
