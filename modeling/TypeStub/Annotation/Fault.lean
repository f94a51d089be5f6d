import TypeStub.Annotation.Token

/-!
# Faults of an annotation

A fault is a token, or a character that starts none, at which an annotation
cannot go on.  It keeps the cause apart from the place, and the wording of both is
`Fault.message`.  A `Malformed` annotation is a fault together with the whole text
it was found in, which is what a caller needs to show the place.
-/

namespace TypeStub
namespace Annotation

/-- Why an annotation cannot go on. -/
inductive Cause
  | invalidCharacter
  /-- A name stands where the entry already has a name or a group. -/
  | secondName
  /-- A terminator other than the one that is waited for. -/
  | wrongTerminator (expected found : Terminator)
  /-- A separator or a terminator ends an entry that holds nothing. -/
  | missingName
  deriving DecidableEq, Repr

/-- A cause with the text and the place of what it is found at. -/
structure Fault where
  cause : Cause
  lexeme : String
  position : Nat
  deriving DecidableEq, Repr

def Fault.message (fault : Fault) : String :=
  match fault.cause with
  | .invalidCharacter => "invalid character at '" ++ fault.lexeme ++ "'"
  | .secondName => "expecting END, got name '" ++ fault.lexeme ++ "'"
  | .wrongTerminator expected found =>
    "expecting " ++ expected.describe ++ ", got " ++ found.describe
  | .missingName =>
    "expecting name, got '" ++ fault.lexeme ++ "' at " ++ fault.position.repr

structure Malformed extends Fault where
  text : String
  deriving DecidableEq, Repr

namespace Malformed

/-- The column of the fault, counted from one. -/
def column (error : Malformed) : Nat := error.position + 1

/-- The message with the place an annotation is shown under.  An annotation is a
single line of a source that has no name of its own. -/
def located (error : Malformed) : String := error.message ++ " (<annotation>, line 1)"

end Malformed

end Annotation
end TypeStub
