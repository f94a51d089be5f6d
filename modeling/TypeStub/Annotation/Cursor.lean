import TypeStub.Annotation.Reader
import TypeStub.Annotation.TokenStream
import TypeStub.Text.Quoted

/-!
# Reading an annotation

A cursor stands between two tokens of an annotation.  `Cursor.read` reads one list
of types up to a terminator and leaves the cursor behind the last token it took,
whether it succeeded or not, so that lists can be read one after another.  `parse`
reads a whole annotation.
-/

namespace TypeStub
namespace Annotation

/-- An annotation and the part of its token stream that has not been read. -/
structure Cursor where
  text : String
  rest : TokenStream

inductive ReadFailure
  | malformed (error : Malformed)
  | streamEnded
  /-- A terminator came while waiting for a kind that terminates nothing. -/
  | notTerminator (kind : TokenKind)
  | unknownKind (label : String)
  deriving DecidableEq, Repr

namespace ReadFailure

def message : ReadFailure → String
  | .malformed error => error.message
  | .streamEnded => "token stream ended without a PARSE_END token"
  | .notTerminator kind =>
    "<TokenKind." ++ kind.label.map Char.toUpper ++ ": '" ++ kind.label ++ "'>"
  | .unknownKind label => Text.quote label ++ " is not a valid TokenKind"

end ReadFailure

namespace Cursor

def ofText (text : String) : Cursor := ⟨text, tokenize text⟩

/-- The failure that a reader's stop at a token of a text amounts to. -/
def failureAt (text : String) (token : Token) : Stop → ReadFailure
  | .fault cause => .malformed ⟨⟨cause, token.lexeme, token.position⟩, text⟩
  | .notTerminator kind => .notTerminator kind

/-- The failure of reading on where the tokens of a text have come to their end. -/
def failureAtEnd (text : String) : StreamEnd → ReadFailure
  | .exhausted => .streamEnded
  | .invalid c position => .malformed ⟨⟨.invalidCharacter, c.toString, position⟩, text⟩

/-- Feeds the tokens to a reader until it finishes or stops, and returns what is
left of the stream.  Reading past the end leaves nothing. -/
def run (goal : TokenKind) (text : String) (ending : StreamEnd) :
    Reader → List Token → Except ReadFailure (List TypeNode) × TokenStream
  | _, [] => (.error (failureAtEnd text ending), ⟨[], .exhausted⟩)
  | reader, token :: tokens =>
    match reader.step goal token with
    | .reading next => run goal text ending next tokens
    | .finished nodes => (.ok nodes, ⟨tokens, ending⟩)
    | .stopped reason => (.error (failureAt text token reason), ⟨tokens, ending⟩)

/-- Reads types up to and including the terminator `goal`. -/
def read (goal : TokenKind) (cursor : Cursor) : Except ReadFailure (List TypeNode) × Cursor :=
  let (result, rest) := run goal cursor.text cursor.rest.ending .start cursor.rest.tokens
  (result, { cursor with rest })

/-- Reads types up to the terminator that a label names.  A label of no kind reads
nothing. -/
def readLabel (label : String) (cursor : Cursor) :
    Except ReadFailure (List TypeNode) × Cursor :=
  match TokenKind.ofLabel? label with
  | some goal => cursor.read goal
  | none => (.error (.unknownKind label), cursor)

end Cursor

def parse (text : String) : Except ReadFailure (List TypeNode) :=
  ((Cursor.ofText text).read (.closing .finish)).1

end Annotation
end TypeStub
