import TypeStub.Annotation.Fault
import TypeStub.Annotation.Group

/-!
# Reading tokens into type nodes

A list of types is read one token at a time.  The reader holds the level it is at,
which is the finished types of the list and the entry that is being read, and the
levels around it, one for each open bracket.  Brackets nest, so the outer levels
form a stack, and the innermost bracket alone decides which terminator is due.

`Reader.step` says what one token does.  It never looks at the tokens behind, so a
fault is found at the first token that cannot go on.
-/

namespace TypeStub
namespace Annotation

/-- What has been read of an entry since it began. -/
inductive Entry
  | empty
  | named (name : String)
  | grouped (name : String) (group : Group)

namespace Entry

def name? : Entry → Option String
  | .empty => none
  | .named name => some name
  | .grouped name _ => some name

/-- The node that the entry stands for when it ends here.  Of several groups the
last one counts. -/
def node? : Entry → Option TypeNode
  | .empty => none
  | .named name => some (.simple name)
  | .grouped name group => some (group.node name)

end Entry

/-- An open bracket and what has been read inside it before the current list: the
values of a mapping come after its keys. -/
inductive Opening
  | angle
  | paren
  | keys
  | values (keys : List TypeNode)

namespace Opening

def ofBracket : Bracket → Opening
  | .angle => .angle
  | .paren => .paren
  | .brace => .keys

def closer : Opening → Terminator
  | .angle => .angle
  | .paren => .paren
  | .keys => .arrow
  | .values _ => .brace

end Opening

/-- A level that waits for an open bracket to close: its finished types, the name
of the entry that the bracket belongs to, and the bracket. -/
structure Level where
  done : List TypeNode
  name : String
  opening : Opening

structure Reader where
  /-- The levels around the current one, innermost first. -/
  outer : List Level
  /-- The finished types of the current list. -/
  done : List TypeNode
  entry : Entry

/-- Why a token, or the lack of one, ends a reading without a result. -/
inductive Stop
  | fault (cause : Cause)
  /-- A terminator came at the outermost level, where the reader was told to wait
  for a kind that terminates nothing. -/
  | notTerminator (kind : TokenKind)

inductive Outcome
  | reading (reader : Reader)
  | finished (nodes : List TypeNode)
  | stopped (reason : Stop)

namespace Reader

def start : Reader := ⟨[], [], .empty⟩

/-- The kind of token that ends the current list, where `goal` ends the outermost
one. -/
def due (goal : TokenKind) (reader : Reader) : TokenKind :=
  match reader.outer with
  | [] => goal
  | level :: _ => .closing level.opening.closer

/-- A finished list goes to where its bracket was opened: it becomes a group of the
entry there, or the keys of a mapping whose values come next. -/
def close (reader : Reader) (types : List TypeNode) : Outcome :=
  match reader.outer with
  | [] => .finished types
  | level :: outer =>
    match level.opening with
    | .angle => .reading ⟨outer, level.done, .grouped level.name (.angle types)⟩
    | .paren => .reading ⟨outer, level.done, .grouped level.name (.paren types)⟩
    | .keys => .reading ⟨{ level with opening := .values types } :: outer, [], .empty⟩
    | .values keys => .reading ⟨outer, level.done, .grouped level.name (.brace keys types)⟩

/-- What a terminator does: it has to be the one that is due, and the entry it
ends must not be empty.  The first of the two is checked first. -/
def terminate (goal : TokenKind) (reader : Reader) (found : Terminator) : Outcome :=
  match reader.due goal with
  | .closing expected =>
    if found = expected then
      match reader.entry.node? with
      | some node => reader.close (reader.done ++ [node])
      | none => .stopped (.fault .missingName)
    else .stopped (.fault (.wrongTerminator expected found))
  | kind => .stopped (.notTerminator kind)

/-- What a token does to a reader whose outermost list is ended by `goal`. -/
def step (goal : TokenKind) (reader : Reader) (token : Token) : Outcome :=
  match token.kind with
  | .name =>
    match reader.entry with
    | .empty => .reading { reader with entry := .named token.lexeme }
    | _ => .stopped (.fault .secondName)
  | .separator =>
    match reader.entry.node? with
    | some node => .reading { reader with done := reader.done ++ [node], entry := .empty }
    | none => .stopped (.fault .missingName)
  | .opening bracket =>
    let name := reader.entry.name?.getD bracket.defaultName
    .reading ⟨⟨reader.done, name, .ofBracket bracket⟩ :: reader.outer, [], .empty⟩
  | .closing found => reader.terminate goal found
  | .blank => .reading reader

end Reader

end Annotation
end TypeStub
