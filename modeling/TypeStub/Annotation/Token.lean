/-!
# Tokens of an annotation

An annotation such as `Hash{Symbol => Array<String>}` is a sequence of names,
separators and brackets.  Three brackets open a group.  What can end a list of
types is a terminator: a closing bracket, the arrow that ends the keys of a
mapping, or the end of the text.  Keeping terminators apart from other tokens
lets a reader say which terminator it waits for.
-/

namespace TypeStub
namespace Annotation

inductive Bracket
  | angle
  | paren
  | brace
  deriving DecidableEq, Repr

inductive Terminator
  | angle
  | paren
  | arrow
  | brace
  | finish
  deriving DecidableEq, Repr

/-- The kinds of token.  A blank is one for the scan and no part of an annotation. -/
inductive TokenKind
  | opening (bracket : Bracket)
  | closing (terminator : Terminator)
  | name
  | separator
  | blank
  deriving DecidableEq, Repr

/-- A token with its own text and the number of characters in front of it. -/
structure Token where
  kind : TokenKind
  lexeme : String
  position : Nat
  deriving DecidableEq, Repr

def Terminator.describe : Terminator → String
  | .angle => "'>'"
  | .paren => "')'"
  | .arrow => "'=>'"
  | .brace => "'\x7d'"
  | .finish => "end of input"

namespace TokenKind

/-- Every kind, in the order in which a scan tries them. -/
def all : List TokenKind :=
  [.opening .angle, .closing .angle, .opening .paren, .closing .paren, .name, .separator, .blank,
    .opening .brace, .closing .arrow, .closing .brace, .closing .finish]

/-- The word by which a caller refers to a kind. -/
def label : TokenKind → String
  | .opening .angle => "collection_start"
  | .closing .angle => "collection_end"
  | .opening .paren => "fixed_collection_start"
  | .closing .paren => "fixed_collection_end"
  | .name => "type_name"
  | .separator => "type_next"
  | .blank => "whitespace"
  | .opening .brace => "hash_collection_start"
  | .closing .arrow => "hash_collection_next"
  | .closing .brace => "hash_collection_end"
  | .closing .finish => "parse_end"

def ofLabel? (text : String) : Option TokenKind := all.find? (·.label == text)

theorem mem_all (kind : TokenKind) : kind ∈ all := by
  rcases kind with bracket | terminator | _ | _ | _
  · cases bracket <;> decide
  · cases terminator <;> decide
  all_goals decide

theorem ofLabel?_label (kind : TokenKind) : ofLabel? kind.label = some kind := by
  rcases kind with bracket | terminator | _ | _ | _
  · cases bracket <;> decide
  · cases terminator <;> decide
  all_goals decide

end TokenKind

end Annotation
end TypeStub
