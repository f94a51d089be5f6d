import TypeStub.Template.Format

/-!
# Values of fields

A field may look something up in its argument, and in what it finds: a character of a
text by its index, or a member by its name.  It may convert what it has found, and it
lays it out.

Members of texts are mostly no texts.  What they are is a matter of the language that
texts come from, and not of templates.  So an account of them is a parameter here
(`Members`), and what is said of templates holds for every account.  Only templates that
look up a member depend on it.

An account gives equal texts equal members.  A member that is shown by the place of its
text in memory is beyond every account, since equal texts may lie at different places: a
template that shows it does not give again what it has given once.
-/

namespace TypeStub
namespace Template

/-- A step from a value to something that it has. -/
inductive Lookup
  | member (name : String)
  | index (n : Nat)
  | key (name : String)
  deriving DecidableEq, Repr

/-- What a field can have found: a text, or an object that is none. -/
inductive Value (Object : Type)
  | text (text : String)
  | object (object : Object)

/-- How a value is made a text before it is laid out. -/
inductive Conversion
  | plain
  | quoted
  /-- Quoted, without a character outside of ASCII. -/
  | quotedAscii
  deriving DecidableEq, Repr

def Conversion.ofChar? : Char → Option Conversion
  | 's' => some .plain
  | 'r' => some .quoted
  | 'a' => some .quotedAscii
  | _ => none

/-- An account of the members that texts have, and of what there is to be done with those
that are no texts. -/
class Members where
  Object : Type
  /-- The member of a text with one of the names in `memberNames`. -/
  ofText : (text name : String) → Except Fault (Value Object)
  lookUp : Object → Lookup → Except Fault (Value Object)
  shown : Object → Conversion → Except Fault String
  layOut : (object : Object) → (format : List Char) → Except Fault (List Char)

/-- Nothing is known of members, so to look one up is a fault. -/
instance (priority := low) Members.unknown : Members where
  Object := Empty
  ofText _ name := .error (.ofMember (.other "unknown") ("nothing is known of " ++ name))
  lookUp := nofun
  shown := nofun
  layOut := nofun

/-- The names of the members that texts have. -/
def memberNames : List String :=
  ["__add__", "__class__", "__contains__", "__delattr__", "__dir__", "__doc__", "__eq__",
    "__format__", "__ge__", "__getattribute__", "__getitem__", "__getnewargs__", "__getstate__",
    "__gt__", "__hash__", "__init__", "__init_subclass__", "__iter__", "__le__", "__len__",
    "__lt__", "__mod__", "__mul__", "__ne__", "__new__", "__reduce__", "__reduce_ex__",
    "__repr__", "__rmod__", "__rmul__", "__setattr__", "__sizeof__", "__str__",
    "__subclasshook__", "capitalize", "casefold", "center", "count", "encode", "endswith",
    "expandtabs", "find", "format", "format_map", "index", "isalnum", "isalpha", "isascii",
    "isdecimal", "isdigit", "isidentifier", "islower", "isnumeric", "isprintable", "isspace",
    "istitle", "isupper", "join", "ljust", "lower", "lstrip", "maketrans", "partition",
    "removeprefix", "removesuffix", "replace", "rfind", "rindex", "rjust", "rpartition",
    "rsplit", "rstrip", "split", "splitlines", "startswith", "strip", "swapcase", "title",
    "translate", "upper", "zfill"]

/-! ## Lookups -/

def startsLookup (c : Char) : Bool := c = '.' || c = '['

/-- A lookup between brackets.  Digits alone are an index, and a number that is too large
is a fault even if something follows it. -/
def Lookup.ofBrackets (cs : List Char) : Except Fault Lookup := do
  match ← Format.takeNumber cs with
  | (some n, []) => return .index n
  | _ => if cs.isEmpty then throw .emptyLookup else return .key (String.ofList cs)

theorem length_dropWhile_le (p : Char → Bool) (cs : List Char) :
    (cs.dropWhile p).length ≤ cs.length :=
  (List.dropWhile_suffix p).length_le

/-- The lookups of a field.  One that is not well written is the last of them, for what
follows it does not count. -/
def lookups : List Char → List (Except Fault Lookup)
  | [] => []
  | '.' :: rest =>
    have := length_dropWhile_le (!startsLookup ·) rest
    match rest.takeWhile (!startsLookup ·) with
    | [] => [.error .emptyLookup]
    | name => .ok (.member (String.ofList name)) :: lookups (rest.dropWhile (!startsLookup ·))
  | '[' :: rest =>
    have := length_dropWhile_le (· != ']') rest
    match _ : rest.dropWhile (· != ']') with
    | [] => [.error .unclosedBracket]
    | _ :: behind =>
      match Lookup.ofBrackets (rest.takeWhile (· != ']')) with
      | .ok lookup => .ok lookup :: lookups behind
      | .error fault => [.error fault]
  | _ :: _ => [.error .textBehindBracket]
termination_by cs => cs.length
decreasing_by all_goals simp_all only [List.length_cons]; omega

namespace Value

variable [Members]

def lookUp : Value Members.Object → Lookup → Except Fault (Value Members.Object)
  | .text value, .member name =>
    if memberNames.contains name then Members.ofText value name else .error (.noMember name)
  | .text value, .index n =>
    match value.toList[n]? with
    | some c => .ok (.text c.toString)
    | none => .error .noCharacter
  | .text _, .key _ => .error .keyInText
  | .object found, lookup => Members.lookUp found lookup

/-- What lookups lead to, one after another. -/
def follow : Value Members.Object → List (Except Fault Lookup) →
    Except Fault (Value Members.Object)
  | value, [] => .ok value
  | value, lookup :: rest => do (← value.lookUp (← lookup)).follow rest

def shown : Value Members.Object → Conversion → Except Fault String
  | .text value, .plain => .ok value
  | .text value, .quoted => .ok (Text.quote value)
  | .text value, .quotedAscii => .ok (Text.quoteAscii value)
  | .object found, conversion => Members.shown found conversion

/-- The value as its field converts it.  A mark of code point zero is the same as none. -/
def convert (value : Value Members.Object) : Option Char → Except Fault (Value Members.Object)
  | none => .ok value
  | some '\x00' => .ok value
  | some mark =>
    match Conversion.ofChar? mark with
    | some conversion => return .text (← value.shown conversion)
    | none => .error (.unknownConversion mark)

def layOut : Value Members.Object → List Char → Except Fault (List Char)
  | .text value, format => return (← Format.ofList? format).layOut value.toList
  | .object found, format => Members.layOut found format

end Value

end Template
end TypeStub
