import TypeStub.Text.Quoted

/-!
# Faults of a template

What can be wrong with a template, or with a template for the arguments it is
filled with, and the wording of each fault.
-/

namespace TypeStub
namespace Template

/-- What a fault is a mistake about. -/
inductive FaultKind
  | value
  | index
  | key
  | type
  | attribute
  | other (name : String)
  deriving DecidableEq, Repr

inductive Fault
  | outOfRange (index : Nat)
  | unknownKey (key : String)
  | automaticThenManual
  | manualThenAutomatic
  | singleClosing
  | singleOpening
  | braceInKey
  | unclosedKey
  /-- A field that ends with the mark of a conversion. -/
  | missingConversion
  /-- A conversion of more than one character. -/
  | textBehindConversion
  | unclosedFormat
  /-- A number that is larger than any length. -/
  | numberTooLarge
  | unclosedBracket
  | emptyLookup
  /-- A bracket that is closed in front of something else than a lookup. -/
  | textBehindBracket
  /-- A member that texts do not have. -/
  | noMember (name : String)
  /-- An index behind the last character of a text. -/
  | noCharacter
  /-- A key where texts have indices only. -/
  | keyInText
  /-- A fault of a member that is no text, with its wording. -/
  | ofMember (kind : FaultKind) (message : String)
  | unknownConversion (mark : Char)
  /-- A field in the format of a field in a format. -/
  | nestedTooDeep
  /-- A format with a point and no number behind it. -/
  | missingPrecision
  | bothGroupings
  /-- A grouping of digits with a code that has none. -/
  | groupingWithCode (grouping code : Char)
  /-- A format with more than a code left at its end. -/
  | malformedFormat (format : String)
  /-- A format with a code that texts do not have. -/
  | unknownCode (code : Char)
  | signed
  | signedBySpace
  | zeroCoerced
  | alternateForm
  | paddedBehindSign
  deriving DecidableEq, Repr

namespace Fault

def kind : Fault → FaultKind
  | .outOfRange _ => .index
  | .noCharacter => .index
  | .unknownKey _ => .key
  | .noMember _ => .attribute
  | .keyInText => .type
  | .ofMember kind _ => kind
  | _ => .value

/-- A character by its code point. -/
def showCodePoint (c : Char) : String := "\\x" ++ String.ofList (Nat.toDigits 16 c.toNat)

/-- How a message shows the code of a format: by its code point if it is not one
of the visible characters of ASCII. -/
def showCode (code : Char) : String :=
  if 32 < code.toNat ∧ code.toNat < 128 then code.toString else showCodePoint code

/-- How a message shows the mark of a conversion. -/
def showMark (mark : Char) : String :=
  if 32 < mark.toNat ∧ mark.toNat < 127 then mark.toString else showCodePoint mark

def message : Fault → String
  | .outOfRange index =>
    "Replacement index " ++ index.repr ++ " out of range for positional args tuple"
  | .unknownKey key => Text.quote key
  | .automaticThenManual =>
    "cannot switch from automatic field numbering to manual field specification"
  | .manualThenAutomatic =>
    "cannot switch from manual field specification to automatic field numbering"
  | .singleClosing => "Single '\x7d' encountered in format string"
  | .singleOpening => "Single '\x7b' encountered in format string"
  | .braceInKey => "unexpected '\x7b' in field name"
  | .unclosedKey => "expected '\x7d' before end of string"
  | .missingConversion => "end of string while looking for conversion specifier"
  | .textBehindConversion => "expected ':' after conversion specifier"
  | .unclosedFormat => "unmatched '\x7b' in format spec"
  | .numberTooLarge => "Too many decimal digits in format string"
  | .unclosedBracket => "Missing ']' in format string"
  | .emptyLookup => "Empty attribute in format string"
  | .textBehindBracket => "Only '.' or '[' may follow ']' in format field specifier"
  | .noMember name => "'str' object has no attribute '" ++ name ++ "'"
  | .noCharacter => "string index out of range"
  | .keyInText => "string indices must be integers, not 'str'"
  | .ofMember _ message => message
  | .unknownConversion mark => "Unknown conversion specifier " ++ showMark mark
  | .nestedTooDeep => "Max string recursion exceeded"
  | .missingPrecision => "Format specifier missing precision"
  | .bothGroupings => "Cannot specify both ',' and '_'."
  | .groupingWithCode grouping code =>
    "Cannot specify '" ++ grouping.toString ++ "' with '" ++ showCode code ++ "'."
  | .malformedFormat format =>
    "Invalid format specifier '" ++ format ++ "' for object of type 'str'"
  | .unknownCode code =>
    "Unknown format code '" ++ showCode code ++ "' for object of type 'str'"
  | .signed => "Sign not allowed in string format specifier"
  | .signedBySpace => "Space not allowed in string format specifier"
  | .zeroCoerced => "Negative zero coercion (z) not allowed in string format specifier"
  | .alternateForm => "Alternate form (#) not allowed in string format specifier"
  | .paddedBehindSign => "'=' alignment not allowed in string format specifier"

end Fault

end Template
end TypeStub
