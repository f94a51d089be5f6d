import TypeStub.Text.Word

/-!
# Singular forms

The singular of an English noun is found by its ending.  A table of rules is tried
in order, and the first rule that applies changes the ending; what stands before
the ending is kept as it is.  A few nouns are their own singular.

A line end that closes the word is set aside before the rules are tried and put
back behind the result.  Letters are compared without regard to case.
-/

namespace TypeStub
namespace Text

/-- A letter with the differences of case removed.  Four letters outside ASCII are
the other case of a letter inside: the Kelvin sign, the long s, and the two forms
of i that do or do not keep their dot. -/
def foldCase (c : Char) : Char :=
  if c = '\u212A' then 'k'
  else if c = '\u017F' then 's'
  else if c = '\u0130' || c = '\u0131' then 'i'
  else c.toLower

/-- What has to stand in front of an ending. -/
inductive EndingContext
  | anything
  /-- These letters, with anything before them. -/
  | letters (expected : String)
  /-- These letters and nothing before them. -/
  | exactly (expected : String)
  /-- Some character other than these letters. -/
  | otherThan (excluded : String)

/-- Whether a text ends in the given letters. -/
def endsIn (fold : Char → Char) (ending : String) (cs : List Char) : Bool :=
  ending.toList.isSuffixOf (cs.map fold)

/-- Whether a text, which is what stands in front of an ending, fits. -/
def EndingContext.fits (before : List Char) : EndingContext → Bool
  | .anything => true
  | .letters expected => endsIn foldCase expected before
  | .exactly expected => before.map foldCase == expected.toList
  | .otherThan excluded =>
    match before.getLast? with
    | some c => !excluded.toList.contains (foldCase c)
    | none => false

inductive SingularRule
  /-- Replaces one of the endings, where one of the contexts is in front of it. -/
  | ending (contexts : List EndingContext) (endings : List String) (replacement : String)
  /-- Replaces an ending with this very first letter, followed by the others in
  ASCII of either case. -/
  | initial (first : Char) (others : String) (replacement : String)
  /-- Drops the letters that follow others at the start of a word. -/
  | leading (kept dropped : String)

/-- The word without the ending, if it has that ending in such a context. -/
def dropEnding? (contexts : List EndingContext) (word : List Char) (ending : String) :
    Option (List Char) :=
  let before := word.take (word.length - ending.length)
  if endsIn foldCase ending word && contexts.any (·.fits before) then some before else none

/-- The singular that a rule makes of a word, with the line end that was set aside
put back. -/
def SingularRule.singular? (word lineEnd : List Char) : SingularRule → Option (List Char)
  | .ending contexts endings replacement =>
    (endings.findSome? (dropEnding? contexts word)).map
      (· ++ replacement.toList ++ lineEnd)
  | .initial first others replacement =>
    let before := word.take (word.length - (others.length + 1))
    if endsIn Char.toLower others word && (word.drop before.length).head? = some first then
      some (before ++ replacement.toList ++ lineEnd)
    else none
  | .leading kept dropped =>
    let length := kept.length + dropped.length
    if (word.take length).map foldCase = kept.toList ++ dropped.toList then
      some (word.take kept.length ++ word.drop length ++ lineEnd)
    else none

def singularRules : List SingularRule :=
  [.ending [.letters "z"] ["ombies"] "ombie",
    .initial 'k' "ine" "cow",
    .initial 'K' "ine" "Cow",
    .ending [.letters "m"] ["oves"] "ove",
    .ending [.letters "s"] ["exes"] "ex",
    .ending [.letters "c"] ["hildren"] "hild",
    .ending [.letters "h"] ["umans"] "uman",
    .ending [.letters "m"] ["en"] "an",
    .ending [.letters "p"] ["eople"] "erson",
    .ending [.letters "database"] ["s"] "",
    .ending [.letters "quiz"] ["zes"] "",
    .ending [.letters "matr"] ["ices"] "ix",
    .ending [.letters "vert", .letters "ind"] ["ices"] "ex",
    .ending [.letters "passer"] ["sby"] "by",
    .leading "ox" "en",
    .ending [.letters "alias", .letters "status"] ["es", ""] "",
    .ending [.letters "octop", .letters "vir"] ["us", "i"] "us",
    .ending [.exactly "a"] ["xis", "xes"] "xis",
    .ending [.letters "cris", .letters "test"] ["is", "es"] "is",
    .ending [.letters "shoe"] ["s"] "",
    .ending [.letters "o"] ["es"] "",
    .ending [.letters "bus"] ["es", ""] "",
    .ending [.letters "m", .letters "l"] ["ice"] "ouse",
    .ending [.letters "x", .letters "ch", .letters "ss", .letters "sh"] ["es"] "",
    .ending [.letters "m"] ["ovies"] "ovie",
    .ending [.letters "s"] ["eries"] "eries",
    .ending [.otherThan "aeiouy", .letters "qu"] ["ies"] "y",
    .ending [.letters "l", .letters "r"] ["ves"] "f",
    .ending [.letters "tive"] ["s"] "",
    .ending [.letters "hive"] ["s"] "",
    .ending [.otherThan "f"] ["ves"] "fe",
    .ending [.letters "t"] ["hesis", "heses"] "hesis",
    .ending [.letters "s"] ["ynopsis", "ynopses"] "ynopsis",
    .ending [.letters "p"] ["rognosis", "rognoses"] "rognosis",
    .ending [.letters "p"] ["arenthesis", "arentheses"] "arenthesis",
    .ending [.letters "d"] ["iagnosis", "iagnoses"] "iagnosis",
    .ending [.letters "b"] ["asis", "ases"] "asis",
    .ending [.letters "a"] ["nalysis", "nalyses"] "nalysis",
    .ending [.letters "t", .letters "i"] ["a"] "um",
    .ending [.letters "n"] ["ews"] "ews",
    .ending [.letters "ss"] [""] "",
    .ending [.anything] ["s"] ""]

def uncountableNouns : List String :=
  ["equipment", "fish", "information", "jeans", "money", "rice", "series", "sheep", "species"]

/-- Whether a word ends in an uncountable noun of its own, one that does not go on
a longer run of word characters. -/
def isUncountable (word : List Char) : Bool :=
  uncountableNouns.any fun noun =>
    endsIn foldCase noun word &&
      match (word.take (word.length - noun.length)).getLast? with
      | some c => !isWord c
      | none => true

/-- A word without the line end that closes it, and that line end. -/
def splitLineEnd (cs : List Char) : List Char × List Char :=
  if cs.getLast? = some '\n' then (cs.dropLast, ['\n']) else (cs, [])

def singular (noun : String) : String :=
  let cs := noun.toList
  if isUncountable cs then noun
  else
    let (word, lineEnd) := splitLineEnd cs
    match singularRules.findSome? (·.singular? word lineEnd) with
    | some form => String.ofList form
    | none => noun

end Text
end TypeStub
