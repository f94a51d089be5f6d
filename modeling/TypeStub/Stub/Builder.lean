import TypeStub.Dialect.Expression
import TypeStub.Stub.Signature

/-!
# Building stubs

What is documented about a method and what the method declares are put together:
each documented parameter that the method can be given by keyword, or as a block,
is typed by its annotations, in the order of the declarations.

An annotation that cannot be read costs its own parameter its type and nothing
else.  The parameter has the fallback type instead, and the journal says why.
-/

namespace TypeStub
namespace Stub

/-- What the documentation says of a parameter: its name and its annotations. -/
structure DocumentedParameter where
  name : String
  annotations : List String
  deriving DecidableEq, Repr

/-- A parameter that a method declares, with its kind as a word. -/
structure Declaration where
  kindLabel : String
  name : String
  deriving DecidableEq, Repr

inductive Failure
  | unknownKind (label : String)
  | expression (failure : ExpressionFailure)
  deriving DecidableEq, Repr

def Failure.message : Failure → String
  | .unknownKind label => ParameterKind.unknownMessage label
  | .expression failure => failure.message

/-- The type of a parameter about which nothing can be said. -/
def untyped : String := "T.untyped"

structure Builder where
  dialect : Dialect
  /-- The type of a parameter whose annotations give none. -/
  fallback : String

namespace Builder

/-- The record of an annotation that cannot be read. -/
def unreadableRecord (builder : Builder) (name : String) (error : Annotation.Malformed) : Record :=
  ⟨.warning, .stubs,
    "Unparseable type annotation " ++ Text.quote error.text ++ " for parameter '" ++ name ++
      "' (" ++ error.message ++ "), using " ++ builder.fallback⟩

/-- The record of a parameter without a type. -/
def undocumentedRecord (builder : Builder) (name : String) : Record :=
  ⟨.debug, .stubs,
    "No type documented for parameter '" ++ name ++ "', using " ++ builder.fallback⟩

section

variable [Template.Members]

/-- The type of a documented parameter.  A malformed annotation and a type that is
empty both lead to the fallback; any other failure is one of the dialect and is
passed on. -/
def parameterType (builder : Builder) (parameter : DocumentedParameter) :
    Journaled Failure String := do
  match ← (builder.dialect.recordExpression parameter.annotations).run with
  | .ok written =>
    if written = "" then
      Journaled.note (builder.undocumentedRecord parameter.name)
      return builder.fallback
    else return written
  | .error (.unreadable (.malformed error)) =>
    Journaled.note (builder.unreadableRecord parameter.name error)
    return builder.fallback
  | .error failure => throw (.expression failure)

theorem value_parameterType (builder : Builder) (parameter : DocumentedParameter) :
    (builder.parameterType parameter).run.value =
      match builder.dialect.expression parameter.annotations with
      | .ok written => .ok (if written = "" then builder.fallback else written)
      | .error (.unreadable (.malformed _)) => .ok builder.fallback
      | .error failure => .error (.expression failure) := by
  have hlift : ∀ {α : Type} (recorded : Recorded α),
      (liftM recorded : Journaled Failure α).run.value = .ok recorded.value := fun _ => rfl
  rw [parameterType, Journaled.value_run_bind, hlift, ← Dialect.value_recordExpression]
  cases (builder.dialect.recordExpression parameter.annotations).run.value with
  | ok written =>
    by_cases hempty : written = ""
    · subst hempty
      rfl
    · simp only [bind, Except.bind, if_neg hempty]
      rfl
  | error failure =>
    rcases failure with failure | _ | _
    · cases failure <;> rfl
    · rfl
    · rfl

end

/-- A declaration whose kind is known, with its place among the others. -/
structure Declared where
  name : String
  kind : ParameterKind
  index : Nat

/-- The declarations with their kinds and places, unless one has a kind that is not
known.  The first such kind is the failure. -/
def declared (index : Nat) : List Declaration → Except Failure (List Declared)
  | [] => .ok []
  | declaration :: rest =>
    match ParameterKind.ofLabel? declaration.kindLabel with
    | none => .error (.unknownKind declaration.kindLabel)
    | some kind => return ⟨declaration.name, kind, index⟩ :: (← declared (index + 1) rest)

/-- The last declaration of a name, which is the one that counts. -/
def lastDeclared? (declarations : List Declared) (name : String) : Option Declared :=
  declarations.findRev? (·.name == name)

def isShown : ParameterKind → Bool
  | .keyreq => true
  | .key => true
  | .keyrest => true
  | .block => true
  | _ => false

/-- The record of a parameter that a stub does not show. -/
def skippedRecord (declarations : List Declared) (name : String) : Record :=
  let kind :=
    match lastDeclared? declarations name with
    | some declared => "ParameterKind." ++ declared.kind.constantName
    | none => "None"
  ⟨.debug, .stubs, "Skipping parameter '" ++ name ++ "' (kind: " ++ kind ++ ")"⟩

/-- A documented parameter with the declaration that makes it part of a stub. -/
def shown? (declarations : List Declared) (parameter : DocumentedParameter) :
    Option (DocumentedParameter × Declared) :=
  match lastDeclared? declarations parameter.name with
  | some declared => if isShown declared.kind then some (parameter, declared) else none
  | none => none

section

variable [Template.Members]

/-- The typed form of a parameter, with its place. -/
def typed (builder : Builder) (shown : DocumentedParameter × Declared) :
    Journaled Failure (TypedParameter × Nat) := do
  let type ← builder.parameterType shown.1
  return (⟨shown.1.name, shown.2.kind, type⟩, shown.2.index)

/-- The typed parameters of a stub, in the order of their declarations.  Parameters
of one name stay in the order of the documentation.  The journal first tells of the
parameters that are left out and then of the types, both in the order of the
documentation. -/
def parameters (builder : Builder) (documented : List DocumentedParameter)
    (declarations : List Declaration) : Journaled Failure (List TypedParameter) := do
  let declarations ← Journaled.ofExcept (declared 0 declarations)
  let skipped := documented.filter fun parameter => (shown? declarations parameter).isNone
  Journaled.noteAll (skipped.map fun parameter => skippedRecord declarations parameter.name)
  let placed ← (documented.filterMap (shown? declarations)).mapM builder.typed
  return (placed.mergeSort fun a b => a.2 ≤ b.2).map (·.1)

def method (builder : Builder) (name : String) (documented : List DocumentedParameter)
    (declarations : List Declaration) (returnType : String) :
    Journaled Failure MethodSignature := do
  return ⟨name, ← builder.parameters documented declarations, returnType⟩

theorem value_method (builder : Builder) (name : String) (documented : List DocumentedParameter)
    (declarations : List Declaration) (returnType : String) :
    (builder.method name documented declarations returnType).run.value =
      (builder.parameters documented declarations).run.value.map (⟨name, ·, returnType⟩) := by
  rw [method, Journaled.run_bind_pure]

/-- The signature of the initializer of a constant, if the constant is documented. -/
def initializer (builder : Builder) (docs : List (String × List DocumentedParameter))
    (constant : String) (declarations : List Declaration) :
    Journaled Failure (Option MethodSignature) := do
  match docs.lookup constant with
  | some documented =>
    return some (← builder.method "initialize" documented declarations MethodSignature.void)
  | none =>
    Journaled.note ⟨.debug, .stubs, "No documentation found for " ++ constant⟩
    return none

end

end Builder

end Stub
end TypeStub
