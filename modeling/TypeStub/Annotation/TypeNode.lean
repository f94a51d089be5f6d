/-!
# Type nodes

The tree that an annotation stands for.  Besides the four kinds of type there is
a leaf for a text that stands where a type should; it is no type, so it can be
held and compared and never written as one.

Equality of nodes is decidable and structural: nodes of two kinds differ even if
they carry the same name and members.
-/

namespace TypeStub
namespace Annotation

/-- A type, or a text that is none. -/
inductive TypeNode
  /-- A bare name, such as `String` or `#read`. -/
  | simple (name : String)
  /-- A generic type of any number of members, such as `Array<String>`. -/
  | collection (name : String) (types : List TypeNode)
  /-- A generic type of just these members, such as `(String, Integer)`. -/
  | fixed (name : String) (types : List TypeNode)
  /-- A mapping, such as `Hash{Symbol => String}`. -/
  | mapping (name : String) (keys values : List TypeNode)
  | foreign (text : String)
  deriving Repr, Inhabited

namespace TypeNode

mutual

def beq : TypeNode → TypeNode → Bool
  | .simple a, .simple b => a == b
  | .collection a as, .collection b bs => a == b && beqAll as bs
  | .fixed a as, .fixed b bs => a == b && beqAll as bs
  | .mapping a ks vs, .mapping b ls ws => a == b && beqAll ks ls && beqAll vs ws
  | .foreign a, .foreign b => a == b
  | _, _ => false

def beqAll : List TypeNode → List TypeNode → Bool
  | [], [] => true
  | a :: as, b :: bs => beq a b && beqAll as bs
  | _, _ => false

end

mutual

theorem beq_eq_true_iff : ∀ a b : TypeNode, a.beq b = true ↔ a = b
  | .simple _, b => by cases b <;> simp [beq]
  | .collection _ as, b => by cases b <;> simp [beq, beqAll_eq_true_iff as]
  | .fixed _ as, b => by cases b <;> simp [beq, beqAll_eq_true_iff as]
  | .mapping _ ks vs, b => by
    cases b <;> simp [beq, beqAll_eq_true_iff ks, beqAll_eq_true_iff vs, and_assoc]
  | .foreign _, b => by cases b <;> simp [beq]

theorem beqAll_eq_true_iff : ∀ as bs : List TypeNode, beqAll as bs = true ↔ as = bs
  | [], bs => by cases bs <;> simp [beqAll]
  | a :: as, bs => by cases bs <;> simp [beqAll, beq_eq_true_iff a, beqAll_eq_true_iff as]

end

instance : DecidableEq TypeNode := fun a b => decidable_of_iff _ (beq_eq_true_iff a b)

inductive Shape
  | simple
  | collection
  | fixed
  | mapping
  deriving DecidableEq, Repr

/-- What is said of a type that has an empty name. -/
def Shape.namelessMessage (shape : Shape) : String :=
  label shape ++ " requires a non-empty name"
where
  label : Shape → String
    | .simple => "SimpleType"
    | .collection => "CollectionType"
    | .fixed => "FixedCollectionType"
    | .mapping => "HashCollectionType"

/-- A name that is missing, of a type of the given kind. -/
def nameless (name : String) (shape : Shape) : Option Shape :=
  if name = "" then some shape else none

mutual

/-- The kind of the first type with an empty name, in the order in which a tree is
built: members before the type they belong to, keys before values. -/
def firstNameless? : TypeNode → Option Shape
  | .simple name => nameless name .simple
  | .collection name types => (firstNamelessOf? types).or (nameless name .collection)
  | .fixed name types => (firstNamelessOf? types).or (nameless name .fixed)
  | .mapping name keys values =>
    ((firstNamelessOf? keys).or (firstNamelessOf? values)).or (nameless name .mapping)
  | .foreign _ => none

def firstNamelessOf? : List TypeNode → Option Shape
  | [] => none
  | node :: nodes => (firstNameless? node).or (firstNamelessOf? nodes)

end

/-- The node itself, if every type in it has a name. -/
def validate (node : TypeNode) : Except Shape TypeNode :=
  match node.firstNameless? with
  | some shape => .error shape
  | none => .ok node

end TypeNode

end Annotation
end TypeStub
