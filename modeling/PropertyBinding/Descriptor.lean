import PropertyBinding.Member

/-! # Descriptors: the mappable shape of a type

A descriptor lists the members and the constructors of a type in the order of their
declaration.  `Descriptor.cheapest?` is the constructor by which new instances are
made: the first of those with the fewest parameters.
-/
namespace PropertyBinding

/-- A way to make an instance. -/
structure Constructor (α : Type) where
  types : List ValueType
  invoke : Arguments → α

namespace Constructor

variable {α : Type}

def arity (constructor : Constructor α) : Nat :=
  constructor.types.length

/-- A constructor without parameters that makes this instance. -/
def ofDefault (subject : α) : Constructor α :=
  ⟨[], fun _ => subject⟩

/-- The instance made from zero values. -/
def make (constructor : Constructor α) : α :=
  constructor.invoke (Arguments.zeroed constructor.types)

end Constructor

/-- The members and constructors of a type, in the order of their declaration. -/
structure Descriptor (α : Type) where
  /-- The full name of the type, which no other type has. -/
  typePath : String
  /-- The name by which messages call the type. -/
  typeName : String
  members : List (Member α) := []
  constructors : List (Constructor α) := []

namespace Descriptor

variable {α : Type}

/-- The place and parameters of the first constructor with the fewest parameters among
those from place `index` on. -/
def cheapestFrom? (index : Nat) : List (Constructor α) → Option (Nat × List ValueType)
  | [] => none
  | constructor :: rest =>
    match cheapestFrom? (index + 1) rest with
    | some (place, types) =>
      if types.length < constructor.arity then some (place, types)
      else some (index, constructor.types)
    | none => some (index, constructor.types)

/-- The place and parameters of the constructor by which instances are made. -/
def cheapest? (descriptor : Descriptor α) : Option (Nat × List ValueType) :=
  cheapestFrom? 0 descriptor.constructors

end Descriptor
end PropertyBinding
