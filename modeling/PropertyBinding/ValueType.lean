import PropertyBinding.Scalar

/-! # Value types: what a member or a constructor parameter is declared as

A scalar, the universal type whose data are values themselves, or an opaque type
known by its name only, whose data travel as values through an encoding.
-/
namespace PropertyBinding

/-- The declared type of a member or of a constructor parameter. -/
inductive ValueType where
  | scalar (s : Scalar)
  | value
  | object (typeName : String)
  deriving DecidableEq, Repr

namespace ValueType

def name : ValueType → String
  | scalar s => s.name
  | value => "value"
  | object typeName => typeName

/-- Whether stores have an access of their own for the type. -/
def isScalar : ValueType → Bool
  | scalar _ => true
  | _ => false

/-- What a constructor gets for a parameter of this type.  A text may be absent, so
that it is given as the absent reference, like a value and an opaque object. -/
def zero : ValueType → Value
  | scalar .string => .null
  | scalar .f32 => .float 0
  | scalar s => s.widen s.zero
  | value => .null
  | object _ => .null

/-- The words for the types that need no name of their own, in the order in which an
error lists them. -/
def plainWords : List (String × ValueType) :=
  Scalar.all.map (fun s => (s.name, scalar s)) ++ [("value", value)]

/-- All words that may stand for a type. -/
def words : List String :=
  plainWords.map Prod.fst ++ ["object"]

end ValueType

/-- The arguments of a constructor call. -/
structure Arguments where
  values : List Value

namespace Arguments

/-- One zero value for each parameter type. -/
def zeroed (types : List ValueType) : Arguments :=
  ⟨types.map ValueType.zero⟩

def size (arguments : Arguments) : Nat :=
  arguments.values.length

def isEmpty (arguments : Arguments) : Bool :=
  arguments.values.isEmpty

def get? (arguments : Arguments) (index : Nat) : Option Value :=
  arguments.values[index]?

/-- The argument as an integer, 0 if it is none. -/
def integer (arguments : Arguments) (index : Nat) : Int64 :=
  ((arguments.get? index).bind Value.asInteger?).getD 0

/-- The argument as a float, 0 if it is none. -/
def float (arguments : Arguments) (index : Nat) : Float :=
  ((arguments.get? index).bind Value.asFloat?).getD 0

/-- The argument as a truth value, false if it is none. -/
def bool (arguments : Arguments) (index : Nat) : Bool :=
  ((arguments.get? index).bind Value.asBool?).getD false

/-- The text of the argument; an argument that is no text counts as absent. -/
def string? (arguments : Arguments) (index : Nat) : Option String :=
  (arguments.get? index).bind Value.asString?

/-- The first character of the argument, NUL if there is none. -/
def char (arguments : Arguments) (index : Nat) : Char :=
  ((arguments.string? index).bind fun text => text.toList.head?).getD '\x00'

/-- Whether two calls are given the same arguments. -/
def same (a b : Arguments) : Bool :=
  Value.sameItems a.values b.values

@[simp] theorem size_zeroed (types : List ValueType) : (zeroed types).size = types.length := by
  simp [zeroed, size]

end Arguments
end PropertyBinding
