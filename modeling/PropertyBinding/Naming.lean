import PropertyBinding.Text.Lowercase
import PropertyBinding.Text.Uppercase

/-! # Naming: the property behind an accessor method

A getter is called `get` or `is`, and a setter `set`, followed by the property.  The
word only counts as such a prefix when the next character is a capital or an
underscore, so that `settle` is no setter of `tle`.  What remains starts with a small letter.
-/
namespace PropertyBinding

/-- Whether a method reads a property or writes it. -/
inductive MethodRole where
  | getter | setter
  deriving DecidableEq, Repr

namespace Naming

/-- The words that may stand before the property, in the order in which they are tried. -/
def prefixes : MethodRole → List (List Char)
  | .getter => [['g', 'e', 't'], ['i', 's']]
  | .setter => [['s', 'e', 't']]

/-- The property behind a prefix, if the prefix ends there: an underscore is dropped
if something follows it, a capital stays. -/
def behind? : List Char → Option (List Char)
  | [] => none
  | '_' :: rest => if rest.isEmpty then none else some rest
  | c :: rest => if Text.isUppercase c then some (c :: rest) else none

/-- The property behind the first prefix that ends at a word boundary. -/
def stripped? (role : MethodRole) (declared : List Char) : Option (List Char) :=
  (prefixes role).findSome? fun word => (word.isPrefixOf? declared).bind behind?

/-- The property of a method; a method without an accessor prefix is its own. -/
def propertyChars (role : MethodRole) (declared : List Char) : List Char :=
  match stripped? role declared with
  | some rest => Text.lowerFirst rest
  | none => declared

/-- The property of a method of this name. -/
def property (role : MethodRole) (declared : String) : String :=
  String.ofList (propertyChars role declared.toList)

example : propertyChars .getter ['g', 'e', 't', 'A'] = ['a'] := by decide
example : propertyChars .setter ['s', 'e', 't', '_', 'x'] = ['x'] := by decide
example : propertyChars .setter ['s', 'e', 't', 't'] = ['s', 'e', 't', 't'] := by decide

end Naming
end PropertyBinding
