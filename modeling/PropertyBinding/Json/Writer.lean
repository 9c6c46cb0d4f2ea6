import PropertyBinding.Json

/-! # JSON text, written

The compact form: no blanks, the fields of an object in the order in which the tree
holds them, and in strings no escape but the necessary ones.
-/
namespace PropertyBinding
namespace Json

/-- The lower-case hexadecimal digit of a number below 16. -/
def hexDigit (n : Nat) : Char :=
  Nat.digitChar n

/-- A character inside a string.  Quotes, backslashes and controls are escaped, the
controls that have a short form by it. -/
def escaped (c : Char) : List Char :=
  if c = '"' then ['\\', '"']
  else if c = '\\' then ['\\', '\\']
  else if c = '\x08' then ['\\', 'b']
  else if c = '\x0C' then ['\\', 'f']
  else if c = '\n' then ['\\', 'n']
  else if c = '\r' then ['\\', 'r']
  else if c = '\t' then ['\\', 't']
  else if c.toNat < 0x20 then
    ['\\', 'u', '0', '0', hexDigit (c.toNat / 16), hexDigit (c.toNat % 16)]
  else [c]

/-- A text between quotes. -/
def stringChars (text : String) : List Char :=
  '"' :: (text.toList.flatMap escaped ++ ['"'])

/-- The decimal digits of an integer, after its sign. -/
def integerChars (i : Int) : List Char :=
  if i < 0 then '-' :: Decimal.digitChars i.natAbs else Decimal.digitChars i.natAbs

def numberChars : JsonNumber → List Char
  | .integer i => integerChars i.val
  | .float f => Decimal.numeral f.val

mutual

/-- The characters of a tree. -/
def chars : Json → List Char
  | null => ['n', 'u', 'l', 'l']
  | bool true => ['t', 'r', 'u', 'e']
  | bool false => ['f', 'a', 'l', 's', 'e']
  | number n => numberChars n
  | string s => stringChars s
  | array [] => ['[', ']']
  | array (item :: rest) => '[' :: (chars item ++ moreItems rest)
  | object [] => ['{', '}']
  | object ((name, json) :: rest) =>
    '{' :: (stringChars name ++ ':' :: (chars json ++ moreFields rest))

/-- The items after the first one, each behind a comma, and the closing bracket. -/
def moreItems : List Json → List Char
  | [] => [']']
  | item :: rest => ',' :: (chars item ++ moreItems rest)

/-- The fields after the first one, each behind a comma, and the closing brace. -/
def moreFields : List (String × Json) → List Char
  | [] => ['}']
  | (name, json) :: rest =>
    ',' :: (stringChars name ++ ':' :: (chars json ++ moreFields rest))

end

/-- The text of a tree. -/
def text (json : Json) : String :=
  String.ofList json.chars

end Json
end PropertyBinding
