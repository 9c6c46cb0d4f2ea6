import PropertyBinding.Text.Extending
import PropertyBinding.Text.Printable

/-! # Quoted text: how a message shows a string

Between double quotes, with a backslash before quotes and backslashes, short forms
for the common controls, and the code point in braces for whatever could not be seen.
-/
namespace PropertyBinding
namespace Text

/-- The code point of a character in lower-case hexadecimal. -/
def hexCode (c : Char) : List Char :=
  Nat.toDigits 16 c.toNat

/-- How one character of a quoted text is shown. -/
def quotedChar (c : Char) : List Char :=
  if c = '"' then ['\\', '"']
  else if c = '\\' then ['\\', '\\']
  else if c = '\n' then ['\\', 'n']
  else if c = '\r' then ['\\', 'r']
  else if c = '\t' then ['\\', 't']
  else if c = '\x00' then ['\\', '0']
  else if isExtending c || !isPrintable c then ['\\', 'u', '\x7b'] ++ hexCode c ++ ['\x7d']
  else [c]

/-- A text between double quotes. -/
def quoted (text : String) : String :=
  String.ofList ('"' :: text.toList.flatMap quotedChar ++ ['"'])

end Text
end PropertyBinding
