/-! # Symbols: what a reader sees of a text given as bytes

A symbol is a character, or `none` for a byte that belongs to no character.  Such
a byte spoils the text everywhere but inside a string that nobody asks for.  The
symbols of a well-formed text are its characters (`symbols_toUTF8`).
-/
namespace PropertyBinding
namespace Json

/-- A character, or a byte that belongs to none. -/
abbrev Symbol := Option Char

/-- The symbols of a text. -/
def symbolsOfText (text : String) : List Symbol :=
  text.toList.map some

/-- The symbols of the bytes from a position on; `fuel` bounds their number. -/
def spell (bytes : ByteArray) (fuel position : Nat) : List Symbol :=
  match fuel with
  | 0 => []
  | fuel + 1 =>
    if position < bytes.size then
      match bytes.utf8DecodeChar? position with
      | some c => some c :: spell bytes fuel (position + c.utf8Size)
      | none => none :: spell bytes fuel (position + 1)
    else []

/-- The symbols of a list of bytes. -/
def symbols (bytes : ByteArray) : List Symbol :=
  match String.fromUTF8? bytes with
  | some text => symbolsOfText text
  | none => spell bytes bytes.size 0

/-- A text is spelt as its own characters. -/
theorem symbols_toUTF8 (text : String) : symbols text.toUTF8 = symbolsOfText text := by
  have valid : String.fromUTF8? text.toUTF8 = some text := by
    unfold String.fromUTF8?
    exact dif_pos text.isValidUTF8
  rw [symbols, valid]

end Json
end PropertyBinding
