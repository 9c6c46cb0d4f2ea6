import PropertyBinding.Json.Numeral

/-! # Outlines: all that a text says up to where it stops being JSON

Reading goes in two stages.  `Outline.scan` turns a text into an outline, a tree
of everything in the text up to the first place where it is no longer JSON; there
the outline ends in `broken`, and the arrays and objects around that place are not
closed.  A decoder then walks the outline in the order of the text, so that of
several problems the first one in the text is the one it reports.

An outline keeps apart what only some decoders mind: strings that are no text, and
numbers too large for a double.  A field begins where its name ends: if something else
than a string stands in the place of a name, the object ends there unclosed.
-/
namespace PropertyBinding
namespace Json

/-- What a text says up to where it stops being JSON. -/
inductive Outline where
  | null
  | bool (b : Bool)
  /-- A number, `none` if it is too large. -/
  | number (n : Option JsonNumber)
  /-- A string, `none` if it is no text. -/
  | string (s : Option String)
  | array (items : List Outline) (closed : Bool)
  /-- Fields by their names, a name being `none` if it is no text. -/
  | object (fields : List (Option String × Outline)) (closed : Bool)
  /-- Here the text is no longer JSON. -/
  | broken

namespace Outline

/-- A piece of a string as it is spelt. -/
inductive Piece where
  | char (c : Char)
  /-- One half of a pair that is escaped as two numbers. -/
  | half (code : Nat)
  /-- A byte that belongs to no character. -/
  | stray
  deriving DecidableEq

/-- The number that a hexadecimal digit spells. -/
def hexValue? (s : Symbol) : Option Nat :=
  match s with
  | none => none
  | some c =>
    if c.isDigit then some (c.toNat - '0'.toNat)
    else if 'a' ≤ c ∧ c ≤ 'f' then some (c.toNat - 'a'.toNat + 10)
    else if 'A' ≤ c ∧ c ≤ 'F' then some (c.toNat - 'A'.toNat + 10)
    else none

/-- The number that four hexadecimal digits spell. -/
def hexCode? (a b c d : Symbol) : Option Nat := do
  let a ← hexValue? a
  let b ← hexValue? b
  let c ← hexValue? c
  let d ← hexValue? d
  return ((a * 16 + b) * 16 + c) * 16 + d

/-- The piece of an escaped number: a character, or half of a pair. -/
def Piece.ofCode (code : Nat) : Piece :=
  if 0xD800 ≤ code ∧ code < 0xE000 then .half code else .char (Char.ofNat code)

/-- The character of a letter behind a backslash. -/
def unescape? (c : Char) : Option Char :=
  match c with
  | '"' => some '"'
  | '\\' => some '\\'
  | '/' => some '/'
  | 'b' => some '\x08'
  | 'f' => some '\x0C'
  | 'n' => some '\n'
  | 'r' => some '\r'
  | 't' => some '\t'
  | _ => none

/-- The pieces of a string up to its closing quote, and what follows. -/
def pieces? : List Symbol → Option (List Piece × List Symbol)
  | [] => none
  | some '"' :: rest => some ([], rest)
  | some '\\' :: some 'u' :: a :: b :: c :: d :: rest =>
    match hexCode? a b c d with
    | some code => (pieces? rest).map fun (found, after) => (.ofCode code :: found, after)
    | none => none
  | some '\\' :: some c :: rest =>
    match unescape? c with
    | some c => (pieces? rest).map fun (found, after) => (.char c :: found, after)
    | none => none
  | some '\\' :: _ => none
  | none :: rest => (pieces? rest).map fun (found, after) => (.stray :: found, after)
  | some c :: rest =>
    if c.toNat < 0x20 then none
    else (pieces? rest).map fun (found, after) => (.char c :: found, after)

/-- The characters of a string.  Two halves make a character if the first is a leading
and the second a trailing one; any other half is no text. -/
def assemble? : List Piece → Option (List Char)
  | [] => some []
  | .char c :: rest => (assemble? rest).map (c :: ·)
  | .half first :: .half second :: rest =>
    if first < 0xDC00 ∧ 0xDC00 ≤ second then
      (assemble? rest).map
        (Char.ofNat (0x10000 + (first - 0xD800) * 0x400 + (second - 0xDC00)) :: ·)
    else none
  | _ => none

/-- Whether a character may stand between the parts of a text. -/
def isBlank (c : Char) : Bool :=
  c == ' ' || c == '\n' || c == '\t' || c == '\r'

/-- What follows the blanks at the front. -/
def skipBlanks : List Symbol → List Symbol
  | some c :: rest => if isBlank c then skipBlanks rest else some c :: rest
  | rest => rest

/-- The outline at the front of a text and what follows it, unless it is broken. -/
abbrev Scan (α : Type) := α × Option (List Symbol)

/-- The outline of a number. -/
def scanNumber (s : List Symbol) : Scan Outline :=
  match Numeral.scan? s with
  | some (numeral, rest) => (.number numeral.value?, some rest)
  | none => (.broken, none)

/-- The text of a string behind its opening quote, `none` if it is no text, and what
follows the closing quote. -/
def scanText? (s : List Symbol) : Option (Option String × List Symbol) :=
  (pieces? s).map fun (found, rest) => ((assemble? found).map String.ofList, rest)

/-- The outline of a string behind its opening quote. -/
def scanString (s : List Symbol) : Scan Outline :=
  match scanText? s with
  | some (text, rest) => (.string text, some rest)
  | none => (.broken, none)

mutual

/-- The outline of a value.  Each call spends one unit of fuel. -/
def scanValue (fuel : Nat) (s : List Symbol) : Scan Outline :=
  match fuel with
  | 0 => (.broken, none)
  | fuel + 1 =>
    match skipBlanks s with
    | some 'n' :: some 'u' :: some 'l' :: some 'l' :: rest => (.null, some rest)
    | some 't' :: some 'r' :: some 'u' :: some 'e' :: rest => (.bool true, some rest)
    | some 'f' :: some 'a' :: some 'l' :: some 's' :: some 'e' :: rest => (.bool false, some rest)
    | some '"' :: rest => scanString rest
    | some '[' :: rest =>
      match skipBlanks rest with
      | some ']' :: rest => (.array [] true, some rest)
      | rest =>
        let (items, after) := scanItems fuel rest
        (.array items after.isSome, after)
    | some '{' :: rest =>
      match skipBlanks rest with
      | some '}' :: rest => (.object [] true, some rest)
      | rest =>
        let (fields, after) := scanFields fuel rest
        (.object fields after.isSome, after)
    | rest => scanNumber rest

/-- The outlines of the items of an array up to its closing bracket. -/
def scanItems (fuel : Nat) (s : List Symbol) : Scan (List Outline) :=
  match fuel with
  | 0 => ([], none)
  | fuel + 1 =>
    match scanValue fuel s with
    | (item, none) => ([item], none)
    | (item, some rest) =>
      match skipBlanks rest with
      | some ',' :: rest =>
        let (items, after) := scanItems fuel rest
        (item :: items, after)
      | some ']' :: rest => ([item], some rest)
      | _ => ([item], none)

/-- The outlines of the fields of an object up to its closing brace. -/
def scanFields (fuel : Nat) (s : List Symbol) : Scan (List (Option String × Outline)) :=
  match fuel with
  | 0 => ([], none)
  | fuel + 1 =>
    match skipBlanks s with
    | some '"' :: rest =>
      match scanText? rest with
      | none => ([], none)
      | some (name, rest) =>
        match skipBlanks rest with
        | some ':' :: rest =>
          match scanValue fuel rest with
          | (value, none) => ([(name, value)], none)
          | (value, some rest) =>
            match skipBlanks rest with
            | some ',' :: rest =>
              let (fields, after) := scanFields fuel rest
              ((name, value) :: fields, after)
            | some '}' :: rest => ([(name, value)], some rest)
            | _ => ([(name, value)], none)
        | _ => ([(name, .broken)], none)
    | _ => ([], none)

end

/-- The outline of a whole text, and whether nothing but blanks follows it. -/
def scan (s : List Symbol) : Outline × Bool :=
  match scanValue (2 * s.length + 2) s with
  | (outline, none) => (outline, false)
  | (outline, some rest) => (outline, (skipBlanks rest).isEmpty)

mutual

/-- Whether the part of a text that an outline covers is JSON to its end, whatever its
strings and numbers are. -/
def complete : Outline → Bool
  | .broken => false
  | .array items closed => completeItems items && closed
  | .object fields closed => completeFields fields && closed
  | _ => true

/-- The same for a list of items. -/
def completeItems : List Outline → Bool
  | [] => true
  | item :: rest => item.complete && completeItems rest

/-- The same for a list of fields. -/
def completeFields : List (Option String × Outline) → Bool
  | [] => true
  | (_, value) :: rest => value.complete && completeFields rest

end

mutual

/-- The tree of an outline in which arrays and objects stand at most `levels` deep. -/
def tree? (levels : Nat) : Outline → Option Json
  | .null => some .null
  | .bool b => some (.bool b)
  | .number n => n.map .number
  | .string s => s.map .string
  | .array items true =>
    match levels with
    | 0 => none
    | levels + 1 => (trees? levels items).map .array
  | .object fields true =>
    match levels with
    | 0 => none
    | levels + 1 => (fields? levels fields).map fun fields => .object (Entries.ofList fields)
  | _ => none

/-- The trees of a list of outlines. -/
def trees? (levels : Nat) : List Outline → Option (List Json)
  | [] => some []
  | item :: rest => do
    let json ← tree? levels item
    let others ← trees? levels rest
    return json :: others

/-- The fields of an object in the order of the text. -/
def fields? (levels : Nat) : List (Option String × Outline) → Option (List (String × Json))
  | [] => some []
  | (some name, value) :: rest => do
    let json ← tree? levels value
    let others ← fields? levels rest
    return (name, json) :: others
  | _ => none

end

end Outline

/-- How deep arrays and objects may be nested in a text. -/
def maxDepth : Nat := 127

/-- The tree that a text spells. -/
def parse? (text : String) : Option Json :=
  match Outline.scan (symbolsOfText text) with
  | (outline, true) => outline.tree? maxDepth
  | (_, false) => none

end Json
end PropertyBinding
