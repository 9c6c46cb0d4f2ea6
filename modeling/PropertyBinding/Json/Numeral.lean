import PropertyBinding.Json.Symbol
import PropertyBinding.Json

/-! # Numerals: the numbers of JSON text

A numeral has whole digits, digits after a point and an exponent, the last two
being optional.  A numeral of whole digits alone stands for an integer if a word
holds it.  Every other numeral is rounded in two steps: its leading digits are
gathered in a word as long as they fit, later ones only count as places, and the
word is then multiplied or divided by a power of ten in double precision.
-/
namespace PropertyBinding
namespace Json

/-- A number as it is spelt. -/
structure Numeral where
  negative : Bool
  whole : List Nat
  fraction : Option (List Nat)
  exponent : Option Int
  deriving DecidableEq

/-- The digits at the front, and what follows them. -/
def digits : List Symbol → List Nat × List Symbol
  | some c :: rest =>
    if c.isDigit then
      let (found, after) := digits rest
      ((c.toNat - '0'.toNat) :: found, after)
    else ([], some c :: rest)
  | rest => ([], rest)

namespace Numeral

/-- The number that decimal digits spell. -/
def ofDigits (ds : List Nat) : Nat :=
  ds.foldl (fun n d => n * 10 + d) 0

/-- The digits after a point, if there is one; a point must have some. -/
def scanFraction? (s : List Symbol) : Option (Option (List Nat) × List Symbol) :=
  match s with
  | some '.' :: rest =>
    match digits rest with
    | ([], _) => none
    | (ds, after) => some (some ds, after)
  | _ => some (none, s)

/-- The digits of an exponent behind its sign. -/
def scanPower? (negative : Bool) (s : List Symbol) : Option (Option Int × List Symbol) :=
  match digits s with
  | ([], _) => none
  | (ds, after) => some (some (if negative then -(ofDigits ds : Int) else ofDigits ds), after)

/-- The exponent, if there is one; the letter must be followed by digits. -/
def scanExponent? (s : List Symbol) : Option (Option Int × List Symbol) :=
  match s with
  | some 'e' :: some '-' :: rest | some 'E' :: some '-' :: rest => scanPower? true rest
  | some 'e' :: some '+' :: rest | some 'E' :: some '+' :: rest => scanPower? false rest
  | some 'e' :: rest | some 'E' :: rest => scanPower? false rest
  | _ => some (none, s)

/-- The sign of a number. -/
def scanSign (s : List Symbol) : Bool × List Symbol :=
  match s with
  | some '-' :: rest => (true, rest)
  | _ => (false, s)

/-- The whole digits: at least one, and no zero before others. -/
def scanWhole? (s : List Symbol) : Option (List Nat × List Symbol) :=
  match digits s with
  | ([], _) => none
  | (0 :: _ :: _, _) => none
  | (ds, after) => some (ds, after)

/-- The numeral at the front, and what follows it. -/
def scan? (s : List Symbol) : Option (Numeral × List Symbol) := do
  let (negative, s) := scanSign s
  let (whole, s) ← scanWhole? s
  let (fraction, s) ← scanFraction? s
  let (exponent, s) ← scanExponent? s
  return (⟨negative, whole, fraction, exponent⟩, s)

/-- Gather digits behind those already gathered, as long as a word holds them.  The
second part are the digits left over. -/
def gather (word : Nat) : List Nat → Nat × List Nat
  | [] => (word, [])
  | d :: rest =>
    if word * 10 + d < 0x10000000000000000 then gather (word * 10 + d) rest
    else (word, d :: rest)

/-- A power of ten in double precision. -/
def powerOfTen (n : Nat) : Float :=
  Float.ofScientific 1 false n

/-- Move the point of a double by `places`; `none` if the result is too large.  Each
of the at most `fuel` steps below the table of powers moves it by 308 places. -/
def scale? (fuel : Nat) (f : Float) (places : Int) : Option Float :=
  match fuel with
  | 0 => some f
  | fuel + 1 =>
    if places.natAbs ≤ 308 then
      if 0 ≤ places then
        let scaled := f * powerOfTen places.natAbs
        if scaled.isInf then none else some scaled
      else some (f / powerOfTen places.natAbs)
    else if f == 0 then some f
    else if 0 ≤ places then none
    else scale? fuel (f / powerOfTen 308) (places + 308)

/-- The number of a double, unless it is not finite. -/
def float? (f : Float) : Option JsonNumber :=
  if finite : f.isFinite = true then some (.float ⟨f, finite⟩) else none

/-- A double with the sign of the numeral. -/
def signed (n : Numeral) (f : Float) : Float :=
  if n.negative then -f else f

/-- The number of a numeral of whole digits that a word holds.  A sign before zero or
before a number beyond the signed words makes it a float. -/
def integer? (n : Numeral) (word : Nat) : Option JsonNumber :=
  let i : Int := if n.negative then -(word : Int) else word
  if fits : -0x8000000000000000 ≤ i ∧ i < 0x10000000000000000 then
    if n.negative ∧ word = 0 then float? (-0.0) else some (.integer ⟨i, fits⟩)
  else float? (n.signed (UInt64.ofNat word).toFloat)

/-- The number that a numeral stands for; `none` if no double is large enough. -/
def value? (n : Numeral) : Option JsonNumber :=
  let (word, dropped) := gather 0 n.whole
  if n.fraction = none ∧ n.exponent = none ∧ dropped = [] then n.integer? word
  else
    let fraction := n.fraction.getD []
    let (word, unused) := gather word fraction
    let places : Int := dropped.length - (fraction.length - unused.length : Nat)
    (scale? 4 (UInt64.ofNat word).toFloat (n.exponent.getD 0 + places)).bind
      fun f => float? (n.signed f)

end Numeral
end Json
end PropertyBinding
