/-! # Decimal: the shortest decimal text of a double

A finite double stands for a rational number `m · 2^q`, and every real number of an
interval around it rounds to it.  `Decimal.shortest?` looks for the decimal with
the fewest digits in that interval: on the grid of one digit, then of two, it
tests the two neighbours of the number, in exact arithmetic on natural numbers.
Of two neighbours that both fit, the nearer counts.

`Decimal.positional` and `Decimal.scientific` write such a decimal out.
-/
namespace PropertyBinding

/-- Which of two equally near decimals is taken. -/
inductive Tie where
  /-- The one whose last digit is even. -/
  | toEven
  /-- The greater one. -/
  | upward
  deriving DecidableEq

/-- The positive decimal `digits · 10^exponent`. -/
structure Decimal where
  digits : Nat
  exponent : Int
  deriving DecidableEq

namespace Decimal

/-- The decimal digits of a number as text. -/
def digitChars (n : Nat) : List Char :=
  Nat.toDigits 10 n

/-- How many decimal digits a number has; zero has one. -/
def digitCount (n : Nat) : Nat :=
  (digitChars n).length

/-- The exponent of the power of ten at or below the positive rational `num / den`. -/
def decade (num den : Nat) : Int :=
  if den ≤ num then
    (digitCount (num / den) : Int) - 1
  else
    let count := digitCount (den / num)
    if num * Nat.pow 10 (count - 1) = den then 1 - Int.ofNat count else -Int.ofNat count

/-- Drop zeros at the end of the digits, at most `fuel` many. -/
def trim (fuel : Nat) (d : Decimal) : Decimal :=
  match fuel with
  | 0 => d
  | fuel + 1 =>
    if d.digits % 10 = 0 ∧ d.digits ≠ 0 then trim fuel ⟨d.digits / 10, d.exponent + 1⟩ else d

/-- The reals that round to a double, as multiples of `1 / den`: all between
`low` and `high`, the ends themselves only if `closed`. -/
structure Interval where
  low : Nat
  mid : Nat
  high : Nat
  den : Nat
  closed : Bool

/-- The interval of the double with significand `m` and exponent `q`.  Below a
power of two the next double is only half as far away as above it. -/
def Interval.ofParts (m : Nat) (q : Int) (power : Bool) : Interval :=
  let scale := Nat.pow 2 q.toNat
  let below := if power then 1 else 2
  { low := (4 * m - below) * scale
    mid := 4 * m * scale
    high := (4 * m + 2) * scale
    den := 4 * Nat.pow 2 (-q).toNat
    closed := m % 2 == 0 }

/-- Whether `n · 10^e` rounds to the double. -/
def Interval.holds (i : Interval) (n : Nat) (e : Int) : Bool :=
  let point := n * Nat.pow 10 e.toNat * i.den
  let unit := Nat.pow 10 (-e).toNat
  if i.closed then i.low * unit ≤ point && point ≤ i.high * unit
  else i.low * unit < point && point < i.high * unit

/-- The decimal on the grid `10^e` that rounds to the double and is nearest to it. -/
def Interval.onGrid? (i : Interval) (tie : Tie) (e : Int) : Option Nat :=
  let num := i.mid * Nat.pow 10 (-e).toNat
  let den := i.den * Nat.pow 10 e.toNat
  let floor := num / den
  let low := i.holds floor e
  let high := i.holds (floor + 1) e
  let twice := 2 * (num % den)
  let up := den < twice || (twice == den && (tie == .upward || floor % 2 == 1))
  match low, high with
  | true, true => some (if up then floor + 1 else floor)
  | true, false => some floor
  | false, true => some (floor + 1)
  | false, false => none

/-- The first hit on grids of `count`, `count + 1`, … digits, `fuel` grids in all. -/
def Interval.search (i : Interval) (tie : Tie) (top : Int) (count fuel : Nat) : Decimal :=
  match fuel with
  | 0 => ⟨i.mid / i.den, 0⟩
  | fuel + 1 =>
    let e := top + 1 - Int.ofNat count
    match i.onGrid? tie e with
    | some n => trim 20 ⟨n, e⟩
    | none => search i tie top (count + 1) fuel

/-- The shortest decimal of a finite double other than zero, without its sign. -/
def shortest (tie : Tie) (f : Float) : Decimal :=
  let bits := f.toBits.toNat
  let fraction := bits % Nat.pow 2 52
  let biased := bits / Nat.pow 2 52 % Nat.pow 2 11
  let m := if biased = 0 then fraction else Nat.pow 2 52 + fraction
  let q : Int := if biased = 0 then -1074 else Int.ofNat biased - 1075
  let i := Interval.ofParts m q (fraction == 0 && decide (1 < biased))
  i.search tie (decade i.mid i.den) 1 17

/-- The exponent of the first digit. -/
def leading (d : Decimal) : Int :=
  d.exponent + (digitCount d.digits : Int) - 1

/-- All digits with the point at its place; a whole number has no point, or `.0`
if `fraction` is asked for. -/
def positional (fraction : Bool) (d : Decimal) : List Char :=
  let chars := digitChars d.digits
  if 0 ≤ d.exponent then
    chars ++ List.replicate d.exponent.toNat '0' ++ (if fraction then ['.', '0'] else [])
  else
    let places := (-d.exponent).toNat
    if places < chars.length then
      chars.take (chars.length - places) ++ '.' :: chars.drop (chars.length - places)
    else
      '0' :: '.' :: (List.replicate (places - chars.length) '0' ++ chars)

/-- One digit, a point before the others, and the exponent with its sign. -/
def scientific (d : Decimal) : List Char :=
  let mantissa := match digitChars d.digits with
    | [] => []
    | [c] => [c]
    | c :: rest => c :: '.' :: rest
  let sign := if d.leading < 0 then '-' else '+'
  mantissa ++ 'e' :: sign :: digitChars d.leading.natAbs

example : positional true ⟨15, -1⟩ = ['1', '.', '5'] := by decide
example : positional true ⟨1, -5⟩ = ['0', '.', '0', '0', '0', '0', '1'] := by decide
example : positional false ⟨12, 2⟩ = ['1', '2', '0', '0'] := by decide
example : scientific ⟨125, -9⟩ = ['1', '.', '2', '5', 'e', '-', '7'] := by decide

/-- The sign that stands before the digits of a double. -/
def sign (f : Float) : List Char :=
  if Nat.pow 2 63 ≤ f.toBits.toNat then ['-'] else []

/-- A double in full positional notation: no exponent, no point in a whole number. -/
def plain (f : Float) : String :=
  if f.isNaN then "NaN"
  else if f.isInf then String.ofList (sign f ++ ['i', 'n', 'f'])
  else if f == 0 then String.ofList (sign f ++ ['0'])
  else String.ofList (sign f ++ (shortest .upward f).positional false)

/-- A finite double as the data format writes it: positional while its first digit
stands between the fifth place after the point and the sixteenth before it, and
always with a point there; otherwise with an exponent. -/
def numeral (f : Float) : List Char :=
  if f == 0 then sign f ++ ['0', '.', '0']
  else
    let d := shortest .toEven f
    sign f ++ if -5 ≤ d.leading ∧ d.leading ≤ 15 then d.positional true else d.scientific

end Decimal
end PropertyBinding
