/-! # Base64: bytes as text

The standard alphabet with padding: three bytes make four characters, and the last
group is filled up with equality signs.
-/
namespace PropertyBinding
namespace Base64

/-- The character for a number below 64. -/
def symbol (n : Nat) : Char :=
  if n < 26 then Char.ofNat ('A'.toNat + n)
  else if n < 52 then Char.ofNat ('a'.toNat + (n - 26))
  else if n < 62 then Char.ofNat ('0'.toNat + (n - 52))
  else if n = 62 then '+'
  else '/'

/-- The characters of a list of bytes, group by group. -/
def chars : List UInt8 → List Char
  | [] => []
  | [a] =>
    let n := a.toNat * 16
    [symbol (n / 64), symbol (n % 64), '=', '=']
  | [a, b] =>
    let n := (a.toNat * 256 + b.toNat) * 4
    [symbol (n / 4096), symbol (n / 64 % 64), symbol (n % 64), '=']
  | a :: b :: c :: rest =>
    let n := (a.toNat * 256 + b.toNat) * 256 + c.toNat
    symbol (n / 262144) :: symbol (n / 4096 % 64) :: symbol (n / 64 % 64) :: symbol (n % 64) ::
      chars rest

/-- The text that stands for a list of bytes. -/
def encode (data : List UInt8) : String :=
  String.ofList (chars data)

example : chars [0x66] = ['Z', 'g', '=', '='] := by decide
example : chars [0x66, 0x6F] = ['Z', 'm', '8', '='] := by decide
example : chars [0x66, 0x6F, 0x6F] = ['Z', 'm', '9', 'v'] := by decide

end Base64
end PropertyBinding
