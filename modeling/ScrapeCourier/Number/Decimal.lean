import ScrapeCourier.Number.Rounding
import ScrapeCourier.Number.Unsigned

namespace ScrapeCourier

/-- `digits * 10 ^ exponent`, or its negative. -/
structure Decimal where
  negative : Bool
  digits : Nat
  exponent : Int
  deriving DecidableEq, Repr

namespace Decimal

def readSign : List Char → Bool × List Char
  | '-' :: s => (true, s)
  | '+' :: s => (false, s)
  | s => (false, s)

def readExponent? : List Char → Option Int
  | [] => some 0
  | c :: s =>
    if c == 'e' || c == 'E' then
      let (negative, digits) := readSign s
      (Unsigned.digits? digits).map fun n => if negative then -(n : Int) else n
    else none

def read? (s : List Char) : Option Decimal := do
  let (negative, s) := readSign s
  let whole := s.takeWhile Ascii.isDigit
  let s := s.dropWhile Ascii.isDigit
  let (fraction, s) := match s with
    | '.' :: t => (t.takeWhile Ascii.isDigit, t.dropWhile Ascii.isDigit)
    | t => ([], t)
  let e ← readExponent? s
  if whole.isEmpty && fraction.isEmpty then none
  else some ⟨negative, Unsigned.value (whole ++ fraction), e - fraction.length⟩

def height (d : Decimal) : Int := (Unsigned.text d.digits).length + d.exponent

def magnitude (d : Decimal) : Rat := d.digits * (10 : Rat) ^ d.exponent

/-- The number to 53 bits, if it is at least zero and below `10 ^ 30`. One whose size is at most
`2 ^ -1075` is zero. -/
def seconds? (d : Decimal) : Option Rat :=
  if d.digits = 0 || d.height < -400 then some 0
  else if 30 < d.height then none
  else if d.magnitude ≤ (2 : Rat) ^ (-1075 : Int) then some 0
  else if d.negative then none
  else some (Rounding.significant d.magnitude)

end Decimal

end ScrapeCourier
