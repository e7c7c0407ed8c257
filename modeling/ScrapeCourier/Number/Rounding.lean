namespace ScrapeCourier.Rounding

def nearest (x : Rat) : Int :=
  let n := x.floor
  let r := x - n
  if r < 1 / 2 then n
  else if 1 / 2 < r then n + 1
  else if n % 2 = 0 then n else n + 1

def magnitude (x : Rat) : Int :=
  let e : Int := (Nat.log2 x.num.natAbs : Int) - Nat.log2 x.den
  if (2 : Rat) ^ e ≤ x then e else e - 1

/-- The nearest number of 53 significant bits. -/
def significant (x : Rat) : Rat :=
  if x ≤ 0 then 0
  else
    let unit := (2 : Rat) ^ (magnitude x - 52)
    nearest (x / unit) * unit

end ScrapeCourier.Rounding
