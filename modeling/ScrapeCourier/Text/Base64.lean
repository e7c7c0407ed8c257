import ScrapeCourier.Text.Octets

namespace ScrapeCourier.Base64

def digit (n : Nat) : UInt8 :=
  if n < 26 then (65 + n).toUInt8
  else if n < 52 then (71 + n).toUInt8
  else if n < 62 then (n - 4).toUInt8
  else if n = 62 then 43
  else 47

def value? (b : UInt8) : Option Nat :=
  if Octet.isUpper b then some (b.toNat - 65)
  else if Octet.isLower b then some (b.toNat - 71)
  else if Octet.isDigit b then some (b.toNat + 4)
  else if b = 43 then some 62
  else if b = 47 then some 63
  else none

def pad : UInt8 := 61

def encode : Octets → Octets
  | a :: b :: c :: s =>
    let n := a.toNat * 65536 + b.toNat * 256 + c.toNat
    digit (n / 262144) :: digit (n / 4096 % 64) :: digit (n / 64 % 64) :: digit (n % 64) :: encode s
  | [a, b] =>
    let n := a.toNat * 65536 + b.toNat * 256
    [digit (n / 262144), digit (n / 4096 % 64), digit (n / 64 % 64), pad]
  | [a] =>
    let n := a.toNat * 65536
    [digit (n / 262144), digit (n / 4096 % 64), pad, pad]
  | [] => []

def join? : List Nat → Option Octets
  | a :: b :: c :: d :: s =>
    (join? s).map fun t =>
      (a * 4 + b / 16).toUInt8 :: (b % 16 * 16 + c / 4).toUInt8 :: (c % 4 * 64 + d).toUInt8 :: t
  | [a, b, c] => some [(a * 4 + b / 16).toUInt8, (b % 16 * 16 + c / 4).toUInt8]
  | [a, b] => some [(a * 4 + b / 16).toUInt8]
  | [_] => none
  | [] => some []

def isSkipped (b : UInt8) : Bool := Octet.isBlank b || b = Octet.cr || b = Octet.lf

def decode? (s : Octets) : Option Octets := do
  let kept := s.filter (!isSkipped ·)
  let digits := (kept.reverse.dropWhile (· = pad)).reverse
  if 2 < kept.length - digits.length then none
  else join? (← digits.mapM value?)

end ScrapeCourier.Base64
