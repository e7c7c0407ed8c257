import ScrapeCourier.Number.Shortest

namespace ScrapeCourier

structure Duration where
  nanos : Nat
  bound : nanos < UInt64.size * 1_000_000_000
  deriving DecidableEq

namespace Duration

def ofNanos? (n : Nat) : Option Duration :=
  if h : n < UInt64.size * 1_000_000_000 then some ⟨n, h⟩ else none

def zero : Duration := ⟨0, by decide⟩

def ofSeconds (n : UInt64) : Duration :=
  ⟨n.toNat * 1_000_000_000, Nat.mul_lt_mul_of_pos_right n.toNat_lt_size (by decide)⟩

def min (a b : Duration) : Duration := if a.nanos ≤ b.nanos then a else b

def max (a b : Duration) : Duration := if a.nanos ≤ b.nanos then b else a

/-- The time from one span to another, or none if the first is the longer. -/
def minus (a b : Duration) : Duration := ⟨a.nanos - b.nanos, Nat.lt_of_le_of_lt (Nat.sub_le ..) a.bound⟩

def isZero (d : Duration) : Bool := d.nanos = 0

/-- The seconds to 53 bits: whole seconds and the rest are rounded first, then their sum is. -/
def seconds (d : Duration) : Rat :=
  Rounding.significant
    (Rounding.significant (d.nanos / 1_000_000_000 : Nat) +
      Rounding.significant ((d.nanos % 1_000_000_000 : Nat) / 1_000_000_000))

def ofRat? (x : Rat) : Option Duration :=
  if x < 0 || UInt64.size ≤ x then none else ofNanos? (Rounding.nearest (x * 1_000_000_000)).toNat

def sixPlaces (d : Duration) : List Char :=
  let micros := (Rounding.nearest (d.seconds * 1_000_000)).toNat
  Unsigned.text (micros / 1_000_000) ++ '.' :: Unsigned.padded 6 micros

end Duration

end ScrapeCourier
