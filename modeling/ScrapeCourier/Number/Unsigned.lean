import ScrapeCourier.Text.Octets

namespace ScrapeCourier.Unsigned

def digitChar (d : Nat) : Char := Char.ofNat (48 + d)

def digitValue (c : Char) : Nat := c.toNat - 48

def text (n : Nat) : List Char :=
  if n < 10 then [digitChar n] else text (n / 10) ++ [digitChar (n % 10)]

def padded (places n : Nat) : List Char :=
  match places with
  | 0 => []
  | k + 1 => padded k (n / 10) ++ [digitChar (n % 10)]

def value (s : List Char) : Nat := s.foldl (fun n c => n * 10 + digitValue c) 0

def digits? (s : List Char) : Option Nat :=
  if !s.isEmpty && s.all Ascii.isDigit then some (value s) else none

/-- Digits, after at most one plus sign, of a number below `bound`. -/
def read? (bound : Nat) : List Char → Option Nat
  | '+' :: s => (digits? s).filter (· < bound)
  | s => (digits? s).filter (· < bound)

end ScrapeCourier.Unsigned
