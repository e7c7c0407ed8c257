import ScrapeCourier.Text.Octets

namespace ScrapeCourier

structure Range (α : Type) where
  first : Nat
  last : Nat
  value : α

namespace Range

variable {α : Type}

def hex (s : List Char) : Nat := s.foldl (fun n c => n * 16 + (Ascii.hexValue? c).getD 0) 0

def cut (separator : Char) (s : List Char) : List Char × List Char :=
  (s.takeWhile (· ≠ separator), (s.dropWhile (· ≠ separator)).drop 1)

/-- One word: a character or two with a hyphen between, then a colon and the value. -/
def ofWord (value : List Char → α) (word : List Char) : Range α :=
  let (span, rest) := cut ':' word
  let (first, last) := cut '-' span
  ⟨hex first, if last.isEmpty then hex first else hex last, value rest⟩

def ofLines (value : List Char → α) (lines : List String) : List (Range α) :=
  lines.flatMap fun l => (l.toList.splitOn ' ').map (ofWord value)

end Range

def lookup? {α : Type} (rs : List (Range α)) (c : Char) : Option (Nat × α) :=
  (rs.find? fun r => r.first ≤ c.toNat && c.toNat ≤ r.last).map fun r =>
    (c.toNat - r.first, r.value)

end ScrapeCourier
