import ScrapeCourier.Idna.NormalTable
import ScrapeCourier.Text.Ranges

namespace ScrapeCourier.Idna.Normal

structure Decomposition where
  parts : List Char
  composes : Bool

def decompositionOf (s : List Char) : Decomposition :=
  ⟨((s.takeWhile (· ≠ '!')).splitOn '+').map fun w => Char.ofNat (Range.hex w),
    !s.contains '!'⟩

def decompositions : List (Range Decomposition) := Range.ofLines decompositionOf decompositionWords

def classes : List (Range Nat) := Range.ofLines Range.hex classWords

def markClass (c : Char) : Nat :=
  if c.toNat < 0x300 then 0 else ((lookup? classes c).map (·.2)).getD 0

def isHangul (c : Char) : Bool := 0xAC00 ≤ c.toNat && c.toNat < 0xD7A4

def split (c : Char) : List Char :=
  if c.toNat < 0xC0 then [c]
  else if isHangul c then
    let n := c.toNat - 0xAC00
    let lead := Char.ofNat (0x1100 + n / 588)
    let vowel := Char.ofNat (0x1161 + n % 588 / 28)
    if n % 28 = 0 then [lead, vowel] else [lead, vowel, Char.ofNat (0x11A7 + n % 28)]
  else match lookup? decompositions c with
    | some (_, d) => d.parts
    | none => [c]

/-- No character takes more than four steps. -/
def decompose (s : List Char) : List Char :=
  (((s.flatMap split).flatMap split).flatMap split).flatMap split

def place (c : Char) : List Char → List Char
  | [] => [c]
  | e :: s =>
    if 0 < markClass c && markClass c < markClass e then e :: place c s else c :: e :: s

def order (s : List Char) : List Char := (s.foldl (fun acc c => place c acc) []).reverse

def pair? (a b : Char) : Option Char :=
  let x := a.toNat
  let y := b.toNat
  if 0x1100 ≤ x && x < 0x1113 && 0x1161 ≤ y && y < 0x1176 then
    some (Char.ofNat (0xAC00 + ((x - 0x1100) * 21 + (y - 0x1161)) * 28))
  else if isHangul a && (x - 0xAC00) % 28 = 0 && 0x11A7 < y && y < 0x11C3 then
    some (Char.ofNat (x + (y - 0x11A7)))
  else
    (decompositions.find? fun r => r.value.composes && r.value.parts = [a, b]).map fun r =>
      Char.ofNat r.first

/-- Composes onto the last starter, which `marks` follow in reverse; a mark of no higher class than
the one before it is blocked. -/
def composeFrom (starter : Option Char) (marks : List Char) : List Char → List Char
  | [] => starter.toList ++ marks.reverse
  | c :: s =>
    match starter with
    | none => if markClass c = 0 then composeFrom (some c) [] s else c :: composeFrom none [] s
    | some a =>
      let blocked := match marks with
        | [] => false
        | m :: _ => markClass c ≤ markClass m
      match if blocked then none else pair? a c with
      | some p => composeFrom (some p) marks s
      | none =>
        if markClass c = 0 then a :: marks.reverse ++ composeFrom (some c) [] s
        else composeFrom (some a) (c :: marks) s

def normalize (s : List Char) : List Char :=
  if s.all (·.toNat < 0xC0) then s else composeFrom none [] (order (decompose s))

end ScrapeCourier.Idna.Normal
