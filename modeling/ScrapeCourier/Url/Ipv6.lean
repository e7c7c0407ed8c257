import ScrapeCourier.Url.Ipv4

namespace ScrapeCourier.Url

structure Ipv6 where
  pieces : Vector UInt16 8
  deriving DecidableEq

namespace Ipv6

def hexText (n : Nat) : List Char := Nat.toDigits 16 n

def zeroRun (ps : List UInt16) : Nat := (ps.takeWhile (· = 0)).length

def longestZeros : Nat → List UInt16 → Nat × Nat
  | _, [] => (0, 0)
  | i, p :: ps =>
    let here := zeroRun (p :: ps)
    let (j, n) := longestZeros (i + 1) ps
    if n ≤ here then (i, here) else (j, n)

def joinColons (ps : List UInt16) : List Char := [':'].intercalate (ps.map (hexText ·.toNat))

def text (x : Ipv6) : List Char :=
  let ps := x.pieces.toList
  let (i, n) := longestZeros 0 ps
  if n < 2 then joinColons ps
  else joinColons (ps.take i) ++ ':' :: ':' :: joinColons (ps.drop (i + n))

def hexPiece? (s : List Char) : Option UInt16 :=
  if 1 ≤ s.length && s.length ≤ 4 then (Ipv4.valueIn 16 s).map Nat.toUInt16 else none

def octet? (s : List Char) : Option Nat :=
  match s with
  | '0' :: _ :: _ => none
  | _ => (Unsigned.digits? s).filter (· < 256)

def dotted? (s : List Char) : Option (List UInt16) :=
  match (s.splitOn '.').mapM octet? with
  | some [a, b, c, d] => some [(a * 256 + b).toUInt16, (c * 256 + d).toUInt16]
  | _ => none

/-- The pieces between single colons, of which the last may be a dotted address. -/
def pieces? (dotted : Bool) : List (List Char) → Option (List UInt16)
  | [] => some []
  | [s] =>
    match hexPiece? s with
    | some p => some [p]
    | none => if dotted then dotted? s else none
  | s :: t :: ss =>
    match hexPiece? s, pieces? dotted (t :: ss) with
    | some p, some ps => some (p :: ps)
    | _, _ => none

def run? (dotted : Bool) (s : List Char) : Option (List UInt16) :=
  if s.isEmpty then some [] else pieces? dotted (s.splitOn ':')

def splitDouble : List Char → Option (List Char × List Char)
  | ':' :: ':' :: s => some ([], s)
  | c :: s => (splitDouble s).map fun (l, r) => (c :: l, r)
  | [] => none

def ofList? (ps : List UInt16) : Option Ipv6 :=
  if h : ps.length = 8 then some ⟨⟨ps.toArray, by simpa using h⟩⟩ else none

def read? (s : List Char) : Option Ipv6 :=
  match splitDouble s with
  | none => (pieces? true (s.splitOn ':')).bind ofList?
  | some (l, r) =>
    match run? false l, run? true r with
    | some l, some r =>
      if l.length + r.length < 8 then
        ofList? (l ++ List.replicate (8 - l.length - r.length) 0 ++ r)
      else none
    | _, _ => none

end Ipv6

end ScrapeCourier.Url
