import ScrapeCourier.Number.Unsigned

namespace ScrapeCourier.Url

structure Ipv4 where
  a : UInt8
  b : UInt8
  c : UInt8
  d : UInt8
  deriving DecidableEq, Repr

namespace Ipv4

def loopback : Ipv4 := ⟨127, 0, 0, 1⟩

def ofNat (n : Nat) : Ipv4 :=
  ⟨(n / 16777216).toUInt8, (n / 65536).toUInt8, (n / 256).toUInt8, n.toUInt8⟩

def text (x : Ipv4) : List Char :=
  Unsigned.text x.a.toNat ++ '.' :: Unsigned.text x.b.toNat ++ '.' :: Unsigned.text x.c.toNat ++
    '.' :: Unsigned.text x.d.toNat

def valueIn (base : Nat) (s : List Char) : Option Nat :=
  s.foldlM (fun n c => match Ascii.hexValue? c with
    | some d => if d < base then some (n * base + d) else none
    | none => none) 0

def part? : List Char → Option Nat
  | [] => none
  | '0' :: 'x' :: s => valueIn 16 s
  | '0' :: 'X' :: s => valueIn 16 s
  | '0' :: c :: s => valueIn 8 (c :: s)
  | s => valueIn 10 s

def parts (s : List Char) : List (List Char) :=
  let ps := s.splitOn '.'
  if ps.getLast? = some [] then ps.dropLast else ps

/-- Whether a name ends in a part that has to be a number, so that the name is an address or
nothing. -/
def endsInNumber (s : List Char) : Bool :=
  match (parts s).getLast? with
  | none => false
  | some p => (!p.isEmpty && p.all Ascii.isDigit) || (part? p).isSome

/-- All parts but the last are octets; the last fills the octets that are left. -/
def ofParts? (ns : List Nat) : Option Ipv4 :=
  match ns.reverse with
  | [] => none
  | last :: first =>
    if 3 < first.length || first.any (255 < ·) || Nat.pow 256 (4 - first.length) ≤ last then none
    else some (ofNat (first.reverse.foldl (fun n k => n * 256 + k) 0 *
      Nat.pow 256 (4 - first.length) + last))

def read? (s : List Char) : Option Ipv4 := ((parts s).mapM part?).bind ofParts?

end Ipv4

end ScrapeCourier.Url
