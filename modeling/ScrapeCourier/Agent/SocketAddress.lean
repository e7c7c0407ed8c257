import ScrapeCourier.Url.Ipv6

namespace ScrapeCourier

inductive SocketAddress
  | v4 (address : Url.Ipv4) (port : Nat)
  | v6 (address : Url.Ipv6) (zone port : Nat)
  deriving DecidableEq

namespace SocketAddress

open Url

def number? (bound : Nat) (s : List Char) : Option Nat := (Unsigned.digits? s).filter (· < bound)

def readV4? (s : List Char) : Option SocketAddress := do
  let port ← number? 65536 ((s.dropWhile (· ≠ ':')).drop 1)
  match ← ((s.takeWhile (· ≠ ':')).splitOn '.').mapM Ipv6.octet? with
  | [a, b, c, d] => some (.v4 ⟨a.toUInt8, b.toUInt8, c.toUInt8, d.toUInt8⟩ port)
  | _ => none

def readV6? (s : List Char) : Option SocketAddress := do
  let inside := s.takeWhile (· ≠ ']')
  let address ← Ipv6.read? (inside.takeWhile (· ≠ '%'))
  let zone ← match inside.dropWhile (· ≠ '%') with
    | [] => some 0
    | _ :: z => number? UInt32.size z
  match s.dropWhile (· ≠ ']') with
  | ']' :: ':' :: p => (number? 65536 p).map fun port => .v6 address zone port
  | _ => none

def read? : List Char → Option SocketAddress
  | '[' :: s => readV6? s
  | s => readV4? s

/-- An address that stands for an IPv4 address shows it. -/
def v6Text (x : Ipv6) : List Char :=
  match x.pieces.toList with
  | [0, 0, 0, 0, 0, 0xFFFF, p, q] =>
    "::ffff:".toList ++ (Ipv4.ofNat (p.toNat * 65536 + q.toNat)).text
  | _ => x.text

def text : SocketAddress → List Char
  | .v4 a p => a.text ++ ':' :: Unsigned.text p
  | .v6 a z p =>
    '[' :: v6Text a ++ (if z = 0 then [] else '%' :: Unsigned.text z) ++ "]:".toList ++
      Unsigned.text p

end SocketAddress

end ScrapeCourier
