import ScrapeCourier.Text.Utf8

namespace ScrapeCourier.Url.Percent

def upperHexDigit (d : Nat) : Char := if d < 10 then Char.ofNat (48 + d) else Char.ofNat (55 + d)

def encodeOctet (b : UInt8) : List Char :=
  ['%', upperHexDigit (b.toNat / 16), upperHexDigit (b.toNat % 16)]

/-- Characters outside ASCII are escaped in every part. -/
def encodeChar (escaped : Char → Bool) (c : Char) : List Char :=
  if 0x7F ≤ c.toNat || escaped c then (Utf8.encodeChar c).flatMap encodeOctet else [c]

def encode (escaped : Char → Bool) (s : List Char) : List Char := s.flatMap (encodeChar escaped)

def decode : Octets → Octets
  | b :: h :: l :: s =>
    match decide (b = 37), Octet.hexValue? h, Octet.hexValue? l with
    | true, some hi, some lo => (hi * 16 + lo).toUInt8 :: decode s
    | _, _, _ => b :: decode (h :: l :: s)
  | b :: s => b :: decode s
  | [] => []

def isControl (c : Char) : Bool := c.toNat < 0x20

def inFragment (c : Char) : Bool := isControl c || " \"<>`".toList.contains c

def inPath (c : Char) : Bool := inFragment c || ['#', '?', '\x7b', '\x7d'].contains c

def inUserinfo (c : Char) : Bool := inPath c || "/:;=@[\\]^|".toList.contains c

def inQuery (c : Char) : Bool := isControl c || " \"#<>".toList.contains c

def inSpecialQuery (c : Char) : Bool := inQuery c || c == '\''

end ScrapeCourier.Url.Percent
