import ScrapeCourier.Url.Percent

namespace ScrapeCourier.Url.Form

abbrev Pair := List Char × List Char

def isPlain (b : UInt8) : Bool :=
  Octet.isAlpha b || Octet.isDigit b || (Octets.ofAscii "*-._").contains b

def encodeOctet (b : UInt8) : List Char :=
  if isPlain b then [Char.ofNat b.toNat]
  else if b = Octet.space then ['+']
  else Percent.encodeOctet b

def encodeText (s : List Char) : List Char := (Utf8.encode s).flatMap encodeOctet

def encodePair (p : Pair) : List Char := encodeText p.1 ++ '=' :: encodeText p.2

def encode (ps : List Pair) : List Char := ['&'].intercalate (ps.map encodePair)

def decodeText (s : List Char) : List Char :=
  Utf8.decodeLossy <| Percent.decode <|
    (Utf8.encode s).map fun b => if b = 43 then Octet.space else b

/-- A name ends at the first equals sign; without one the value is empty. -/
def decodePair (s : List Char) : Pair :=
  (decodeText (s.takeWhile (· ≠ '=')), decodeText ((s.dropWhile (· ≠ '=')).drop 1))

def decode (s : List Char) : List Pair :=
  ((s.splitOn '&').filter (!·.isEmpty)).map decodePair

end ScrapeCourier.Url.Form
