namespace ScrapeCourier

abbrev Octets := List UInt8

def Octets.ofAscii (s : String) : Octets := s.toList.map fun c => c.toNat.toUInt8

def Octets.toChars (s : Octets) : List Char := s.map fun b => Char.ofNat b.toNat

namespace Octet

@[match_pattern] abbrev tab : UInt8 := 9
@[match_pattern] abbrev lf : UInt8 := 10
@[match_pattern] abbrev cr : UInt8 := 13
@[match_pattern] abbrev space : UInt8 := 32
@[match_pattern] abbrev colon : UInt8 := 58

def isDigit (b : UInt8) : Bool := 48 ≤ b && b ≤ 57
def isUpper (b : UInt8) : Bool := 65 ≤ b && b ≤ 90
def isLower (b : UInt8) : Bool := 97 ≤ b && b ≤ 122
def isAlpha (b : UInt8) : Bool := isUpper b || isLower b

def isBlank (b : UInt8) : Bool := b == space || b == tab

def toLower (b : UInt8) : UInt8 := if isUpper b then b + 32 else b
def toUpper (b : UInt8) : UInt8 := if isLower b then b - 32 else b

/-- Printable ASCII or a tab. -/
def isVisible (b : UInt8) : Bool := b == tab || (32 ≤ b && b < 127)

def hexValue? (b : UInt8) : Option Nat :=
  if isDigit b then some (b.toNat - 48)
  else if 97 ≤ b && b ≤ 102 then some (b.toNat - 87)
  else if 65 ≤ b && b ≤ 70 then some (b.toNat - 55)
  else none

end Octet

def Octets.trimBlanks (s : Octets) : Octets :=
  ((s.dropWhile Octet.isBlank).reverse.dropWhile Octet.isBlank).reverse

def Octets.hasInfix (word : Octets) : Octets → Bool
  | [] => word.isEmpty
  | b :: s => word.isPrefixOf (b :: s) || hasInfix word s

namespace Ascii

def isDigit (c : Char) : Bool := '0' ≤ c && c ≤ '9'
def isUpper (c : Char) : Bool := 'A' ≤ c && c ≤ 'Z'
def isLower (c : Char) : Bool := 'a' ≤ c && c ≤ 'z'
def isAlpha (c : Char) : Bool := isUpper c || isLower c
def isAlphanum (c : Char) : Bool := isAlpha c || isDigit c

def toLower (c : Char) : Char := if isUpper c then Char.ofNat (c.toNat + 32) else c
def toUpper (c : Char) : Char := if isLower c then Char.ofNat (c.toNat - 32) else c

def lower (s : List Char) : List Char := s.map toLower

def sameWord (s t : List Char) : Bool := lower s == lower t

def hexValue? (c : Char) : Option Nat :=
  if isDigit c then some (c.toNat - 48)
  else if 'a' ≤ c && c ≤ 'f' then some (c.toNat - 87)
  else if 'A' ≤ c && c ≤ 'F' then some (c.toNat - 55)
  else none

def isHexDigit (c : Char) : Bool := (hexValue? c).isSome

def isSchemeChar (c : Char) : Bool := isAlphanum c || c == '+' || c == '-' || c == '.'

end Ascii

end ScrapeCourier
