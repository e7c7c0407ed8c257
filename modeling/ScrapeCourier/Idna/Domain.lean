import ScrapeCourier.Idna.Label
import ScrapeCourier.Idna.Punycode

namespace ScrapeCourier.Idna

/-- A label as its reader sees it. One in ASCII form has to hold a character outside ASCII. -/
def readLabel? : List Char → Option (List Char)
  | 'x' :: 'n' :: '-' :: '-' :: s =>
    (Punycode.decode? s).filter fun l => l.any (0x80 ≤ ·.toNat)
  | l => some l

def writeLabel (l : List Char) : List Char :=
  if l.all (·.toNat < 0x80) then l else "xn--".toList ++ Punycode.encode l

def toAscii? (s : List Char) : Option (List Char) := do
  let mapped ← s.mapM Mapping.replace?
  let labels ← ((Normal.normalize mapped.flatten).splitOn '.').mapM readLabel?
  let straight := !labels.any Label.runsRightToLeft
  if labels.all Label.isValid && (straight || labels.all Label.keepsDirection) then
    return ['.'].intercalate (labels.map writeLabel)
  else none

end ScrapeCourier.Idna
