import ScrapeCourier.Idna.LabelTable
import ScrapeCourier.Idna.Mapping
import ScrapeCourier.Idna.Normal

namespace ScrapeCourier.Idna.Label

def marks : List (Range Unit) := Range.ofLines (fun _ => ()) markWords

def isMark (c : Char) : Bool := 0x300 ≤ c.toNat && (lookup? marks c).isSome

def joinings : List (Range Char) := Range.ofLines (·.headD 'U') joiningWords

/-- The joining type: `L`, `R`, `D` and `C` join, `T` is transparent, `U` does not join. -/
def joining (c : Char) : Char := ((lookup? joinings c).map (·.2)).getD 'U'

def directions : List (Range Char) := Range.ofLines (·.headD 'L') directionWords

def direction (c : Char) : Char :=
  if c.toNat < 0x80 then
    if Ascii.isDigit c then 'E'
    else if Ascii.isAlpha c then 'L'
    else if c == '-' || c == '+' then 'S'
    else if c == '.' || c == ',' || c == '/' || c == ':' then 'C'
    else if c == '#' || c == '$' || c == '%' then 'T'
    else 'O'
  else ((lookup? directions c).map (·.2)).getD 'L'

def isForbidden (c : Char) : Bool :=
  c.toNat ≤ 0x20 || c.toNat == 0x7F || "%#/:<>?@[\\]^|".toList.contains c

def joinerFits (c : Char) (before after : List Char) : Bool :=
  (before.head?.map Normal.markClass) == some 9 ||
    (c.toNat == 0x200C &&
      (match before.dropWhile (joining · == 'T') with
        | b :: _ => joining b == 'L' || joining b == 'D'
        | [] => false) &&
      (match after.dropWhile (joining · == 'T') with
        | a :: _ => joining a == 'R' || joining a == 'D'
        | [] => false))

def joinersFit (before : List Char) : List Char → Bool
  | [] => true
  | c :: s =>
    (if c.toNat == 0x200C || c.toNat == 0x200D then joinerFits c before s else true) &&
      joinersFit (c :: before) s

def isValid (l : List Char) : Bool :=
  l.all (fun c => Mapping.isValid c && !isForbidden c && c != '.') && Normal.normalize l == l &&
    !(l.head?.map isMark).getD false && joinersFit [] l

def runsRightToLeft (l : List Char) : Bool := l.any fun c => "RAN".toList.contains (direction c)

def lastDirection (ds : List Char) : Char := (ds.reverse.dropWhile (· == 'M')).headD 'O'

/-- The rule for the labels of a domain in which some character runs right to left. -/
def keepsDirection (l : List Char) : Bool :=
  let ds := l.map direction
  match ds with
  | [] => true
  | d :: _ =>
    if d == 'R' || d == 'A' then
      ds.all ("RANESCTOBM".toList.contains ·) && "RAEN".toList.contains (lastDirection ds) &&
        !(ds.contains 'E' && ds.contains 'N')
    else
      d == 'L' && ds.all ("LESCTOBM".toList.contains ·) && "LE".toList.contains (lastDirection ds)

end ScrapeCourier.Idna.Label
