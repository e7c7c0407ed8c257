import ScrapeCourier.Idna.MappingTable
import ScrapeCourier.Text.Ranges

namespace ScrapeCourier.Idna.Mapping

inductive Fate
  | valid
  | ignored
  | mapped (image : List Char)
  | shifted (image : Nat)

def fateOf : List Char → Fate
  | 'v' :: _ => .valid
  | 'i' :: _ => .ignored
  | 's' :: image => .shifted (Range.hex image)
  | _ :: image => .mapped ((image.splitOn '+').map fun w => Char.ofNat (Range.hex w))
  | [] => .valid

def table : List (Range Fate) := Range.ofLines fateOf words

def replace? (c : Char) : Option (List Char) :=
  if c.toNat < 0x80 then some [Ascii.toLower c]
  else match lookup? table c with
    | none => none
    | some (_, .valid) => some [c]
    | some (_, .ignored) => some []
    | some (_, .mapped image) => some image
    | some (k, .shifted image) => some [Char.ofNat (image + k)]

def isValid (c : Char) : Bool := replace? c = some [c]

end ScrapeCourier.Idna.Mapping
