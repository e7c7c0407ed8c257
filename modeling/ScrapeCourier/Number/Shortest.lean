import ScrapeCourier.Number.Rounding
import ScrapeCourier.Number.Unsigned

namespace ScrapeCourier.Shortest

def reads (value n : Nat) : Bool := Rounding.significant n = (value : Rat)

/-- The multiple of `unit` that is nearest to `value` among those that read back as it. -/
def onGrid? (value unit : Nat) : Option Nat :=
  let below := value / unit * unit
  let above := below + unit
  match reads value below, reads value above with
  | true, true => some (if above - value < value - below then above else below)
  | true, false => some below
  | false, true => some above
  | false, false => none

def search (value : Nat) : Nat → Nat
  | 0 => value
  | k + 1 => (onGrid? value (10 ^ (k + 1))).getD (search value k)

def text (value : Nat) : List Char :=
  Unsigned.text (search value (Unsigned.text value).length)

end ScrapeCourier.Shortest
