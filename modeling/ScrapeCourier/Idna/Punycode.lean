import ScrapeCourier.Text.Octets

namespace ScrapeCourier.Idna.Punycode

def digitChar (d : Nat) : Char := if d < 26 then Char.ofNat (97 + d) else Char.ofNat (22 + d)

def digitValue? (c : Char) : Option Nat :=
  if Ascii.isLower c then some (c.toNat - 97)
  else if Ascii.isUpper c then some (c.toNat - 65)
  else if Ascii.isDigit c then some (c.toNat - 22)
  else none

def threshold (bias k : Nat) : Nat :=
  if k ≤ bias + 1 then 1 else if bias + 26 ≤ k then 26 else k - bias

theorem one_le_threshold (bias k : Nat) : 1 ≤ threshold bias k := by
  unfold threshold
  repeat' split
  all_goals omega

theorem threshold_le (bias k : Nat) : threshold bias k ≤ 26 := by
  unfold threshold
  repeat' split
  all_goals omega

def shrink (k delta : Nat) : Nat :=
  if 455 < delta then shrink (k + 36) (delta / 35) else k + 36 * delta / (delta + 38)
termination_by delta

def adapt (first : Bool) (delta count : Nat) : Nat :=
  let d := if first then delta / 700 else delta / 2
  shrink 0 (d + d / count)

def encodeDelta (bias k q : Nat) : List Char :=
  let t := threshold bias k
  if q < t then [digitChar q]
  else digitChar (t + (q - t) % (36 - t)) :: encodeDelta bias (k + 36) ((q - t) / (36 - t))
termination_by q
decreasing_by
  have h1 := one_le_threshold bias k
  have h2 : (q - threshold bias k) / (36 - threshold bias k) ≤ q - threshold bias k :=
    Nat.div_le_self _ _
  omega

structure Encoder where
  out : List Char := []
  delta : Nat := 0
  bias : Nat := 72
  count : Nat

/-- One character of the text while the characters equal to `m` are being placed. -/
def Encoder.step (first m : Nat) (e : Encoder) (c : Char) : Encoder :=
  if c.toNat < m then { e with delta := e.delta + 1 }
  else if c.toNat = m then
    { out := e.out ++ encodeDelta e.bias 36 e.delta, delta := 0, count := e.count + 1,
      bias := adapt (e.count = first) e.delta (e.count + 1) }
  else e

def insertSorted (x : Nat) : List Nat → List Nat
  | [] => [x]
  | y :: s => if x < y then x :: y :: s else if x = y then y :: s else y :: insertSorted x s

def encode (s : List Char) : List Char :=
  let basic := s.filter (·.toNat < 0x80)
  let others := s.foldr (fun c ms => if c.toNat < 0x80 then ms else insertSorted c.toNat ms) []
  let start : Encoder × Nat := ({ count := basic.length }, 0x80)
  let (e, _) := others.foldl (fun (e, n) m =>
    let e := { e with delta := e.delta + (m - n) * (e.count + 1) }
    let e := s.foldl (Encoder.step basic.length m) e
    ({ e with delta := e.delta + 1 }, m + 1)) start
  basic ++ (if basic.isEmpty then [] else ['-']) ++ e.out

structure Decoder where
  out : List Char
  char : Nat := 0x80
  index : Nat := 0
  bias : Nat := 72
  number : Option (Nat × Nat × Nat) := none

def Decoder.digit (d : Decoder) (v : Nat) : Option Decoder :=
  let (old, weight, k) := d.number.getD (d.index, 1, 36)
  let index := d.index + v * weight
  let t := threshold d.bias k
  if t ≤ v then some { d with index, number := some (old, weight * (36 - t), k + 36) }
  else
    let count := d.out.length + 1
    let char := d.char + index / count
    let place := index % count
    if 0x10FFFF < char || (0xD800 ≤ char && char < 0xE000) then none
    else some
      { out := d.out.take place ++ Char.ofNat char :: d.out.drop place, char, index := place + 1,
        bias := adapt (old = 0) (index - old) count, number := none }

/-- The digits stand after the last hyphen, unless that is the first character. -/
def decode? (s : List Char) : Option (List Char) := do
  let digits := (s.reverse.takeWhile (· ≠ '-')).reverse
  let before := s.take (s.length - digits.length - 1)
  let (basic, digits) := if before.isEmpty then ([], s) else (before, digits)
  let values ← digits.mapM digitValue?
  let d ← values.foldlM Decoder.digit { out := basic }
  if d.number.isSome || basic.any (0x80 ≤ ·.toNat) then none else some d.out

end ScrapeCourier.Idna.Punycode
