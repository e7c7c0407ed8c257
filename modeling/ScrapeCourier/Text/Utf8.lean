import ScrapeCourier.Text.Octets

namespace ScrapeCourier.Utf8

def tail (n : Nat) : UInt8 := (128 + n % 64).toUInt8

def encodeChar (c : Char) : Octets :=
  let n := c.toNat
  if n < 0x80 then [n.toUInt8]
  else if n < 0x800 then [(192 + n / 64).toUInt8, tail n]
  else if n < 0x10000 then [(224 + n / 4096).toUInt8, tail (n / 64), tail n]
  else [(240 + n / 262144).toUInt8, tail (n / 4096), tail (n / 64), tail n]

def encode (s : List Char) : Octets := s.flatMap encodeChar

/-- A character begun: its leading bits, how many octets it still owes, and the range of the next. -/
structure Pending where
  bits : Nat
  owed : Nat
  low : Nat := 0x80
  high : Nat := 0xBF

inductive Step
  | whole (c : Char)
  | more (p : Pending)
  | ill

def lead (b : UInt8) : Step :=
  let n := b.toNat
  if n < 0x80 then .whole (Char.ofNat n)
  else if n < 0xC2 then .ill
  else if n < 0xE0 then .more { bits := n - 0xC0, owed := 1 }
  else if n = 0xE0 then .more { bits := 0, owed := 2, low := 0xA0 }
  else if n = 0xED then .more { bits := 13, owed := 2, high := 0x9F }
  else if n < 0xF0 then .more { bits := n - 0xE0, owed := 2 }
  else if n = 0xF0 then .more { bits := 0, owed := 3, low := 0x90 }
  else if n < 0xF4 then .more { bits := n - 0xF0, owed := 3 }
  else if n = 0xF4 then .more { bits := 4, owed := 3, high := 0x8F }
  else .ill

def Pending.step (p : Pending) (b : UInt8) : Step :=
  if p.low ≤ b.toNat && b.toNat ≤ p.high then
    let bits := p.bits * 64 + b.toNat % 64
    if p.owed ≤ 1 then .whole (Char.ofNat bits) else .more { bits, owed := p.owed - 1 }
  else .ill

/-- Each character, and `none` for each ill-formed stretch. -/
def scan : Option Pending → Octets → List (Option Char)
  | none, [] => []
  | some _, [] => [none]
  | none, b :: s =>
    match lead b with
    | .whole c => some c :: scan none s
    | .more p => scan (some p) s
    | .ill => none :: scan none s
  | some p, b :: s =>
    match p.step b with
    | .whole c => some c :: scan none s
    | .more q => scan (some q) s
    | .ill =>
      none :: match lead b with
        | .whole c => some c :: scan none s
        | .more q => scan (some q) s
        | .ill => none :: scan none s

def decode? (s : Octets) : Option (List Char) := (scan none s).mapM id

def decodeLossy (s : Octets) : List Char := (scan none s).map (·.getD '\uFFFD')

def size (s : List Char) : Nat := (encode s).length

end ScrapeCourier.Utf8
