import ScrapeCourier.Text.Blank
import ScrapeCourier.Time.Duration

namespace ScrapeCourier.Span

structure Unit where
  length : Nat
  step : Nat
  names : List String

def second : Nat := 1_000_000_000

def units : List Unit :=
  [⟨1, 1, ["nanos", "nsec", "ns"]⟩,
    ⟨1000, 1, ["usec", "us", "µs"]⟩,
    ⟨1000000, 1, ["millis", "msec", "ms"]⟩,
    ⟨second, 1, ["seconds", "second", "secs", "sec", "s"]⟩,
    ⟨60 * second, 1, ["minutes", "minute", "min", "mins", "m"]⟩,
    ⟨3600 * second, second, ["hours", "hour", "hrs", "hr", "h"]⟩,
    ⟨86400 * second, second, ["days", "day", "d"]⟩,
    ⟨604800 * second, second, ["weeks", "week", "wks", "wk", "w"]⟩,
    ⟨2630016 * second, second, ["months", "month", "M"]⟩,
    ⟨31557600 * second, second, ["years", "year", "yrs", "yr", "y"]⟩]

def unit? (name : List Char) : Option Unit := units.find? (·.names.any (·.toList = name))

def wordBound : Nat := UInt64.size

def inWord (n : Nat) : Option Nat := if n < wordBound then some n else none

structure Fraction where
  digits : Nat
  scale : Nat

structure Amount where
  seconds : Nat
  nanos : Nat

def amountOf (u : Unit) (n : Nat) : Option Amount :=
  if second ≤ u.length then (inWord (n * (u.length / second))).map (⟨·, 0⟩)
  else (inWord (n * u.length)).map (⟨0, ·⟩)

/-- A fraction of a unit, if it comes out even. -/
def fractionOf (u : Unit) (f : Fraction) : Option Amount := do
  let n ← inWord (f.digits * (u.length / u.step))
  if n % f.scale ≠ 0 then none
  else if u.step = 1 then some ⟨0, n / f.scale⟩
  else some ⟨n / f.scale, 0⟩

def add (total : Nat) (a : Amount) : Option Nat := do
  let nanos ← inWord (total % second + a.nanos)
  let seconds ← inWord (total / second + a.seconds + nanos / second)
  some (seconds * second + nanos % second)

def addUnit (name : List Char) (n : Nat) (f : Option Fraction) (total : Nat) : Option Nat := do
  let u ← unit? name
  let total ← add total (← amountOf u n)
  match f with
  | none => some total
  | some f => add total (← fractionOf u f)

inductive State
  | between
  | number (n : Nat)
  | fraction (n : Nat) (f : Fraction)
  | unit (n : Nat) (f : Option Fraction) (name : List Char)

def isLetter (c : Char) : Bool := Ascii.isAlpha c || c == 'µ'

def digit (c : Char) : Nat := Unsigned.digitValue c

def step (s : State × Nat) (c : Char) : Option (State × Nat) :=
  let (state, total) := s
  match state with
  | .between =>
    if Ascii.isDigit c then some (.number (digit c), total)
    else if Blank.isBlank c then some (.between, total)
    else none
  | .number n =>
    if Ascii.isDigit c then (inWord (n * 10 + digit c)).map fun n => (.number n, total)
    else if Blank.isBlank c then some (.number n, total)
    else if isLetter c then some (.unit n none [c], total)
    else if c == '.' then some (.fraction n ⟨0, 1⟩, total)
    else none
  | .fraction n f =>
    if Ascii.isDigit c then do
      let digits ← inWord (f.digits * 10 + digit c)
      let scale ← inWord (f.scale * 10)
      some (.fraction n ⟨digits, scale⟩, total)
    else if Blank.isBlank c then some (.fraction n f, total)
    else if isLetter c && f.scale ≠ 1 then some (.unit n (some f) [c], total)
    else none
  | .unit n f name =>
    if Ascii.isDigit c then (addUnit name n f total).map fun t => (.number (digit c), t)
    else if Blank.isBlank c then (addUnit name n f total).map fun t => (.between, t)
    else if isLetter c then some (.unit n f (name ++ [c]), total)
    else none

def finish : State × Nat → Option Nat
  | (.between, total) => some total
  | (.unit n f name, total) => addUnit name n f total
  | _ => none

/-- Reads a span; a zero needs no unit. -/
def read? (s : List Char) : Option Duration :=
  if s = ['0'] then some .zero
  else if (Blank.trim s).isEmpty then none
  else ((s.foldlM step (.between, 0)).bind finish).bind Duration.ofNanos?

end ScrapeCourier.Span
