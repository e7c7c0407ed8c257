import ScrapeCourier.Text.Octets

namespace ScrapeCourier.Http

variable {ε α β : Type}

inductive Reading (ε α : Type)
  | done (value : α) (rest : Octets)
  | incomplete
  | malformed (fault : ε)
  deriving Repr, DecidableEq

namespace Reading

def bind (r : Reading ε α) (f : α → Octets → Reading ε β) : Reading ε β :=
  match r with
  | .done a s => f a s
  | .incomplete => .incomplete
  | .malformed e => .malformed e

def map (f : α → β) (r : Reading ε α) : Reading ε β := r.bind fun a s => .done (f a) s

end Reading

def Reader (ε α : Type) := Octets → Reading ε α

namespace Reader

def done (a : α) : Reader ε α := fun s => .done a s

def bind (r : Reader ε α) (f : α → Reader ε β) : Reader ε β := fun s => (r s).bind f

instance : Monad (Reader ε) where
  pure := done
  bind := bind

def fail (e : ε) : Reader ε α := fun _ => .malformed e

def octet : Reader ε UInt8
  | [] => .incomplete
  | b :: s => .done b s

/-- The longest run of octets that satisfy `p`, and the octet that ends it. -/
def run (p : UInt8 → Bool) : Reader ε (Octets × UInt8)
  | [] => .incomplete
  | b :: s =>
    if p b then (run p s).map fun (more, stop) => (b :: more, stop) else .done ([], b) s

def expect (e : ε) (want : UInt8) : Reader ε Unit := do
  let b ← octet
  if b = want then return () else fail e

def literal (e : ε) : Octets → Reader ε Unit
  | [] => return ()
  | b :: s => do
    expect e b
    literal e s

/-- A line ends with a line feed, which a carriage return may precede; `b` is its first octet. -/
def lineEnd (e : ε) (b : UInt8) : Reader ε Unit :=
  if b = Octet.lf then return ()
  else if b = Octet.cr then expect e Octet.lf
  else fail e

end Reader

end ScrapeCourier.Http
