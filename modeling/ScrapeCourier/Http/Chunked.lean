import ScrapeCourier.Http.Reader

namespace ScrapeCourier.Http.Chunked

inductive SizeLine
  | digits (count size : Nat)
  | blanks (size : Nat)
  | extension (size : Nat)

namespace SizeLine

def size : SizeLine → Nat
  | .digits _ n => n
  | .blanks n => n
  | .extension n => n

/-- Takes one octet other than a carriage return. A size has at most sixteen digits, and may have
none; an extension holds anything. -/
def step (l : SizeLine) (b : UInt8) : Option SizeLine :=
  match l with
  | .extension n => some (.extension n)
  | .blanks n =>
    if b = 59 then some (.extension n) else if Octet.isBlank b then some (.blanks n) else none
  | .digits k n =>
    match Octet.hexValue? b with
    | some d => if k < 16 then some (.digits (k + 1) (n * 16 + d)) else none
    | none =>
      if b = 59 then some (.extension n) else if Octet.isBlank b then some (.blanks n) else none

end SizeLine

def sizeFrom (l : SizeLine) : Reader Unit Nat
  | [] => .incomplete
  | b :: s =>
    if b = Octet.cr then
      match s with
      | [] => .incomplete
      | c :: t => if c = Octet.lf then .done l.size t else .malformed ()
    else match l.step b with
      | some l => sizeFrom l s
      | none => .malformed ()

def size : Reader Unit Nat := sizeFrom (.digits 0 0)

theorem length_lt_of_sizeFrom {l : SizeLine} {s t : Octets} {n : Nat}
    (h : sizeFrom l s = .done n t) : t.length < s.length := by
  induction s generalizing l with
  | nil => simp [sizeFrom] at h
  | cons b s ih =>
    unfold sizeFrom at h
    split at h
    · cases s with
      | nil => simp at h
      | cons c u =>
        simp only at h
        split at h
        · cases h
          simp only [List.length_cons]
          omega
        · simp at h
    · split at h
      · have := ih h
        simp only [List.length_cons]
        omega
      · simp at h

/-- Octets are counted in 64 bits, the two of a line end included. -/
def countBound : Nat := UInt64.size

def body (s : Octets) : Reading Unit Octets :=
  match _h : size s with
  | .incomplete => .incomplete
  | .malformed e => .malformed e
  | .done n t =>
    if n = 0 then .done [] t
    else if countBound ≤ n + 2 then .malformed ()
    else if t.length < n + 2 then .incomplete
    else if (t.drop n).take 2 ≠ [Octet.cr, Octet.lf] then .malformed ()
    else (body (t.drop (n + 2))).map (t.take n ++ ·)
termination_by s.length
decreasing_by
  have := length_lt_of_sizeFrom _h
  simp only [List.length_drop]
  omega

end ScrapeCourier.Http.Chunked
