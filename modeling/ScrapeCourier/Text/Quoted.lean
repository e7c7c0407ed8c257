import ScrapeCourier.Text.HiddenTable
import ScrapeCourier.Text.Ranges

namespace ScrapeCourier.Quoted

def hidden : List (Range Unit) := Range.ofLines (fun _ => ()) hiddenWords

def isShown (c : Char) : Bool :=
  if c.toNat < 0x80 then 0x20 ≤ c.toNat && c.toNat ≠ 0x7F else (lookup? hidden c).isNone

def escape (c : Char) : List Char :=
  match c with
  | '\t' => ['\\', 't']
  | '\r' => ['\\', 'r']
  | '\n' => ['\\', 'n']
  | '\x00' => ['\\', '0']
  | '"' => ['\\', '"']
  | '\\' => ['\\', '\\']
  | _ => if isShown c then [c] else '\\' :: 'u' :: '\x7b' :: Nat.toDigits 16 c.toNat ++ ['\x7d']

def text (s : List Char) : String := String.ofList ('"' :: s.flatMap escape ++ ['"'])

end ScrapeCourier.Quoted
