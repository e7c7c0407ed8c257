import ScrapeCourier.Text.Utf8

namespace ScrapeCourier

inductive FileError
  | notFound
  | isDirectory
  | notDirectory
  | notText
  | other (number : Nat) (text : String)
  deriving DecidableEq, Repr

def FileError.message : FileError → String
  | .notFound => "No such file or directory (os error 2)"
  | .isDirectory => "Is a directory (os error 21)"
  | .notDirectory => "Not a directory (os error 20)"
  | .notText => "stream did not contain valid UTF-8"
  | .other number text => text ++ s!" (os error {number})"

abbrev Files := String → Except FileError Octets

def Files.readText (files : Files) (path : String) : Except FileError (List Char) := do
  match Utf8.decode? (← files path) with
  | some s => .ok s
  | none => .error .notText

end ScrapeCourier
