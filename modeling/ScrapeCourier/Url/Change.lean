import ScrapeCourier.Url.Form
import ScrapeCourier.Url.Parser

namespace ScrapeCourier.Url

/-- A host can have a port if it is named and the URL is no file. -/
def setPort? (u : Url) (port : Option Nat) : Option Url :=
  if u.hasNamedHost && u.kind ≠ .file then
    some { u with port := if port = defaultPort? u.scheme then none else port }
  else none

/-- Puts a special scheme in the place of another; a port that is its default goes. -/
def setSpecialScheme? (u : Url) (scheme : List Char) : Option Url :=
  if u.kind.isSpecial && u.hasNamedHost then
    let v := { u with scheme }
    some ((v.setPort? v.port).getD v)
  else none

def setHost? (u : Url) (s : List Char) : Option Url :=
  match u.path with
  | .whole _ => none
  | .segments _ =>
    match if u.kind.isSpecial then Host.read s else Host.readLiteral s with
    | .ok h => some { u with host := some h }
    | .error _ => none

/-- Takes the query away; a path that stands for itself must not end in blanks then. -/
def clearQuery (u : Url) : Url :=
  let path := match u.path, u.fragment with
    | .whole s, none => .whole (s.reverse.dropWhile (· == ' ')).reverse
    | path, _ => path
  { u with query := none, path }

def queryPairs (u : Url) : List Form.Pair := (u.query.map Form.decode).getD []

def setQueryPairs (u : Url) (ps : List Form.Pair) : Url := { u with query := some (Form.encode ps) }

end ScrapeCourier.Url
