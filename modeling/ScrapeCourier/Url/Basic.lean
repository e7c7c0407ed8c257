import ScrapeCourier.Url.Host

namespace ScrapeCourier

namespace Url

/-- A path that stands for itself, or segments that a slash precedes each. -/
inductive Path
  | whole (text : List Char)
  | segments (ss : List (List Char))
  deriving DecidableEq

def Path.text : Path → List Char
  | .whole s => s
  | .segments ss => ss.flatMap ('/' :: ·)

inductive Kind
  | web
  | file
  | other
  deriving DecidableEq

def Kind.isSpecial (k : Kind) : Bool := k ≠ .other

def kindOf (scheme : List Char) : Kind :=
  if scheme = "file".toList then .file
  else if ["http", "https", "ws", "wss", "ftp"].any (·.toList = scheme) then .web
  else .other

def defaultPort? (scheme : List Char) : Option Nat :=
  if scheme = "http".toList || scheme = "ws".toList then some 80
  else if scheme = "https".toList || scheme = "wss".toList then some 443
  else if scheme = "ftp".toList then some 21
  else none

end Url

/-- An absolute URL. A port that is its scheme's default is not held. -/
structure Url where
  scheme : List Char
  username : List Char := []
  password : Option (List Char) := none
  host : Option Url.Host := none
  port : Option Nat := none
  path : Url.Path
  query : Option (List Char) := none
  fragment : Option (List Char) := none
  deriving DecidableEq

namespace Url

def kind (u : Url) : Kind := kindOf u.scheme

def namedHost? (u : Url) : Option Host := u.host.filter (· ≠ .empty)

def hasNamedHost (u : Url) : Bool := u.namedHost?.isSome

def effectivePort? (u : Url) : Option Nat := u.port <|> defaultPort? u.scheme

def userinfoText (u : Url) : List Char :=
  match u.username, u.password with
  | [], none => []
  | name, none => name ++ ['@']
  | name, some word => name ++ ':' :: word ++ ['@']

def portText (u : Url) : List Char :=
  match u.port with
  | some p => ':' :: Unsigned.text p
  | none => []

/-- The part from the host to the path. Without a host, a path that starts with two slashes has a
dot put in front, so that it is not read as a host. -/
def authorityText (u : Url) : List Char :=
  match u.host with
  | some h => "//".toList ++ u.userinfoText ++ h.text ++ u.portText
  | none =>
    match u.path with
    | .segments ([] :: _ :: _) => "/.".toList
    | _ => []

def queryText (u : Url) : List Char :=
  match u.query with
  | some q => '?' :: q
  | none => []

def fragmentText (u : Url) : List Char :=
  match u.fragment with
  | some f => '#' :: f
  | none => []

def chars (u : Url) : List Char :=
  u.scheme ++ ':' :: u.authorityText ++ u.path.text ++ u.queryText ++ u.fragmentText

def text (u : Url) : String := String.ofList u.chars

end Url

end ScrapeCourier
