import ScrapeCourier.Url.Ipv6

namespace ScrapeCourier

/-- A reference to a place, whole or relative to another place. -/
structure Reference where
  scheme : Option (List Char)
  authority : Option (List Char)
  path : List Char
  query : Option (List Char)

namespace Reference

def isNameChar (c : Char) : Bool := Ascii.isAlphanum c || "-._~!$&'()*+,;=".toList.contains c
def isUserChar (c : Char) : Bool := isNameChar c || c == ':'
def isPathChar (c : Char) : Bool := isUserChar c || c == '@' || c == '/'
def isQueryChar (c : Char) : Bool := isPathChar c || c == '?'

def isPart (allowed : Char → Bool) : List Char → Bool
  | [] => true
  | '%' :: a :: b :: s => Ascii.isHexDigit a && Ascii.isHexDigit b && isPart allowed s
  | c :: s => allowed c && isPart allowed s

def isPort : List Char → Bool
  | [] => true
  | c :: s => c == ':' && s.all Ascii.isDigit

def isFuture (s : List Char) : Bool :=
  match s with
  | v :: s =>
    let version := s.takeWhile (· ≠ '.')
    let address := s.drop (version.length + 1)
    (v == 'v' || v == 'V') && !version.isEmpty && version.all Ascii.isHexDigit &&
      !address.isEmpty && address.all isUserChar
  | [] => false

def isServer : List Char → Bool
  | '[' :: s =>
    let address := s.takeWhile (· ≠ ']')
    match s.drop address.length with
    | _ :: port => ((Url.Ipv6.read? address).isSome || isFuture address) && isPort port
    | [] => false
  | s => isPart isNameChar (s.takeWhile (· ≠ ':')) && isPort (s.dropWhile (· ≠ ':'))

def isAuthority (s : List Char) : Bool :=
  match s.dropWhile (· ≠ '@') with
  | _ :: server => isPart isUserChar (s.takeWhile (· ≠ '@')) && isServer server
  | [] => isServer s

/-- A path at its beginning could be taken for a scheme if a colon stood in its first segment. -/
def isValid (r : Reference) : Bool :=
  r.authority.all isAuthority && isPart isPathChar r.path && r.query.all (isPart isQueryChar) &&
    (r.scheme.isSome || r.authority.isSome || !(r.path.takeWhile (· ≠ '/')).contains ':')

def cut (c : Char) (s : List Char) : List Char × Option (List Char) :=
  match s.dropWhile (· ≠ c) with
  | _ :: t => (s.takeWhile (· ≠ c), some t)
  | [] => (s, none)

def cutScheme (s : List Char) : Option (List Char) × List Char :=
  match cut ':' s with
  | (c :: name, some rest) =>
    if Ascii.isAlpha c && name.all Ascii.isSchemeChar then (some (c :: name), rest) else (none, s)
  | _ => (none, s)

def cutAuthority : List Char → Option (List Char) × List Char
  | '/' :: '/' :: s => (some (s.takeWhile (· ≠ '/')), s.dropWhile (· ≠ '/'))
  | s => (none, s)

def read? (s : List Char) : Option Reference :=
  let (s, fragment) := cut '#' s
  let (s, query) := cut '?' s
  let (scheme, s) := cutScheme s
  let (authority, path) := cutAuthority s
  let r : Reference := ⟨scheme, authority, path, query⟩
  if r.isValid && fragment.all (isPart isQueryChar) then some r else none

def text (r : Reference) : List Char :=
  (r.scheme.map (· ++ [':'])).getD [] ++ (r.authority.map ("//".toList ++ ·)).getD [] ++ r.path ++
    (r.query.map ('?' :: ·)).getD []

/-- Goes on by one segment from those so far, of which the last one is on top. -/
def enter (seen : List (List Char)) (s : List Char) : List (List Char) :=
  if s = ".".toList then seen else if s = "..".toList then seen.tail else s :: seen

def withoutDots (path : List Char) : List Char :=
  match path.splitOn '/' with
  | [] :: ss =>
    let seen := ss.foldl enter []
    let ends := ss.getLast?.any fun s => s = ".".toList || s = "..".toList
    (if ends then [] :: seen else seen).reverse.flatMap ('/' :: ·)
  | _ => path

/-- A path that takes the place of what follows the last slash in the path of a place. -/
def beside (place : Reference) (path : List Char) : List Char :=
  if place.authority.isSome && place.path.isEmpty then '/' :: path
  else (place.path.reverse.dropWhile (· ≠ '/')).reverse ++ path

def against (r place : Reference) : Reference :=
  if r.scheme.isSome then { r with path := withoutDots r.path }
  else if r.authority.isSome then { r with scheme := place.scheme, path := withoutDots r.path }
  else if r.path.isEmpty then { place with query := r.query <|> place.query }
  else
    let path := if r.path.head? = some '/' then r.path else beside place r.path
    { place with path := withoutDots path, query := r.query }

end Reference

end ScrapeCourier
