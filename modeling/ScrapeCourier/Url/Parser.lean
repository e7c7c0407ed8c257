import ScrapeCourier.Url.Basic

namespace ScrapeCourier.Url

namespace Parser

def isTrimmed (c : Char) : Bool := c.toNat ≤ 0x20

def isDropped (c : Char) : Bool := c == '\t' || c == '\n' || c == '\r'

def clean (s : List Char) : List Char :=
  (((s.dropWhile isTrimmed).reverse.dropWhile isTrimmed).reverse).filter (!isDropped ·)

def splitScheme? (s : List Char) : Option (List Char × List Char) :=
  if (s.head?.map Ascii.isAlpha).getD false then
    match s.dropWhile Ascii.isSchemeChar with
    | ':' :: rest => some (Ascii.lower (s.takeWhile Ascii.isSchemeChar), rest)
    | _ => none
  else none

def isSlash (special : Bool) (c : Char) : Bool := c == '/' || (special && c == '\\')

def endsPath (c : Char) : Bool := c == '?' || c == '#'

def splitUserinfo (s : List Char) : Option (List Char × List Char) :=
  if s.contains '@' then
    let after := (s.reverse.takeWhile (· ≠ '@')).reverse
    some (s.take (s.length - after.length - 1), after)
  else none

/-- The text before the first colon that is not between brackets, and the rest. -/
def splitPort (inside : Bool) : List Char → List Char × List Char
  | [] => ([], [])
  | c :: s =>
    if c == ':' && !inside then ([], c :: s)
    else
      let (host, rest) := splitPort (if c == '[' then true else if c == ']' then false else inside) s
      (c :: host, rest)

def readPort (scheme : List Char) (s : List Char) :
    Except UrlError (Option Nat × List Char) :=
  let digits := s.takeWhile Ascii.isDigit
  let rest := s.dropWhile Ascii.isDigit
  let port := Unsigned.value digits
  if 65536 ≤ port || !(rest.isEmpty || rest.head? = some '\\') then .error .badPort
  else .ok (if digits.isEmpty || defaultPort? scheme = some port then none else some port, rest)

structure Authority where
  username : List Char
  password : Option (List Char)
  host : Host
  port : Option Nat

def readUserinfo (s : List Char) : List Char × Option (List Char) :=
  let name := s.takeWhile (· ≠ ':')
  let word := (s.dropWhile (· ≠ ':')).drop 1
  (Percent.encode Percent.inUserinfo name,
    if word.isEmpty then none else some (Percent.encode Percent.inUserinfo word))

def readAuthority (scheme : List Char) (s : List Char) :
    Except UrlError (Authority × List Char) := do
  let special := (kindOf scheme).isSpecial
  let inAuthority := fun c => !(isSlash special c || endsPath c)
  let text := s.takeWhile inAuthority
  let rest := s.dropWhile inAuthority
  let (userinfo, server) := (splitUserinfo text).getD ([], text)
  if userinfo.isEmpty && text.contains '@' && server.isEmpty && !rest.isEmpty then
    throw .emptyHost
  let (username, password) := readUserinfo userinfo
  let (hostText, portText) :=
    let (h, p) := splitPort false server
    (h, p.drop 1)
  let hasColon := (splitPort false server).2.head? = some ':'
  if special && hostText.isEmpty then throw .emptyHost
  let host ← if special then Host.read hostText else Host.readLiteral hostText
  if host = .empty && hasColon then throw .emptyHost
  let (port, unread) ← readPort scheme portText
  if host = .empty && !(username.isEmpty && password.isNone) then throw .emptyHost
  return (⟨username, password, host, port⟩, unread ++ rest)

def isDot (s : List Char) : Bool := [".", "%2e", "%2E"].any (·.toList = s)

def isDoubleDot (s : List Char) : Bool :=
  ["..", "%2e%2e", "%2e%2E", "%2E%2e", "%2E%2E", "%2e.", "%2E.", ".%2e", ".%2E"].any (·.toList = s)

def isDrive : List Char → Bool
  | [l, c] => Ascii.isAlpha l && (c == ':' || c == '|')
  | _ => false

def dropLastSegment (ss : List (List Char)) : List (List Char) :=
  if (ss.getLast?.map isDrive).getD false then ss else ss.dropLast

/-- Adds the segments of a text to a path, going back at two dots and staying at one. A path ends
with an empty segment if its text ends with a slash or a dot segment. -/
def addSegments (ss : List (List Char)) : List (List Char) → List (List Char)
  | [] => ss
  | [w] =>
    if isDoubleDot w then dropLastSegment ss ++ [[]]
    else if isDot w then ss ++ [[]]
    else ss ++ [w]
  | w :: v :: ws =>
    if isDoubleDot w then addSegments (dropLastSegment ss) (v :: ws)
    else if isDot w then addSegments ss (v :: ws)
    else addSegments (ss ++ [w]) (v :: ws)

def segmentsOf (special : Bool) (s : List Char) : List (List Char) :=
  ((s.takeWhile (!endsPath ·)).splitOnP (isSlash special)).map (Percent.encode Percent.inPath)

def readPath (special : Bool) (ss : List (List Char)) (s : List Char) :
    List (List Char) × List Char :=
  (addSegments ss (segmentsOf special s), s.dropWhile (!endsPath ·))

def dropSlash (special : Bool) : List Char → List Char
  | c :: s => if isSlash special c then s else c :: s
  | [] => []

def readPathStart (special : Bool) (s : List Char) : List (List Char) × List Char :=
  if !special && (s.isEmpty || (s.head?.map endsPath).getD false) then ([], s)
  else readPath special [] (dropSlash special s)

def readQuery (special : Bool) (s : List Char) : List Char :=
  Percent.encode (if special then Percent.inSpecialQuery else Percent.inQuery) s

def readTail (special : Bool) (s : List Char) : Option (List Char) × Option (List Char) :=
  let fragment (t : List Char) : Option (List Char) :=
    match t with
    | '#' :: f => some (Percent.encode Percent.inFragment f)
    | _ => none
  match s with
  | '?' :: t => (some (readQuery special (t.takeWhile (· ≠ '#'))), fragment (t.dropWhile (· ≠ '#')))
  | t => (none, fragment t)

def withTail (u : Url) (s : List Char) : Url :=
  let (query, fragment) := readTail u.kind.isSpecial s
  { u with query, fragment }

def isNormalDrive (s : List Char) : Bool := isDrive s && s.getLast? = some ':'

/-- The first segment of a file path as a drive letter writes it, a name right behind the letter
being a segment of its own. -/
def driveSegments : List (List Char) → List (List Char)
  | [l, '|'] :: ws => if Ascii.isAlpha l then [l, ':'] :: ws else [l, '|'] :: ws
  | (l :: ':' :: c :: w) :: ws =>
    if Ascii.isAlpha l then [l, ':'] :: (c :: w) :: ws else (l :: ':' :: c :: w) :: ws
  | ws => ws

/-- Reads the path of a file, which does not start with an empty segment unless that is all. -/
def readFilePath (ss : List (List Char)) (s : List Char) : List (List Char) × List Char :=
  let words := segmentsOf true s
  let ss := addSegments ss (if ss.isEmpty then driveSegments words else words)
  let ss := ss.dropWhile (·.isEmpty)
  (if ss.isEmpty then [[]] else ss, s.dropWhile (!endsPath ·))

def startsWithDrive (s : List Char) : Bool :=
  isDrive (s.take 2) && match s.drop 2 with
    | [] => true
    | c :: _ => isSlash true c || endsPath c

def fileUrl (host : Host) (ss : List (List Char)) : Url :=
  { scheme := "file".toList, host := some host, path := .segments ss }

def readFileServer (s : List Char) : Except UrlError Url := do
  let inHost := fun c => !(isSlash true c || endsPath c)
  let text := s.takeWhile inHost
  if isDrive text then
    let (ss, rest) := readFilePath [] s
    return withTail (fileUrl .empty ss) rest
  let host ← if text.isEmpty then pure .empty else Host.read text
  let host := if host = .domain "localhost".toList then .empty else host
  let (ss, rest) := readFilePath [] (dropSlash true (s.dropWhile inHost))
  let host := if (ss.head?.map isNormalDrive).getD false then .empty else host
  return withTail (fileUrl host ss) rest

def pathSegments (u : Url) : List (List Char) :=
  match u.path with
  | .segments ss => ss
  | .whole _ => []

def readFile (base? : Option Url) (s : List Char) : Except UrlError Url :=
  match s with
  | c :: t =>
    if isSlash true c then
      match t with
      | d :: t' =>
        if isSlash true d then readFileServer t'
        else .ok (onDrive base? t)
      | [] => .ok (onDrive base? t)
    else .ok (relative base? s)
  | [] => .ok (relative base? s)
where
  onDrive (base? : Option Url) (s : List Char) : Url :=
    let (host, ss) : Host × List (List Char) :=
      if startsWithDrive s then (.empty, [])
      else match base? with
        | none => (.empty, [])
        | some b =>
          match (pathSegments b).head? with
          | some d => if isNormalDrive d then (.empty, [d]) else (b.host.getD .empty, [])
          | none => (b.host.getD .empty, [])
    let (ss, rest) := readFilePath ss s
    withTail (fileUrl host ss) rest
  relative (base? : Option Url) (s : List Char) : Url :=
    match base? with
    | none =>
      let (ss, rest) := readFilePath [] s
      withTail (fileUrl .empty ss) rest
    | some b =>
      match s with
      | [] => { b with fragment := none }
      | '?' :: _ => withTail b s
      | '#' :: _ => { withTail b s with query := b.query }
      | _ =>
        if startsWithDrive s then
          let (ss, rest) := readFilePath [] s
          withTail (fileUrl .empty ss) rest
        else
          let (ss, rest) := readFilePath (dropLastSegment (pathSegments b)) s
          withTail { b with path := .segments ss } rest

def readServer (scheme : List Char) (s : List Char) : Except UrlError Url := do
  let (a, rest) ← readAuthority scheme s
  let (ss, rest) := readPathStart (kindOf scheme).isSpecial rest
  return withTail
    { scheme, username := a.username, password := a.password, host := some a.host, port := a.port,
      path := .segments ss } rest

def readOther (scheme : List Char) (s : List Char) : Except UrlError Url :=
  match s with
  | '/' :: '/' :: t => readServer scheme t
  | '/' :: t =>
    let (ss, rest) := readPath false [] t
    .ok (withTail { scheme, path := .segments ss } rest)
  | _ =>
    .ok (withTail
      { scheme, path := .whole (Percent.encode Percent.isControl (s.takeWhile (!endsPath ·))) }
      (s.dropWhile (!endsPath ·)))

/-- Reads a reference without a scheme, or with the scheme of a special base and no server. -/
def readRelative (base : Url) (s : List Char) : Except UrlError Url :=
  let special := base.kind.isSpecial
  let slashes := s.takeWhile (isSlash true)
  match s with
  | [] => .ok { base with fragment := none }
  | '?' :: _ => .ok (withTail base s)
  | '#' :: _ => .ok { withTail base s with query := base.query }
  | c :: t =>
    if 2 ≤ slashes.length then
      readServer base.scheme
        (if slashes.take 2 = "//".toList then s.drop 2 else s.drop slashes.length)
    else if isSlash true c then
      let (ss, rest) := readPath special [] t
      .ok (withTail { base with path := .segments ss } rest)
    else
      let (ss, rest) := readPath special (pathSegments base).dropLast s
      .ok (withTail { base with path := .segments ss } rest)

def readWeb (base? : Option Url) (scheme : List Char) (s : List Char) : Except UrlError Url :=
  let slashes := s.takeWhile (isSlash true)
  match base? with
  | some base =>
    if slashes.length < 2 && base.scheme = scheme then readRelative base s
    else readServer scheme (s.drop slashes.length)
  | none => readServer scheme (s.drop slashes.length)

def read (base? : Option Url) (input : List Char) : Except UrlError Url :=
  let s := clean input
  match splitScheme? s with
  | some (scheme, rest) =>
    match kindOf scheme with
    | .file => readFile (base?.filter (·.kind = .file)) rest
    | .web => readWeb base? scheme rest
    | .other => readOther scheme rest
  | none =>
    match base? with
    | none => .error .noBase
    | some base =>
      match s, base.path with
      | '#' :: _, _ => .ok { withTail base s with query := base.query }
      | _, .whole _ => .error .opaqueBase
      | _, .segments _ => if base.kind = .file then readFile (some base) s else readRelative base s

end Parser

def parse (s : List Char) : Except UrlError Url := Parser.read none s

def join (base : Url) (s : List Char) : Except UrlError Url := Parser.read (some base) s

end ScrapeCourier.Url
