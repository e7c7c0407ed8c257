import ScrapeCourier.Http.Message
import ScrapeCourier.Text.Base64
import ScrapeCourier.Url.Basic
import ScrapeCourier.Url.Percent

namespace ScrapeCourier

open Http

structure Call where
  method : Method
  url : Url
  fields : Fields
  body : Octets

def Url.withoutUserinfo (u : Url) : Url := { u with username := [], password := none }

namespace Call

def plain? (s : List Char) : Option (List Char) := Utf8.decode? (Url.Percent.decode (Utf8.encode s))

/-- The name and the password in a URL. A password that is no text counts as none, and a name that
is no text leaves both where they are. -/
def credentials? (u : Url) : Option (List Char × Option (List Char)) := do
  let name ← plain? u.username
  let word := u.password.bind plain?
  if name.isEmpty && word.isNone then none else some (name, word)

def basic (name : List Char) (word : Option (List Char)) : FieldValue :=
  { (FieldValue.ofOctets? (Octets.ofAscii "Basic " ++
      Base64.encode (Utf8.encode (name ++ ':' :: word.getD [])))).getD .empty with secret := true }

/-- Without the user in the URL, who is named in a field unless the request has such a field. -/
def signed (c : Call) : Call :=
  match credentials? c.url with
  | none => c
  | some (name, word) =>
    { c with
      url := c.url.withoutUserinfo
      fields := if c.fields.has .authorization then c.fields
        else c.fields.insert .authorization (basic name word) }

def anyType : FieldValue := { octets := Octets.ofAscii "*/*", valid := by decide }

def accepting (c : Call) : Call :=
  if c.fields.has .accept then c else { c with fields := c.fields.insert .accept anyType }

/-- Only URLs of the web that are request targets too can be asked for. -/
def isPossible (u : Url) : Bool :=
  (u.scheme = "http".toList || u.scheme = "https".toList) && u.hasNamedHost &&
    (Target.parse u.chars).isOk

end Call

end ScrapeCourier
