import ScrapeCourier.Http.Status
import ScrapeCourier.Metrics.Counts
import ScrapeCourier.Url.Percent

namespace ScrapeCourier

open Http

structure Page where
  status : Status
  body : Option (String × String) := none

namespace Page

def badRequest : Status := ⟨400, by decide⟩
def methodNotAllowed : Status := ⟨405, by decide⟩

def textType : String := "text/plain; version=0.0.4"

/-- The named parts of a path, with escapes replaced. Parts that stand for other places are
refused, as are escapes that spell no text. -/
def parts? (path : List Char) : Option (List (List Char)) :=
  ((path.splitOn '/').filter (!·.isEmpty)).mapM fun part =>
    if part = ['.'] || part = ['.', '.'] then none
    else Utf8.decode? (Url.Percent.decode (Utf8.encode part))

def respond (c : Counts) (method path : List Char) : Page :=
  match parts? (path.takeWhile (· ≠ '?')) with
  | none => ⟨badRequest, none⟩
  | some parts =>
    if parts ≠ ["metrics".toList] then ⟨.notFound, none⟩
    else if method.map Ascii.toUpper = "GET".toList then ⟨.ok, some (textType, c.text)⟩
    else ⟨methodNotAllowed, none⟩

end Page

end ScrapeCourier
