import ScrapeCourier.Text.Blank
import ScrapeCourier.Url.Change

namespace ScrapeCourier

structure BadUrl where
  text : List Char
  cause : Url.UrlError

def BadUrl.message (e : BadUrl) : String :=
  "invalid URL " ++ String.ofList e.text ++ ": " ++ e.cause.message

namespace Endpoint

/-- Without blanks at the ends, and with one slash in the place of any at the end. -/
def baseText (raw : List Char) : List Char :=
  ((Blank.trim raw).reverse.dropWhile (· == '/')).reverse ++ ['/']

def readBase (raw : List Char) : Except BadUrl Url :=
  (Url.parse (baseText raw)).mapError (⟨raw, ·⟩)

def ofRelay (base : Url) (leg : List Char) : Except BadUrl Url :=
  (base.join leg).mapError (⟨base.chars ++ leg, ·⟩)

end Endpoint

/-- A server that answers for every target, and what to select from it. -/
structure Federation where
  base : Url
  selectors : List (List Char)

def Federation.endpoint (f : Federation) : Except Url.UrlError Url := do
  let u ← f.base.join "federate".toList
  return u.setQueryPairs (f.selectors.map ("match[]".toList, ·))

end ScrapeCourier
