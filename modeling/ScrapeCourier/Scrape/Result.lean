import ScrapeCourier.Scrape.Preparation

namespace ScrapeCourier

open Http

structure ScrapeResult where
  status : Status
  fields : Fields
  body : Octets

namespace ScrapeResult

def ofError (e : JobError) : ScrapeResult :=
  ⟨.internalError, .empty, Utf8.encode e.message.toList⟩

def isError (r : ScrapeResult) : Bool := !r.status.isSuccess

def remainingField : FieldName :=
  ⟨Octets.ofAscii "x-prometheus-scrape-timeout", by decide, by decide, by decide⟩

def remainingValue (left : Duration) : FieldValue :=
  (FieldValue.ofOctets? (Utf8.encode left.sixPlaces)).getD .empty

/-- The message for a result, with the job's id and the time left in the place of any such field of
the answer. -/
def encode (id : FieldValue) (left : Duration) (r : ScrapeResult) : Octets :=
  Response.encode
    ⟨r.status, .http11, (r.fields.insert .id id).insert remainingField (remainingValue left), r.body⟩

def pushBound (left grace : Duration) : Duration := left.max grace

end ScrapeResult

end ScrapeCourier
