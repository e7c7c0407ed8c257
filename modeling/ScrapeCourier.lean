import ScrapeCourier.Main
import ScrapeCourier.Proofs.AgreedPort
import ScrapeCourier.Proofs.BaseUrl
import ScrapeCourier.Proofs.BearerToken
import ScrapeCourier.Proofs.ChunkedBody
import ScrapeCourier.Proofs.Delivery
import ScrapeCourier.Proofs.LoopbackHost
import ScrapeCourier.Proofs.MessageEnd
import ScrapeCourier.Proofs.NormalForm
import ScrapeCourier.Proofs.OriginTarget
import ScrapeCourier.Proofs.PlainTimeout
import ScrapeCourier.Proofs.PreparedParts
import ScrapeCourier.Proofs.PreparedPort
import ScrapeCourier.Proofs.RehearsedRun
import ScrapeCourier.Proofs.RelayAnswers
import ScrapeCourier.Proofs.RequestRoundTrip
import ScrapeCourier.Proofs.ResponseRoundTrip
import ScrapeCourier.Proofs.ResultReadBack
import ScrapeCourier.Proofs.RetryWaits
import ScrapeCourier.Proofs.SchemeOverride
import ScrapeCourier.Proofs.Selectors
import ScrapeCourier.Proofs.SessionCounts
import ScrapeCourier.Proofs.TargetTraffic
import ScrapeCourier.Proofs.UnfitJob
