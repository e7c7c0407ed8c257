import ScrapeCourier.Proofs.Multimap
import ScrapeCourier.Proofs.PreparedCall

namespace ScrapeCourier

open Http Preparation

section Prepared

variable {c : Config} {files : Files} {j : Job} {call : Call} {path : String}

theorem Job.authorization_of_prepare (hc : c.tokenPath = some path)
    (h : j.prepare c files = .ok call) :
    ∃ w, readBearer files path = .ok w ∧ call.fields.values .authorization = [w] := by
  obtain ⟨u, v, hv⟩ := fields_of_prepare h
  rw [hc] at hv
  obtain ⟨token, hw, hfields, -⟩ := authorize_some hv
  exact ⟨token, hw, by rw [hfields, Fields.values_insert_self]⟩

theorem Job.scheme_of_prepare (hc : c.tokenPath = some path) (h : j.prepare c files = .ok call) :
    call.url.scheme = (c.federation.map (·.base.scheme)).getD "https".toList := by
  obtain ⟨u, v, w, fields, -, hv, -, hw, hcall⟩ := of_prepare h
  rw [hc] at hv
  obtain ⟨-, -, -, hsecured⟩ := authorize_some hv
  cases hf : c.federation with
  | none =>
    rw [hf] at hcall
    have hscheme : v.scheme = "https".toList := by rw [(toHttps_eq_ok.mp hsecured).2, secured]
    rw [hcall, Option.map_none, Option.getD_none, ← hscheme]
    split at hw
    · exact scheme_of_toLoopback hw
    · rw [Except.ok.inj hw]
  | some f =>
    rw [hf] at hcall
    exact Federation.scheme_endpoint hcall.1

/-- With a token, a request is prepared with exactly that token, and for https unless a federating
server stands behind another scheme. -/
theorem Job.prepare_bearer (hc : c.tokenPath = some path) (h : j.prepare c files = .ok call) :
    (∃ octets text, files path = .ok octets ∧ Utf8.decode? octets = some text ∧
      (call.fields.values .authorization).map (·.octets) =
        [Octets.ofAscii "Bearer " ++ Utf8.encode (Blank.trim text)]) ∧
    (call.url.scheme = "https".toList ↔
      ∀ f, c.federation = some f → f.base.scheme = "https".toList) := by
  constructor
  · obtain ⟨w, hw, hvalues⟩ := authorization_of_prepare hc h
    obtain ⟨octets, text, hoctets, htext, hw, -⟩ := exists_text_of_readBearer hw
    exact ⟨octets, text, hoctets, htext, by rw [hvalues, List.map_singleton, hw]⟩
  · rw [scheme_of_prepare hc h]
    cases c.federation with
    | none => exact ⟨nofun, fun _ => rfl⟩
    | some f =>
      exact ⟨fun hs g hg => Option.some.inj hg ▸ hs, fun hs => hs f rfl⟩

end Prepared

namespace BearerExample

def config : Config where
  fqdn := "node1"
  relay.scheme := "http".toList
  relay.path := .segments [[]]
  tokenPath := some "token"
  federation := some {
    base.scheme := "http".toList
    base.host := some (.domain "prometheus".toList)
    base.port := some 9090
    base.path := .segments [[]]
    selectors := ["up".toList] }

def files : Files := fun _ => .ok (Octets.ofAscii "s3cret\n")

def job : Job where
  id := .empty
  method := .get
  url.scheme := "http".toList
  url.host := some (.domain "node1".toList)
  url.port := some 9100
  url.path := .segments ["metrics".toList]
  port := some 9100
  fields := .empty
  body := []

def call : Call where
  method := .get
  url.scheme := "http".toList
  url.host := some (.domain "prometheus".toList)
  url.port := some 9090
  url.path := .segments ["federate".toList]
  url.query := some "match%5B%5D=up".toList
  fields := Fields.empty.insert .authorization
    { octets := Octets.ofAscii "Bearer s3cret", valid := by decide, secret := true }
  body := []

end BearerExample

open BearerExample in
theorem Job.prepare_bearer_federated :
    config.tokenPath = some "token" ∧ job.prepare config files = .ok call ∧
      (call.fields.values .authorization).map (·.octets) = [Octets.ofAscii "Bearer s3cret"] ∧
      call.url.scheme ≠ "https".toList := by
  have hp : job.prepare config files = .ok call := by rfl
  obtain ⟨⟨octets, text, hoctets, htext, hvalues⟩, hscheme⟩ := Job.prepare_bearer rfl hp
  refine ⟨rfl, hp, ?_, ?_⟩
  · rw [hvalues]
    cases hoctets
    cases htext
    rfl
  · exact fun he => absurd (hscheme.mp he _ rfl) (by decide)

end ScrapeCourier
