import ScrapeCourier.Proofs.PreparedPort

namespace ScrapeCourier

open Http Preparation

section Prepared

variable {c : Config} {files : Files} {j : Job} {call : Call}

theorem Config.exists_port_of_validate (hv : c.validate = .ok ()) (hl : c.useLocalhost) :
    ∃ p, c.allowPort = .only p := by
  cases ha : c.allowPort with
  | any =>
    rw [validate, hl, ha] at hv
    cases hv
  | only p => exact ⟨p, rfl⟩

theorem Job.host_of_prepare (hl : c.useLocalhost) (hc : c.federation = none)
    (h : j.prepare c files = .ok call) :
    match j.port with
    | none => call.url.host = j.url.host
    | some _ => call.url.host.map Url.Host.text = some loopbackName := by
  obtain ⟨u, v, fields, hu, hv, -, hw, -⟩ := prepare_cases hc h
  rw [if_pos hl] at hw
  cases hp : j.port with
  | none =>
    rw [hp] at hw
    rw [← Except.ok.inj hw, host_of_authorize hv, host_of_overrideScheme hu]
  | some q =>
    rw [hp] at hw
    rw [eq_pinned_of_toLoopback hw, pinned, Option.map_some, text_loopbackHost]

/-- An agent for the loopback address has a port. It asks that address and that port for a job that
names a port, and for any other job the host that the job names. -/
theorem Job.host_prepare (hvalid : c.validate = .ok ()) (hl : c.useLocalhost)
    (hc : c.federation = none) (h : j.prepare c files = .ok call) :
    (call.url.host.map Url.Host.text = some loopbackName ↔
      j.port.isSome ∨ j.url.host.map Url.Host.text = some loopbackName) ∧
    (j.port = none → call.url.host = j.url.host) ∧
    ∀ q, j.port = some q → c.allowPort = .only q ∧ call.url.effectivePort? = some q := by
  have hhost := host_of_prepare hl hc h
  obtain ⟨p, ha⟩ := c.exists_port_of_validate hvalid hl
  obtain ⟨u, v, fields, -, -, hcheck, hw, -⟩ := prepare_cases hc h
  cases hp : j.port with
  | none =>
    simp only [hp] at hhost
    rw [hhost]
    exact ⟨by simp, fun _ => rfl, nofun⟩
  | some q =>
    simp only [hp] at hhost
    refine ⟨iff_of_true hhost (.inl rfl), nofun, fun q' hq => ?_⟩
    cases hq
    rw [hp, ha] at hcheck
    rw [if_pos hl, hp] at hw
    exact ⟨eq_of_checkPort hcheck ▸ ha, effectivePort?_of_toLoopback hw⟩

end Prepared

namespace LoopbackExample

def raw : Octets := Octets.ofAscii "GET http://node1/metrics HTTP/1.1\r\n\r\n"

def job : Job where
  id := .empty
  method := .get
  url.scheme := "http".toList
  url.host := some (.domain "node1".toList)
  url.path := .segments ["metrics".toList]
  port := none
  fields := .empty
  body := []

def config : Config where
  fqdn := "node1"
  relay.scheme := "http".toList
  relay.path := .segments [[]]
  useLocalhost := true
  allowPort := .only 9100

def call : Call where
  method := .get
  url.scheme := "http".toList
  url.host := some (.domain "node1".toList)
  url.path := .segments ["metrics".toList]
  fields := .empty
  body := []

end LoopbackExample

open LoopbackExample in
theorem Job.host_prepare_portless :
    Job.decode raw = .ok job ∧ config.validate = .ok () ∧
      job.prepare config (fun _ => .error .notFound) = .ok call ∧
      call.url.host.map Url.Host.text ≠ some loopbackName := by
  have hj : Job.decode raw = .ok job := eq_ok_of_toOption (by decide +kernel)
  have hv : config.validate = .ok () := by rfl
  have hp : job.prepare config (fun _ => .error .notFound) = .ok call := by rfl
  refine ⟨hj, hv, hp, mt (Job.host_prepare hv rfl rfl hp).1.mp ?_⟩
  decide +kernel

end ScrapeCourier
