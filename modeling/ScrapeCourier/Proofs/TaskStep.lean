import ScrapeCourier.Proofs.RelayEndpoint

namespace ScrapeCourier

namespace Exchange

variable {x y : Exchange} {r : Reply}

theorem of_receive_waiting (h : x.receive r = .waiting y) :
    ∃ b, r = .answer b ∧ Redirect.next? x.call b.status b.fields = some (.ok y.call) ∧
      y.followed = x.followed + 1 ∧ x.followed < maxRedirects := by
  cases r with
  | lost kind => cases h
  | answer b =>
    rw [receive] at h
    split at h
    next c hc =>
      rw [redirected] at h
      split at h
      · cases h
      next hf =>
        split at h
        · cases h
          exact ⟨b, rfl, hc, rfl, Nat.lt_of_not_le hf⟩
        · cases h
    · cases h
    · cases h

theorem of_receive_answer {a : Answer TransportError} (h : x.receive r = .ended (.ok a)) :
    ∃ b, r = .answer b ∧ Redirect.next? x.call b.status b.fields = none ∧
      a = located x.call.url b := by
  cases r with
  | lost kind => cases h
  | answer b =>
    rw [receive] at h
    split at h
    · rw [redirected] at h
      split at h
      · cases h
      · split at h
        · cases h
        · cases h
    · cases h
    next hn =>
      cases h
      exact ⟨b, rfl, hn, rfl⟩

end Exchange

namespace Task

/-- What keeps a job from being sent to its target, and the deadline that it has then. -/
inductive Stopped (a : Agent) (j : Job) (o : Outset) : JobError → Option Duration → Prop
  | untimed {cause : JobError} (hd : j.deadline o.received = .error cause) :
    Stopped a j o cause none
  | unprepared {cause : JobError} {d : Duration} (hd : j.deadline o.received = .ok d)
    (hp : j.prepare a.config o.files = .error cause) : Stopped a j o cause (some d)
  | expired {d : Duration} {prepared : Call} (hd : j.deadline o.received = .ok d)
    (hp : j.prepare a.config o.files = .ok prepared) (hz : (d.minus o.now).isZero) :
    Stopped a j o (.deadlineExceeded prepared.url.chars) (some d)
  | unsupported {d : Duration} {prepared : Call} {cause : TransportError}
    (hd : j.deadline o.received = .ok d) (hp : j.prepare a.config o.files = .ok prepared)
    (hx : Exchange.start prepared = .ended (.error cause)) :
    Stopped a j o (Execution.failure prepared.url cause) (some d)

/-- What an event can make of a task, with the notices given of it. -/
inductive Moves (a : Agent) : Task → Event → Step → Prop
  | stay (t : Task) (ev : Event) : Moves a t ev (t, [])
  | stop {j : Job} {o : Outset} {cause : JobError} {d : Option Duration}
    (h : Stopped a j o cause d) :
    Moves a (.claimed j) (.begin o) (deliver a j ⟨.error cause, d⟩ o.now)
  | ask {j : Job} {o : Outset} {d : Duration} {prepared : Call} {x : Exchange}
    (hd : j.deadline o.received = .ok d) (hp : j.prepare a.config o.files = .ok prepared)
    (hz : ¬(d.minus o.now).isZero) (hx : Exchange.start prepared = .waiting x) :
    Moves a (.claimed j) (.begin o) (.scraping j d prepared x, [.called .scrape x])
  | follow {j : Job} {d now : Duration} {prepared : Call} {x y : Exchange} {r : Reply}
    (hy : x.receive r = .waiting y) :
    Moves a (.scraping j d prepared x) (.reply r now)
      (.scraping j d prepared y, [.called .scrape y])
  | conclude {j : Job} {d now : Duration} {prepared : Call} {x : Exchange} {r : Reply} {o : Outcome}
    (ho : x.receive r = .ended o) :
    Moves a (.scraping j d prepared x) (.reply r now)
      (deliver a j ⟨Execution.conclude prepared.url o, some d⟩ now)
  | push {j : Job} {e : Execution} {since now : Duration} {x : Exchange} {r : Reply} :
    Moves a (.pushing j e since x) (.reply r now) (pushed j e since (x.receive r))

theorem moves_begin (a : Agent) (j : Job) (o : Outset) :
    Moves a (.claimed j) (.begin o) (begin a j o) := by
  rw [begin]
  split
  next cause hd => exact .stop (.untimed hd)
  next d hd =>
    split
    next cause hp => exact .stop (.unprepared hd hp)
    next prepared hp =>
      split
      next hz => exact .stop (.expired hd hp hz)
      next hz =>
        cases hx : Exchange.start prepared with
        | waiting x => exact .ask hd hp hz hx
        | ended o =>
          cases o with
          | error cause => exact .stop (.unsupported hd hp hx)
          | ok b =>
            rw [Exchange.start_eq] at hx
            split at hx
            · cases hx
            · cases hx

theorem moves_step (a : Agent) (t : Task) (ev : Event) : Moves a t ev (t.step a ev) := by
  cases t with
  | claimed j =>
    cases ev with
    | begin o => exact moves_begin a j o
    | reply r now => exact .stay _ _
  | scraping j d prepared x =>
    cases ev with
    | begin o => exact .stay _ _
    | reply r now =>
      rw [step]
      cases hr : x.receive r with
      | waiting y => exact .follow hr
      | ended o => exact .conclude hr
  | pushing j e since x =>
    cases ev with
    | begin o => exact .stay _ _
    | reply r now => exact .push
  | done j e since outcome =>
    cases ev with
    | begin o => exact .stay _ _
    | reply r now => exact .stay _ _

end Task

end ScrapeCourier
