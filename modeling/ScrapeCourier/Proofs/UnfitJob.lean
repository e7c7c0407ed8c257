import ScrapeCourier.Proofs.Preparable
import ScrapeCourier.Proofs.TargetTraffic
import ScrapeCourier.Proofs.Timeouts

namespace ScrapeCourier

open Http Preparation

namespace Job

/-- What makes a job one that cannot be done. -/
inductive Unfit (c : Config) (o : Task.Outset) (j : Job) : Prop
  | untimed (h : j.fields.first? timeoutField = none)
  | opaqueTimeout {v : FieldValue} (hv : j.fields.first? timeoutField = some v)
    (h : v.octets.all Octet.isVisible = false)
  | notNumber {v : FieldValue} {s : List Char} (hv : j.fields.first? timeoutField = some v)
    (hs : v.text? = some s) (h : Decimal.read? (Blank.trim s) = none)
  | negative {v : FieldValue} {s : List Char} {d : Decimal}
    (hv : j.fields.first? timeoutField = some v) (hs : v.text? = some s)
    (hd : Decimal.read? (Blank.trim s) = some d) (h : d.negative)
  /-- There is no point in time for its deadline. -/
  | tooLong {v : FieldValue} {s : List Char} {d : Decimal}
    (hv : j.fields.first? timeoutField = some v) (hs : v.text? = some s)
    (hd : Decimal.read? (Blank.trim s) = some d)
    (h : ∀ x t, d.seconds? = some x → Duration.ofRat? x = some t →
      UInt64.size / 2 * 1_000_000_000 ≤ o.received.nanos + t.nanos)
  | zero (h : j.timeout = .ok .zero)
  | otherPort {p q : Nat} (hc : c.allowPort = .only p) (hj : j.port = some q) (h : q ≠ p)
  | tokenUnread {path : String} {cause : FileError} (hc : c.tokenPath = some path)
    (h : o.files.readText path = .error cause)
  | badToken {path : String} {text : List Char} (hc : c.tokenPath = some path)
    (ht : o.files.readText path = .ok text)
    (h : (Utf8.encode (Blank.trim text)).all isFieldOctet = false)
  /-- It is to be asked for over https, but its URL has no host or is none of a special scheme. -/
  | insecure (ha : asksForHttps j.url ∨ c.tokenPath.isSome)
    (h : ¬(j.url.kind.isSpecial ∧ j.url.hasNamedHost))
  /-- The URL has no place for a host. -/
  | hostless {p : Nat} {s : List Char} (hc : c.useLocalhost) (hj : j.port = some p)
    (h : j.url.path = .whole s)
  /-- The URL has no place for a port. -/
  | portless {p : Nat} (hc : c.useLocalhost) (hj : j.port = some p)
    (ha : asksForHttps j.url = false) (ht : c.tokenPath = none) (h : j.url.kind = .file)
  | noEndpoint {f : Federation} {cause : Url.UrlError} (hc : c.federation = some f)
    (h : f.endpoint = .error cause)

/-- What a job is refused for, with the deadline that it has then. -/
inductive Refused (c : Config) (o : Task.Outset) (j : Job) : JobError → Option Duration → Prop
  | untimed {cause : JobError} (h : j.deadline o.received = .error cause) : Refused c o j cause none
  | unprepared {cause : JobError} {d : Duration} (hd : j.deadline o.received = .ok d)
    (hp : j.prepare c o.files = .error cause) : Refused c o j cause (some d)
  | expired {prepared : Call} (hd : j.deadline o.received = .ok .zero)
    (hp : j.prepare c o.files = .ok prepared) :
    Refused c o j (.deadlineExceeded prepared.url.chars) (some .zero)

variable {c : Config} {o : Task.Outset} {j : Job}

theorem exists_refused_of_deadline (h : ¬∃ d, j.deadline o.received = .ok d) :
    ∃ cause d, Refused c o j cause d := by
  obtain ⟨cause, hc⟩ := exists_error (not_exists.mp h)
  exact ⟨cause, none, .untimed hc⟩

theorem exists_refused_of_prepare (h : ¬j.Preparable c o.files) :
    ∃ cause d, Refused c o j cause d := by
  cases hd : j.deadline o.received with
  | error cause => exact ⟨cause, none, .untimed hd⟩
  | ok d =>
    obtain ⟨cause, hc⟩ := exists_error (not_exists.mp (exists_prepare_iff.not.mpr h))
    exact ⟨cause, some d, .unprepared hd hc⟩

theorem exists_refused_of_zero (h : j.timeout = .ok .zero) :
    ∃ cause d, Refused c o j cause d := by
  cases hr : inReach o.received .zero with
  | false =>
    refine exists_refused_of_deadline fun ⟨d, hd⟩ => ?_
    obtain ⟨ht, hr'⟩ := deadline_eq_ok.mp hd
    cases h.symm.trans ht
    cases hr.symm.trans hr'
  | true =>
    have hd : j.deadline o.received = .ok .zero := deadline_eq_ok.mpr ⟨h, hr⟩
    cases hp : j.prepare c o.files with
    | error cause => exact ⟨cause, _, .unprepared hd hp⟩
    | ok prepared => exact ⟨_, _, .expired hd hp⟩

theorem Unfit.exists_refused (h : j.Unfit c o) : ∃ cause d, Refused c o j cause d := by
  cases h with
  | untimed h =>
    refine exists_refused_of_deadline fun hd => ?_
    obtain ⟨v, _, _, _, _, hv, -⟩ := exists_deadline_iff.mp hd
    cases h.symm.trans hv
  | opaqueTimeout hv h =>
    refine exists_refused_of_deadline fun hd => ?_
    obtain ⟨v, s, _, _, _, hv', hs, -⟩ := exists_deadline_iff.mp hd
    cases hv.symm.trans hv'
    rw [FieldValue.text?, h] at hs
    cases hs
  | notNumber hv hs h =>
    refine exists_refused_of_deadline fun hd => ?_
    obtain ⟨v, s, n, _, _, hv', hs', hn, -⟩ := exists_deadline_iff.mp hd
    cases hv.symm.trans hv'
    cases hs.symm.trans hs'
    cases h.symm.trans hn
  | @negative v s n hv hs hn h =>
    -- A number that is as good as zero is read as zero, whatever its sign.
    cases hx : n.seconds? with
    | none =>
      refine exists_refused_of_deadline fun hd => ?_
      obtain ⟨x, _, hx', -⟩ := (exists_deadline_iff_of_read hv hs hn).mp hd
      cases hx.symm.trans hx'
    | some x =>
      rw [Decimal.eq_zero_of_negative h hx] at hx
      exact exists_refused_of_zero
        (timeout_eq_ok.mpr ⟨v, s, n, 0, hv, hs, hn, hx, Duration.ofRat?_zero⟩)
  | tooLong hv hs hn h =>
    refine exists_refused_of_deadline fun hd => ?_
    obtain ⟨x, t, hx, ht, hlt⟩ := (exists_deadline_iff_of_read hv hs hn).mp hd
    exact Nat.not_le_of_lt hlt (h x t hx ht)
  | zero h => exact exists_refused_of_zero h
  | otherPort hc hj h => exact exists_refused_of_prepare fun hp => h (hp.port _ _ hc hj)
  | tokenUnread hc h =>
    refine exists_refused_of_prepare fun hp => ?_
    obtain ⟨text, ht, -⟩ := hp.token _ hc
    cases h.symm.trans ht
  | badToken hc ht h =>
    refine exists_refused_of_prepare fun hp => ?_
    obtain ⟨text, ht', hvalid⟩ := hp.token _ hc
    cases ht.symm.trans ht'
    cases h.symm.trans hvalid
  | insecure ha h => exact exists_refused_of_prepare fun hp => h (hp.secure ha)
  | hostless hc hj h => exact exists_refused_of_prepare fun hp => (hp.loopback _ hc hj).1 _ h
  | portless hc hj ha ht h =>
    refine exists_refused_of_prepare fun hp => ?_
    simpa [ha, ht] using (hp.loopback _ hc hj).2 h
  | noEndpoint hc h =>
    refine exists_refused_of_prepare fun hp => ?_
    obtain ⟨u, hu⟩ := hp.endpoint _ hc
    cases h.symm.trans hu

theorem unfit_of_deadline (h : ¬∃ d, j.deadline o.received = .ok d) : j.Unfit c o := by
  cases hv : j.fields.first? timeoutField with
  | none => exact .untimed hv
  | some v =>
    cases hs : v.text? with
    | none =>
      refine .opaqueTimeout hv ?_
      rw [FieldValue.text?] at hs
      split at hs
      · cases hs
      next hvisible => exact (Bool.not_eq_true _).mp hvisible
    | some s =>
      cases hn : Decimal.read? (Blank.trim s) with
      | none => exact .notNumber hv hs hn
      | some n =>
        refine .tooLong hv hs hn fun x t hx ht => Nat.le_of_not_lt fun hlt => h ?_
        exact (exists_deadline_iff_of_read hv hs hn).mpr ⟨x, t, hx, ht, hlt⟩

/-- A job with a timeout of 2 ^ 63 seconds or more is unfit whenever it is received. -/
theorem Unfit.of_le {v : FieldValue} {s : List Char} {n : Decimal}
    (hv : j.fields.first? timeoutField = some v) (hs : v.text? = some s)
    (hn : Decimal.read? (Blank.trim s) = some n)
    (h : ∀ x, n.seconds? = some x → ((UInt64.size / 2 : Nat) : Rat) ≤ x) : j.Unfit c o :=
  .tooLong hv hs hn fun x _ hx ht => Duration.not_inReach (h x hx) ht o.received

theorem preparable_of_not_unfit (h : ¬j.Unfit c o) : j.Preparable c o.files where
  secure := fun ha => by
    by_contra hn
    exact h (.insecure ha hn)
  token := by
    intro path hc
    cases ht : o.files.readText path with
    | error cause => exact absurd (.tokenUnread hc ht) h
    | ok text =>
      refine ⟨text, rfl, ?_⟩
      by_contra hn
      exact h (.badToken hc ht ((Bool.not_eq_true _).mp hn))
  port := by
    intro p q hc hj
    by_contra hn
    exact h (.otherPort hc hj hn)
  loopback := by
    intro p hc hj
    refine ⟨fun s hs => h (.hostless hc hj hs), fun hk => ?_⟩
    by_contra hn
    obtain ⟨ha, ht⟩ := not_or.mp hn
    exact h (.portless hc hj ((Bool.not_eq_true _).mp ha) (by simpa using ht) hk)
  endpoint := by
    intro f hc
    cases he : f.endpoint with
    | error cause => exact absurd (.noEndpoint hc he) h
    | ok u => exact ⟨u, rfl⟩

/-- The jobs that are refused are the unfit ones, and no others. -/
theorem exists_refused_iff : (∃ cause d, Refused c o j cause d) ↔ j.Unfit c o := by
  constructor
  · rintro ⟨cause, d, h⟩
    by_contra hn
    cases h with
    | untimed hd =>
      refine hn (unfit_of_deadline fun hd' => ?_)
      obtain ⟨d, hd'⟩ := hd'
      cases hd.symm.trans hd'
    | unprepared _ hp =>
      obtain ⟨call, hp'⟩ := exists_prepare_iff.mpr (preparable_of_not_unfit hn)
      cases hp.symm.trans hp'
    | expired hd _ => exact hn (.zero (deadline_eq_ok.mp hd).1)
  · exact Unfit.exists_refused

end Job

/-- A message that says what was in the way of a job, and nothing else. -/
structure ScrapeResult.Reports (m : Response) (id : FieldValue) (left : Duration)
    (cause : JobError) : Prop where
  status : m.status.code = 500
  body : m.body = Utf8.encode cause.message.toList
  id : (m.fields.values .id).map (·.octets) = [id.octets]
  left : (m.fields.values remainingField).map (·.octets) = [Utf8.encode left.sixPlaces]
  others : ∀ n, n ≠ .id → n ≠ remainingField → n ≠ .contentLength → m.fields.values n = []

theorem ScrapeResult.Relays.reports {m : Response} {id : FieldValue} {left : Duration}
    {cause : JobError} (h : Relays m id left (.ofError cause)) : Reports m id left cause where
  status := congrArg Status.code h.status
  body := h.body
  id := h.id
  left := h.left
  others := by
    intro n hid hleft hlength
    by_cases hc : n = .transferEncoding ∨ n = .connection
    · obtain rfl | rfl := hc
      · exact h.framing.1
      · exact h.framing.2
    · obtain ⟨hcoding, hconnection⟩ := not_or.mp hc
      rw [h.kept n (by simp [isWritten, hid, hleft, hlength, hcoding, hconnection])]
      rfl

theorem Duration.sixPlaces_zero :
    Utf8.encode Duration.zero.sixPlaces = Octets.ofAscii "0.000000" := by
  decide +kernel

namespace Task

variable {a : Agent} {j : Job} {t : Task} {e : Execution} {cause : JobError}
  {deadline : Option Duration}

theorem begin_of_refused {o : Outset} (h : j.Refused a.config o cause deadline) :
    begin a j o = deliver a j ⟨.error cause, deadline⟩ o.now := by
  rw [begin]
  cases h with
  | untimed hd => simp only [hd]
  | unprepared hd hp => simp only [hd, hp]
  | expired hd hp =>
    have hz : (Duration.zero.minus o.now).isZero := decide_eq_true (Nat.zero_sub _)
    simp only [hd, hp, hz, if_true]

theorem execution?_run (h : t.execution? = some e) (es : List Event) :
    (t.run a es).1.execution? = some e ∧ scrapeCalls (t.run a es).2 = [] := by
  induction es generalizing t with
  | nil => exact ⟨h, rfl⟩
  | cons ev es ih =>
    obtain ⟨hrest, hcalls⟩ := ih (execution?_step h ev)
    refine ⟨hrest, ?_⟩
    rw [run, scrapeCalls_append, hcalls, scrapeCalls_of_moves (moves_step a t ev) h]
    rfl

theorem run_refused {es : List Event} (h : ∀ o,
      (Task.claimed j).Meets a es (.claimed j) (.begin o) →
        ∃ cause deadline, j.Refused a.config o cause deadline) :
    scrapeCalls ((Task.claimed j).run a es).2 = [] ∧
      (((∀ o, .begin o ∉ es) ∧ (Task.claimed j).run a es = (.claimed j, [])) ∨
        ∃ o cause deadline, (Task.claimed j).Meets a es (.claimed j) (.begin o) ∧
          j.Refused a.config o cause deadline ∧
            ((Task.claimed j).run a es).1.execution? = some ⟨.error cause, deadline⟩) := by
  -- Nothing but its beginning moves a claimed job, and the first one decides.
  induction es with
  | nil => exact ⟨rfl, .inl ⟨fun _ => List.not_mem_nil, rfl⟩⟩
  | cons ev es ih =>
    cases ev with
    | begin o =>
      have hmeets := meets_head a (.claimed j) (.begin o) es
      obtain ⟨cause, deadline, hr⟩ := h o hmeets
      have hstep : (Task.claimed j).step a (.begin o) =
          deliver a j ⟨.error cause, deadline⟩ o.now :=
        begin_of_refused hr
      have hhanded : ((Task.claimed j).step a (.begin o)).1.execution? =
          some ⟨.error cause, deadline⟩ := by
        rw [hstep]
        exact execution?_pushed j _ o.now _
      obtain ⟨he, hcalls⟩ := execution?_run hhanded es
      refine ⟨?_, .inr ⟨o, cause, deadline, hmeets, hr, he⟩⟩
      rw [run, scrapeCalls_append, hcalls, hstep, scrapeCalls_deliver]
      rfl
    | reply r now =>
      obtain ⟨hcalls, hrest⟩ := ih fun o hm => h o (Meets.tail (.reply r now) hm)
      refine ⟨hcalls, ?_⟩
      obtain ⟨hnone, hrun⟩ | ⟨o, cause, deadline, hm, hr, he⟩ := hrest
      · refine .inl ⟨fun o hmem => ?_, hrun⟩
        obtain hmem | hmem := List.mem_cons.mp hmem
        · cases hmem
        · exact hnone o hmem
      · exact .inr ⟨o, cause, deadline, Meets.tail (.reply r now) hm, hr, he⟩

theorem tells_add_run (t : Task) (es : List Event) (k : Tally) :
    (t.tells k).toNat + tallies k (t.run a es).2 = ((t.run a es).1.tells k).toNat := by
  induction es generalizing t with
  | nil => rfl
  | cons ev es ih =>
    have hstep := tells_add_of_moves (moves_step a t ev) k
    have hrest := ih (t.step a ev).1
    simp only [run, tallies_append]
    omega

end Task

namespace Session

variable {c : Config} {files : Files} {a : Agent} {s : Session} {es : List Event} {i : Nat}
  {t : Task}

structure Apart (s s' : Session) (i : Nat) : Prop where
  loop : s'.loop = s.loop
  pollErrors : s'.counts.pollErrors = s.counts.pollErrors
  jobs : s'.tasks.length = s.tasks.length
  tasks : ∀ k, k ≠ i → s'.tasks[k]? = s.tasks[k]?
  notices : ∀ k, k ≠ i → s'.noticesOf k = s.noticesOf k

theorem apart_advance (hs : s.Recorded) (i : Nat) (te : Task.Event) :
    s.Apart (s.advance a i te) i := by
  cases ht : s.tasks[i]? with
  | none =>
    rw [advance_of_none ht]
    exact ⟨rfl, rfl, rfl, fun _ _ => rfl, fun _ _ => rfl⟩
  | some t =>
    obtain ⟨htasks, hloop, hhistory⟩ := advance_eq (a := a) ht te
    have hpoll := Task.tells_add_of_moves (Task.moves_step a t te) .pollError
    rw [Task.tells_pollError, Task.tells_pollError, Nat.add_eq_left] at hpoll
    refine ⟨hloop, ?_, ?_, fun k hk => ?_, fun k hk => ?_⟩
    · rw [hs.advance i te, hs]
      simp only [Counts.ofNotices, notices_advance ht, tallies_append]
      omega
    · rw [htasks, List.length_set]
    · rw [htasks, List.getElem?_set_ne hk.symm]
    · rw [noticesOf_append _ hhistory, if_neg fun he => hk (Option.some.inj he).symm,
        List.append_nil]

/-- What becomes of a job that cannot be done. -/
structure TurnedDown (c : Config) (a : Agent) (es : List Event) (s : Session) (i : Nat)
    (t : Task) : Prop where
  /-- No target is asked; what is sent besides the push itself is where its answers lead. -/
  calls : ∀ leg x, .called leg x ∈ s.noticesOf i →
    leg = .push ∧ (x.followed = 0 → x ∈ s.pushesOf i)
  waiting : (∀ o, .begin o ∉ eventsOf a es i) → t = .claimed t.job ∧ s.pushesOf i = [] ∧
    tallies .scrapeError (s.noticesOf i) = 0
  begun : (∃ o, .begin o ∈ eventsOf a es i) → ∃ o cause deadline since x, BegunWith a es i o ∧
    Job.Refused c o t.job cause deadline ∧ t.execution? = some ⟨.error cause, deadline⟩ ∧
      tallies .scrapeError (s.noticesOf i) = 1 ∧ s.pushesOf i = [x] ∧
      (x.call.body.length < UInt64.size → ∃ m, Response.decode x.call.body = .ok m ∧
        ScrapeResult.Reports m t.job.id ((⟨.error cause, deadline⟩ : Execution).left since) cause ∧
        (deadline = none → (m.fields.values ScrapeResult.remainingField).map (·.octets) =
          [Octets.ofAscii "0.000000"]))
  begins : t = .claimed t.job → ∀ o, t.job.Unfit c o → ∃ cause deadline x,
    Job.Refused c o t.job cause deadline ∧
      Exchange.start (Push.call a.pushUrl (Task.message t.job ⟨.error cause, deadline⟩ o.now)) =
        .waiting x ∧
      s.step a (.task i (.begin o)) =
        (({ s with
            tasks := s.tasks.set i (.pushing t.job ⟨.error cause, deadline⟩ o.now x) }.note i
          (.scrapeFailed t.job cause)).note i (.called .push x)) ∧
      (s.step a (.task i (.begin o))).counts = s.counts.record .scrapeError
  apart : ∀ te, s.Apart (s.step a (.task i te)) i

theorem reports_of_push {cause : JobError} {deadline : Option Duration} {since : Duration}
    {x : Exchange} {j : Job} (hid : j.id.IsTrimmed)
    (hx : Exchange.start (Push.call a.pushUrl (Task.message j ⟨.error cause, deadline⟩ since)) =
      .waiting x) (hlength : x.call.body.length < UInt64.size) :
    ∃ m, Response.decode x.call.body = .ok m ∧
      ScrapeResult.Reports m j.id ((⟨.error cause, deadline⟩ : Execution).left since) cause := by
  obtain ⟨m, hm, hrelays⟩ := relays_of_push hid hx (Execution.hasRoom_error cause deadline) hlength
  exact ⟨m, hm, hrelays.reports⟩

theorem step_begin {o : Task.Outset} {cause : JobError} {deadline : Option Duration} {j : Job}
    {x : Exchange} (ht : s.tasks[i]? = some (.claimed j))
    (h : j.Refused a.config o cause deadline)
    (hx : Exchange.start (Push.call a.pushUrl (Task.message j ⟨.error cause, deadline⟩ o.now)) =
      .waiting x) :
    s.step a (.task i (.begin o)) =
      (({ s with tasks := s.tasks.set i (.pushing j ⟨.error cause, deadline⟩ o.now x) }.note i
        (.scrapeFailed j cause)).note i (.called .push x)) := by
  have hbegin : (Task.claimed j).step a (.begin o) =
      (.pushing j ⟨.error cause, deadline⟩ o.now x, [.scrapeFailed j cause, .called .push x]) := by
    rw [Task.step, Task.begin_of_refused h]
    simp only [Task.deliver, hx, Task.pushed]
    rfl
  simp only [step, advance, ht, hbegin]
  rfl

/-- A job that cannot be done with what there is when it is begun is turned down. -/
theorem turnedDown_run (ha : Agent.ofConfig c files = .ok a) (es : List Event) {s : Session}
    (hs : run a {} es = s) (ht : s.tasks[i]? = some t)
    (hu : ∀ o, BegunWith a es i o → t.job.Unfit c o) : TurnedDown c a es s i t := by
  cases hs
  obtain rfl := Agent.config_of_ofConfig ha
  obtain ⟨rs, hclaims⟩ := exists_claims ht
  have hpush := canPush_of_claims ha hclaims
  obtain ⟨hown, hnotices⟩ := own_run ht
  have hbegins (o : Task.Outset)
      (hm : (Task.claimed t.job).Meets a (eventsOf a es i) (.claimed t.job) (.begin o)) :
      ∃ cause deadline, t.job.Refused a.config o cause deadline :=
    (hu o ⟨_, meets_of_own ht hm⟩).exists_refused
  obtain ⟨hcalls, hrun⟩ := Task.run_refused hbegins
  have hscrapes : (run a {} es).scrapesOf i = [] := by
    rw [scrapesOf, hnotices]
    exact hcalls
  refine ⟨fun leg x hx => ?_, fun hnone => ?_, fun hbegun => ?_, fun hclaimed o ho => ?_,
    fun te => apart_advance (recorded_run a es) i te⟩
  · obtain hn | hn | hn := isOf_noticesOf ht _ hx
    · cases hn
    · have hmem : x ∈ (run a {} es).scrapesOf i := List.mem_filterMap.mpr ⟨_, hn ▸ hx, rfl⟩
      rw [hscrapes] at hmem
      cases hmem
    · refine ⟨hn, fun hfollowed => List.mem_filterMap.mpr ⟨_, hx, ?_⟩⟩
      rw [hn, Notice.pushStart?, if_pos hfollowed]
  · obtain ⟨-, hrun⟩ | ⟨o, -, -, ⟨pre, post, hmem, -⟩, -⟩ := hrun
    · rw [hrun] at hown hnotices
      rw [pushesOf, hnotices]
      exact ⟨hown, rfl, rfl⟩
    · exact absurd (hmem ▸ List.mem_append_right pre List.mem_cons_self) (hnone o)
  · obtain ⟨hnone, -⟩ | ⟨o, cause, deadline, hm, hrefused, he⟩ := hrun
    · obtain ⟨o, hbegin⟩ := hbegun
      exact absurd hbegin (hnone o)
    · rw [← hown] at he
      obtain ⟨hn, -⟩ | ⟨e, since, x, he', hpushes, hx⟩ := pushesOf_cases hpush ht
      · cases hn.symm.trans he
      · cases he.symm.trans he'
        obtain ⟨raw, hraw⟩ := hclaims.exists_decode
        refine ⟨o, cause, deadline, since, x, ⟨_, meets_of_own ht hm⟩, hrefused, he, ?_, hpushes,
          fun hlength => ?_⟩
        · have htells := Task.tells_add_run (a := a) (.claimed t.job) (eventsOf a es i) .scrapeError
          rw [← hown, Task.tells_scrapeError t, Task.hasFailed_of_execution? he] at htells
          rw [hnotices]
          exact (Nat.zero_add _).symm.trans htells
        · obtain ⟨m, hm, hreports⟩ := reports_of_push (Job.id_of_decode hraw).2 hx hlength
          refine ⟨m, hm, hreports, ?_⟩
          rintro rfl
          exact hreports.left.trans (congrArg ([·]) Duration.sixPlaces_zero)
  · rw [hclaimed] at ht
    obtain ⟨cause, deadline, hrefused⟩ := ho.exists_refused
    obtain ⟨x, hx⟩ := hpush (Task.message t.job ⟨.error cause, deadline⟩ o.now)
    have hstep := step_begin ht hrefused hx
    refine ⟨cause, deadline, x, hrefused, hx, hstep, ?_⟩
    rw [hstep]
    rfl

namespace UnfitExample

def events : List Event :=
  [.claim, .reply (Example.answer .empty "GET http://t/ HTTP/1.1\r\nId: 7\r\n\r\n"),
    .task 0 (.begin {})]

end UnfitExample

open UnfitExample in
theorem turnedDown_run_untimed :
    ∃ x m, (run Example.agent {} events).pushesOf 0 = [x] ∧ Response.decode x.call.body = .ok m ∧
      m.status.code = 500 ∧
      (m.fields.values ScrapeResult.remainingField).map (·.octets) =
        [Octets.ofAscii "0.000000"] := by
  have hagent : Agent.ofConfig Example.config (fun _ => .ok []) = .ok Example.agent := by rfl
  have hrun : ((run Example.agent {} events).tasks.map fun t =>
        t.job.fields.first? Job.timeoutField) = [none] ∧
      0 < (eventsOf Example.agent events 0).length ∧
      ((run Example.agent {} events).pushesOf 0).all (·.call.body.length < UInt64.size) := by
    decide +kernel
  obtain ⟨htasks, hlength, hsize⟩ := hrun
  obtain ⟨t, ts, hts, hfield, -⟩ := List.map_eq_cons_iff.mp htasks
  have hfirst : (run Example.agent {} events).tasks[0]? = some t := by
    rw [hts]
    rfl
  have hdown := turnedDown_run hagent events rfl hfirst fun o _ => .untimed hfield
  obtain ⟨ev, hev⟩ := List.exists_mem_of_length_pos hlength
  have hbegin : ev = .begin {} := by simpa [events] using mem_of_mem_eventsOf hev
  obtain ⟨o, cause, deadline, since, x, -, hrefused, -, -, hpushes, hread⟩ :=
    hdown.begun ⟨{}, hbegin ▸ hev⟩
  rw [hpushes] at hsize
  obtain ⟨m, hm, hreports, hleft⟩ := hread (by simpa using hsize)
  refine ⟨x, m, hpushes, hm, hreports.status, hleft ?_⟩
  have hdeadline (d : Duration) : t.job.deadline o.received ≠ .ok d := by
    intro hd
    obtain ⟨v, _, _, _, _, hv, -⟩ := Job.exists_deadline_iff.mp ⟨d, hd⟩
    cases hfield.symm.trans hv
  cases hrefused with
  | untimed => rfl
  | unprepared hd => exact absurd hd (hdeadline _)
  | expired hd => exact absurd hd (hdeadline _)

end Session

end ScrapeCourier
