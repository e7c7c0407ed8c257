import ScrapeCourier.Agent.Session

namespace ScrapeCourier

/-- What a poll has brought, once it has come to an end. -/
def Progress.polled? : Progress → Option (Except PollError Job)
  | .waiting _ => none
  | .ended o => some (Poll.conclude o)

namespace Loop

def poll? : Loop → Option Exchange
  | .claiming x | .polling _ x => some x
  | _ => none

def backoff? : Loop → Option Backoff
  | .ready b | .polling b _ | .resting _ b => some b
  | _ => none

def awaiting (l : Loop) (x : Exchange) : Loop :=
  match l.backoff? with
  | some b => .polling b x
  | none => .claiming x

def afterJob (l : Loop) : Loop :=
  match l.backoff? with
  | some b => .ready b.reset
  | none => .idle

def afterFailure (l : Loop) : Loop :=
  match l.backoff? with
  | some b => .resting b.next.1 b.next.2
  | none => .idle

theorem poll?_afterJob (l : Loop) : l.afterJob.poll? = none := by
  rw [afterJob]
  split
  · rfl
  · rfl

theorem poll?_afterFailure (l : Loop) : l.afterFailure.poll? = none := by
  rw [afterFailure]
  split
  · rfl
  · rfl

def wait? (l : Loop) : Option Duration := l.backoff?.map (·.next.1)

theorem poll?_awaiting (l : Loop) (x : Exchange) : (l.awaiting x).poll? = some x := by
  rw [awaiting]
  split
  · rfl
  · rfl

theorem backoff?_awaiting (l : Loop) (x : Exchange) : (l.awaiting x).backoff? = l.backoff? := by
  rw [awaiting]
  split
  next h => exact h.symm
  next h => exact h.symm

end Loop

namespace Session

variable {a : Agent} {s : Session} {e : Event}

/-- How a poll goes on at an event that starts or answers one. -/
def pollAt? (a : Agent) (s : Session) : Event → Option Progress
  | .claim =>
    match s.loop with
    | .idle => some (startPoll a)
    | _ => none
  | .turn =>
    match s.loop with
    | .ready _ => some (startPoll a)
    | _ => none
  | .reply r => s.loop.poll?.map (·.receive r)
  | _ => none

/-- What a poll brings that comes to an end at an event. -/
def pollEnd? (a : Agent) (s : Session) (e : Event) : Option (Except PollError Job) :=
  (pollAt? a s e).bind Progress.polled?

theorem of_pollAt? {p : Progress} (he : pollAt? a s e = some p) :
    ((e = .claim ∨ e = .turn) ∧ startPoll a = p) ∨
      ∃ x r, e = .reply r ∧ s.loop.poll? = some x ∧ x.receive r = p := by
  cases e with
  | claim =>
    rw [pollAt?] at he
    split at he
    · exact .inl ⟨.inl rfl, Option.some.inj he⟩
    · cases he
  | turn =>
    rw [pollAt?] at he
    split at he
    · exact .inl ⟨.inr rfl, Option.some.inj he⟩
    · cases he
  | reply r =>
    obtain ⟨x, hx, hp⟩ := Option.map_eq_some_iff.mp he
    exact .inr ⟨x, r, rfl, hx, hp⟩
  | _ => cases he

/-- What may become of a session at an event for none of its tasks. -/
inductive LoopStep (a : Agent) (s : Session) : Event → Session → Prop
  | stay {e : Event} (he : pollAt? a s e = none) : LoopStep a s e s
  | call {e : Event} {x : Exchange} (he : pollAt? a s e = some (.waiting x)) :
    LoopStep a s e ({ s with loop := s.loop.awaiting x }.note none (.called .poll x))
  | take {e : Event} {o : Outcome} {j : Job} (he : pollAt? a s e = some (.ended o))
    (ho : Poll.conclude o = .ok j) :
    LoopStep a s e ({ s with loop := s.loop.afterJob }.enroll j)
  | miss {e : Event} {o : Outcome} {cause : PollError} (he : pollAt? a s e = some (.ended o))
    (ho : Poll.conclude o = .error cause) :
    LoopStep a s e
      ({ s with loop := s.loop.afterFailure }.note none (.pollFailed cause s.loop.wait?))
  | start (hl : s.loop = .idle) :
    LoopStep a s .run
      { s with loop := .ready (.start a.config.retryInitial a.config.retryLongest) }
  | wake {wait waited : Duration} {b : Backoff} (hl : s.loop = .resting wait b)
    (hw : wait.nanos ≤ waited.nanos) : LoopStep a s (.wake waited) { s with loop := .ready b }
  | stop {b : Backoff} (hb : s.loop.backoff? = some b) :
    LoopStep a s .shutdown { s with loop := .draining }
  | linger (hl : s.loop = .idle) : LoopStep a s .drain { s with loop := .draining }
  | settle {waited : Duration} (hl : s.loop = .draining)
    (hw : s.isQuiet ∨ a.config.drainTimeout.nanos ≤ waited.nanos) :
    LoopStep a s (.settle waited)
      ({ s with loop := .idle }.note none (.drained s.isQuiet))

def proceed (s : Session) : Progress → Session
  | .waiting x => { s with loop := s.loop.awaiting x }.note none (.called .poll x)
  | .ended o =>
    match Poll.conclude o with
    | .ok j => { s with loop := s.loop.afterJob }.enroll j
    | .error cause =>
      { s with loop := s.loop.afterFailure }.note none (.pollFailed cause s.loop.wait?)

theorem proceed_of_none (hb : s.loop.backoff? = none) (p : Progress) :
    s.proceed p = s.claimed p := by
  cases p with
  | waiting x => simp only [proceed, claimed, Loop.awaiting, hb]
  | ended o => simp only [proceed, claimed, Loop.afterJob, Loop.afterFailure, Loop.wait?, hb]; rfl

theorem proceed_of_some {b : Backoff} (hb : s.loop.backoff? = some b) (p : Progress) :
    s.proceed p = s.polled b p := by
  cases p with
  | waiting x => simp only [proceed, polled, Loop.awaiting, hb]
  | ended o => simp only [proceed, polled, Loop.afterJob, Loop.afterFailure, Loop.wait?, hb]; rfl

theorem step_of_pollAt? {p : Progress} (he : pollAt? a s e = some p) :
    s.step a e = s.proceed p := by
  cases e with
  | claim =>
    rw [pollAt?] at he
    split at he
    next hl =>
      cases he
      rw [proceed_of_none (by rw [hl]; rfl)]
      simp only [step, hl]
    · cases he
  | turn =>
    rw [pollAt?] at he
    split at he
    next b hl =>
      cases he
      rw [proceed_of_some (by rw [hl]; rfl)]
      simp only [step, hl]
    · cases he
  | reply r =>
    obtain ⟨x, hx, rfl⟩ := Option.map_eq_some_iff.mp he
    cases hl : s.loop with
    | claiming y =>
      cases hl ▸ hx
      rw [proceed_of_none (by rw [hl]; rfl)]
      simp only [step, hl]
    | polling b y =>
      cases hl ▸ hx
      rw [proceed_of_some (by rw [hl]; rfl)]
      simp only [step, hl]
    | _ => cases hl ▸ hx
  | _ => cases he

theorem loopStep_proceed {p : Progress} (he : pollAt? a s e = some p) :
    LoopStep a s e (s.proceed p) := by
  cases p with
  | waiting x => exact .call he
  | ended o =>
    rw [proceed]
    split
    next j ho => exact .take he ho
    next cause ho => exact .miss he ho

theorem step_cases (a : Agent) (s : Session) (e : Event) :
    (∃ i te, e = .task i te) ∨
      (∀ i te, e ≠ .task i te) ∧ LoopStep a s e (s.step a e) := by
  by_cases ht : ∃ i te, e = .task i te
  · exact .inl ht
  · refine .inr ⟨fun i te h => ht ⟨i, te, h⟩, ?_⟩
    -- Where a poll goes on all is said; anywhere else the kind of the event decides.
    cases he : pollAt? a s e with
    | some p =>
      rw [step_of_pollAt? he]
      exact loopStep_proceed he
    | none =>
      cases e with
      | task i te => exact absurd ⟨i, te, rfl⟩ ht
      | claim =>
        simp only [step]
        split
        next hl => simp only [pollAt?, hl] at he; cases he
        · exact .stay he
      | turn =>
        simp only [step]
        split
        next b hl => simp only [pollAt?, hl] at he; cases he
        · exact .stay he
      | reply r =>
        simp only [step]
        split
        next x hl => rw [pollAt?, hl] at he; cases he
        next b x hl => rw [pollAt?, hl] at he; cases he
        · exact .stay he
      | run =>
        simp only [step]
        split
        next hl => exact .start hl
        · exact .stay he
      | wake waited =>
        simp only [step]
        split
        next wait b hl =>
          split
          next hw => exact .wake hl hw
          · exact .stay he
        · exact .stay he
      | shutdown =>
        simp only [step]
        split
        next b hl => exact .stop (by rw [hl]; rfl)
        next b x hl => exact .stop (by rw [hl]; rfl)
        next wait b hl => exact .stop (by rw [hl]; rfl)
        · exact .stay he
      | drain =>
        simp only [step]
        split
        next hl => exact .linger hl
        · exact .stay he
      | settle waited =>
        simp only [step]
        split
        next hl =>
          split
          next hw => exact .settle hl (by simpa using hw)
          · exact .stay he
        · exact .stay he

theorem step_shutdown {b : Backoff} (hb : s.loop.backoff? = some b) :
    s.step a .shutdown = { s with loop := .draining } := by
  rw [step]
  cases hl : s.loop with
  | ready => rfl
  | polling => rfl
  | resting => rfl
  | _ => rw [hl] at hb; cases hb

/-- An agent that waits for its jobs goes on waiting unless none is under way or it takes too
long. -/
theorem step_settle (hl : s.loop = .draining) (waited : Duration) :
    s.step a (.settle waited) =
      if s.isQuiet ∨ a.config.drainTimeout.nanos ≤ waited.nanos then
        { s with loop := .idle }.note none (.drained s.isQuiet)
      else s := by
  simp only [step, hl, Bool.or_eq_true, decide_eq_true_eq]

theorem pollEnd?_eq_some {result : Except PollError Job} :
    pollEnd? a s e = some result ↔
      ∃ o, pollAt? a s e = some (.ended o) ∧ Poll.conclude o = result := by
  constructor
  · intro h
    obtain ⟨p, hp, h⟩ := Option.bind_eq_some_iff.mp h
    cases p with
    | waiting x => cases h
    | ended o => exact ⟨o, hp, Option.some.inj h⟩
  · rintro ⟨o, ho, rfl⟩
    rw [pollEnd?, ho]
    rfl

theorem step_of_ok {j : Job} (h : pollEnd? a s e = some (.ok j)) :
    s.step a e = { s with loop := s.loop.afterJob }.enroll j := by
  obtain ⟨o, he, ho⟩ := pollEnd?_eq_some.mp h
  rw [step_of_pollAt? he, proceed, ho]

theorem step_of_error {cause : PollError} (h : pollEnd? a s e = some (.error cause)) :
    s.step a e =
      { s with loop := s.loop.afterFailure }.note none (.pollFailed cause s.loop.wait?) := by
  obtain ⟨o, he, ho⟩ := pollEnd?_eq_some.mp h
  rw [step_of_pollAt? he, proceed, ho]

end Session

end ScrapeCourier
