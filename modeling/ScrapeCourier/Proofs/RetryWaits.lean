import ScrapeCourier.Proofs.Delivery
import ScrapeCourier.Proofs.NoticeCounts
import ScrapeCourier.Proofs.WaitGrowth

namespace ScrapeCourier

def Config.backoff (c : Config) : Backoff := .start c.retryInitial c.retryLongest

namespace Loop

variable {l : Loop} {b : Backoff} {n : Nat}

/-- After so many failures, the waits to come are those behind so many others, and a wait under way
is the last one of these. -/
def Paced (b : Backoff) (n : Nat) : Loop → Prop
  | .ready b' | .polling b' _ => b' = b.after n
  | .resting w b' => b' = b.after n ∧ ∃ k, n = k + 1 ∧ w = b.wait k
  | _ => True

theorem paced_of_none (hl : l.backoff? = none) (n : Nat) : l.Paced b n := by
  cases l with
  | idle => trivial
  | claiming => trivial
  | draining => trivial
  | _ => cases hl

theorem Paced.eq_after (h : l.Paced b n) {b' : Backoff} (hl : l.backoff? = some b') :
    b' = b.after n := by
  cases l with
  | ready => cases hl; exact h
  | polling => cases hl; exact h
  | resting => cases hl; exact h.1
  | _ => cases hl

theorem Paced.awaiting (h : l.Paced b n) (x : Exchange) : (l.awaiting x).Paced b n := by
  rw [Loop.awaiting]
  split
  next b' hl => exact h.eq_after hl
  · trivial

theorem Paced.afterJob (h : l.Paced b n) (hb : b.reset = b) : l.afterJob.Paced b 0 := by
  rw [Loop.afterJob]
  split
  next b' hl =>
    rw [h.eq_after hl, Backoff.reset_after, hb]
    exact rfl
  · trivial

theorem Paced.afterFailure (h : l.Paced b n) : l.afterFailure.Paced b (n + 1) := by
  rw [Loop.afterFailure]
  split
  next b' hl =>
    rw [h.eq_after hl]
    exact ⟨rfl, n, rfl, rfl⟩
  · trivial

end Loop

namespace Task

variable {a : Agent} {t : Task}

def awaits : Task → Event → Bool
  | .claimed _, .begin _ | .scraping .., .reply .. | .pushing .., .reply .. => true
  | _, _ => false

def awaited (a : Agent) : Task → List Event → Nat
  | _, [] => 0
  | t, ev :: es => (t.awaits ev).toNat + awaited a (t.step a ev).1 es

def ahead : Task → Nat
  | .claimed _ => 2 * Exchange.maxRedirects + 3
  | .scraping _ _ _ x => Exchange.maxRedirects - x.followed + (Exchange.maxRedirects + 2)
  | .pushing _ _ _ x => Exchange.maxRedirects - x.followed + 1
  | .done .. => 0

theorem ahead_le (t : Task) : t.ahead ≤ 2 * Exchange.maxRedirects + 3 := by
  cases t <;> simp only [ahead] <;> omega

theorem isDone_of_ahead (h : t.ahead = 0) : t.isDone := by
  cases t with
  | done => rfl
  | _ => simp only [ahead] at h; omega

theorem exists_awaits (h : t.isDone = false) : ∃ ev, t.awaits ev := by
  cases t with
  | claimed j => exact ⟨.begin {}, rfl⟩
  | scraping j d prepared x => exact ⟨.reply (.lost .timeout) .zero, rfl⟩
  | pushing j e since x => exact ⟨.reply (.lost .timeout) .zero, rfl⟩
  | done => cases h

theorem ahead_ended (j : Job) (e : Execution) (since : Duration) (o : Outcome) :
    (pushed j e since (.ended o)).1.ahead = 0 := by
  rw [pushed]
  split
  · rfl
  · rfl

theorem ahead_deliver (a : Agent) (j : Job) (e : Execution) (now : Duration) :
    (deliver a j e now).1.ahead ≤ Exchange.maxRedirects + 1 := by
  rw [deliver]
  cases Exchange.start (Push.call a.pushUrl (message j e now)) with
  | waiting x => exact Nat.add_le_add_right (Nat.sub_le _ _) 1
  | ended o =>
    dsimp only
    rw [ahead_ended]
    exact Nat.zero_le _

theorem ahead_begin (a : Agent) (j : Job) (o : Outset) :
    (begin a j o).1.ahead ≤ 2 * Exchange.maxRedirects + 2 := by
  have hdeliver (e : Execution) :
      (deliver a j e o.now).1.ahead ≤ 2 * Exchange.maxRedirects + 2 :=
    (ahead_deliver a j e o.now).trans (by omega)
  rw [begin]
  split
  · exact hdeliver _
  · split
    · exact hdeliver _
    next prepared _ =>
      split
      · exact hdeliver _
      · cases Exchange.start prepared with
        | waiting x => simp only [scraped, ahead]; omega
        | ended o => exact hdeliver _

theorem ahead_step (t : Task) (ev : Event) :
    (t.awaits ev).toNat + (t.step a ev).1.ahead ≤ t.ahead := by
  cases t with
  | claimed j =>
    cases ev with
    | begin o =>
      have h := ahead_begin a j o
      change 1 + (begin a j o).1.ahead ≤ 2 * Exchange.maxRedirects + 3
      omega
    | reply r now => exact Nat.le_of_eq (Nat.zero_add _)
  | scraping j d prepared x =>
    cases ev with
    | begin o => exact Nat.le_of_eq (Nat.zero_add _)
    | reply r now =>
      simp only [awaits, step, Bool.toNat_true]
      cases hr : x.receive r with
      | waiting y =>
        obtain ⟨-, -, -, hfollowed, hroom⟩ := Exchange.of_receive_waiting hr
        simp only [scraped, ahead]
        omega
      | ended o =>
        have h := ahead_deliver a j ⟨Execution.conclude prepared.url o, some d⟩ now
        rw [scraped, ahead]
        omega
  | pushing j e since x =>
    cases ev with
    | begin o => exact Nat.le_of_eq (Nat.zero_add _)
    | reply r now =>
      simp only [awaits, step, Bool.toNat_true]
      cases hr : x.receive r with
      | waiting y =>
        obtain ⟨-, -, -, hfollowed, hroom⟩ := Exchange.of_receive_waiting hr
        simp only [pushed, ahead]
        omega
      | ended o =>
        rw [ahead_ended, ahead]
        omega
  | done j e since outcome => exact Nat.le_of_eq (Nat.zero_add _)

theorem awaited_add_ahead (t : Task) (es : List Event) :
    t.awaited a es + (t.run a es).1.ahead ≤ t.ahead := by
  induction es generalizing t with
  | nil => exact Nat.le_of_eq (Nat.zero_add _)
  | cons ev es ih =>
    have hstep := ahead_step (a := a) t ev
    have hrest := ih (t.step a ev).1
    simp only [awaited, run]
    omega

/-- No job goes on for ever: it asks two places and is sent on by each of them for so often. -/
theorem isDone_of_awaited {es : List Event}
    (h : 2 * Exchange.maxRedirects + 3 ≤ t.awaited a es) : (t.run a es).1.isDone := by
  apply isDone_of_ahead
  have hrun := awaited_add_ahead (a := a) t es
  have hle := t.ahead_le
  omega

end Task

namespace Session

variable {a : Agent} {s s' : Session} {es : List Event}

inductive PollMark
  | began
  | succeeded
  | failed
  deriving DecidableEq

/-- The failures in a row, of which there were so many before. -/
def PollMark.inRow (n : Nat) : Option PollMark → Nat
  | some .failed => n + 1
  | some _ => 0
  | none => n

def mark? (a : Agent) (s : Session) : Event → Option PollMark
  | .run =>
    match s.loop with
    | .idle => some .began
    | _ => none
  | e =>
    match s.loop.backoff?, pollEnd? a s e with
    | some _, some (.ok _) => some .succeeded
    | some _, some (.error _) => some .failed
    | _, _ => none

/-- The polls that have failed since one brought a job, or since the agent began to poll. -/
def failuresInRow (a : Agent) (es : List Event) : Nat :=
  ((collect a (mark? a) {} es).reverse.takeWhile (· = .failed)).length

theorem failuresInRow_concat (es : List Event) (e : Event) :
    failuresInRow a (es ++ [e]) =
      PollMark.inRow (failuresInRow a es) (mark? a (run a {} es) e) := by
  rw [failuresInRow, collect_concat, List.reverse_append]
  cases mark? a (run a {} es) e with
  | none => rfl
  | some m => cases m <;> rfl

theorem mark?_of_none {e : Event} {b : Backoff} (hb : s.loop.backoff? = some b)
    (h : pollEnd? a s e = none) : mark? a s e = none := by
  cases e with
  | run =>
    rw [mark?]
    split
    next hl => rw [hl] at hb; cases hb
    · rfl
  | _ => simp only [mark?, hb, h]

theorem mark?_of_ok {e : Event} {b : Backoff} {j : Job} (hb : s.loop.backoff? = some b)
    (h : pollEnd? a s e = some (.ok j)) : mark? a s e = some .succeeded := by
  cases e with
  | run => cases h
  | _ => simp only [mark?, hb, h]

theorem mark?_of_error {e : Event} {b : Backoff} {cause : PollError}
    (hb : s.loop.backoff? = some b) (h : pollEnd? a s e = some (.error cause)) :
    mark? a s e = some .failed := by
  cases e with
  | run => cases h
  | _ => simp only [mark?, hb, h]

theorem paced_loopStep {n : Nat} {e : Event} (h : s.loop.Paced a.config.backoff n)
    (hs : LoopStep a s e s') :
    s'.loop.Paced a.config.backoff (PollMark.inRow n (mark? a s e)) := by
  -- Unless a poll ends, neither the waits nor the failures in a row change.
  have hkept {l : Loop} (hend : pollEnd? a s e = none) (hl : l.backoff? = s.loop.backoff?)
      (hn : l.Paced a.config.backoff n) :
      l.Paced a.config.backoff (PollMark.inRow n (mark? a s e)) := by
    cases hb : s.loop.backoff? with
    | none => exact Loop.paced_of_none (hl.trans hb) _
    | some b =>
      rw [mark?_of_none hb hend]
      exact hn
  cases hs with
  | stay he => exact hkept (by rw [pollEnd?, he]; rfl) rfl h
  | @call _ x he =>
    exact hkept (by rw [pollEnd?, he]; rfl) (Loop.backoff?_awaiting s.loop x) (h.awaiting x)
  | @take _ o j he ho =>
    change s.loop.afterJob.Paced _ _
    cases hb : s.loop.backoff? with
    | none => exact Loop.paced_of_none (by rw [Loop.afterJob, hb]; rfl) _
    | some b =>
      rw [mark?_of_ok hb (pollEnd?_eq_some.mpr ⟨o, he, ho⟩)]
      exact h.afterJob rfl
  | @miss _ o cause he ho =>
    change s.loop.afterFailure.Paced _ _
    cases hb : s.loop.backoff? with
    | none => exact Loop.paced_of_none (by rw [Loop.afterFailure, hb]; rfl) _
    | some b =>
      rw [mark?_of_error hb (pollEnd?_eq_some.mpr ⟨o, he, ho⟩)]
      exact h.afterFailure
  | start hl =>
    simp only [mark?, hl]
    exact rfl
  | wake hl =>
    rw [hl] at h
    exact hkept rfl (by rw [hl]; rfl) h.1
  | stop => trivial
  | linger => trivial
  | settle => trivial

theorem paced_run (a : Agent) (es : List Event) :
    (run a {} es).loop.Paced a.config.backoff (failuresInRow a es) := by
  induction es using List.reverseRecOn with
  | nil => trivial
  | append_singleton es e ih =>
    rw [run_concat, failuresInRow_concat]
    obtain ⟨i, te, rfl⟩ | ⟨-, hs⟩ := step_cases a (run a {} es) e
    · rw [step, loop_advance]
      cases hb : (run a {} es).loop.backoff? with
      | none => exact Loop.paced_of_none hb _
      | some b =>
        rw [mark?_of_none hb rfl]
        exact ih
    · exact paced_loopStep ih hs

/-- Since a moment, no poll has been sent and no job taken on, and all that notice was given of is
about the jobs that there were, or that the agent has waited for them. -/
structure Closed (s s' : Session) : Prop where
  loop : s'.loop = .draining ∨ s'.loop = .idle
  jobs : s'.tasks.map Task.job = s.tasks.map Task.job
  notices : ∃ ns, s'.notices = s.notices ++ ns ∧
    ∀ n ∈ ns, (∃ t ∈ s.tasks, n.IsOf t.job) ∨ ∃ complete, n = .drained complete

theorem Closed.advance (h : s.Closed s') (i : Nat) (te : Task.Event) :
    s.Closed (s'.advance a i te) := by
  cases ht : s'.tasks[i]? with
  | none =>
    rw [advance_of_none ht]
    exact h
  | some t =>
    obtain ⟨hlt, htask⟩ := List.getElem?_eq_some_iff.mp ht
    obtain ⟨htasks, hloop, -⟩ := advance_eq (a := a) ht te
    obtain ⟨ns, hns, hall⟩ := h.notices
    refine ⟨hloop ▸ h.loop, ?_, ns ++ (t.step a te).2, ?_, fun n hn => ?_⟩
    · rw [htasks, List.map_set, Task.job_step, ← htask, ← List.map_set, List.set_getElem_self]
      exact h.jobs
    · rw [notices_advance ht, hns, List.append_assoc]
    · obtain hn | hn := List.mem_append.mp hn
      · exact hall n hn
      · have hjob : t.job ∈ s.tasks.map Task.job := by
          rw [← h.jobs]
          exact List.mem_map_of_mem (List.mem_of_getElem? ht)
        obtain ⟨u, hu, huj⟩ := List.mem_map.mp hjob
        refine .inl ⟨u, hu, ?_⟩
        rw [huj]
        exact Task.isOf_of_moves (Task.moves_step a t te) n hn

theorem Closed.pollAt?_eq_none {e : Event} (h : s.Closed s') (he : e ≠ .claim) :
    pollAt? a s' e = none := by
  cases e with
  | claim => exact absurd rfl he
  | turn => obtain hl | hl := h.loop <;> rw [pollAt?, hl]
  | reply r => obtain hl | hl := h.loop <;> rw [pollAt?, hl] <;> rfl
  | _ => rfl

theorem Closed.loopStep {e : Event} {s'' : Session} (h : s.Closed s') (hclaim : e ≠ .claim)
    (hrun : e ≠ .run) (hs : LoopStep a s' e s'') : s.Closed s'' := by
  have hpoll : pollAt? a s' e = none := h.pollAt?_eq_none hclaim
  have hbackoff : s'.loop.backoff? = none := by obtain hl | hl := h.loop <;> rw [hl] <;> rfl
  cases hs with
  | stay => exact h
  | call he => cases hpoll.symm.trans he
  | take he => cases hpoll.symm.trans he
  | miss he => cases hpoll.symm.trans he
  | start => exact absurd rfl hrun
  | wake hl => rw [hl] at hbackoff; cases hbackoff
  | stop hb => cases hbackoff.symm.trans hb
  | linger => exact ⟨.inl rfl, h.jobs, h.notices⟩
  | settle =>
    obtain ⟨ns, hns, hall⟩ := h.notices
    refine ⟨.inr rfl, h.jobs, ns ++ [.drained s'.isQuiet], ?_, fun n hn => ?_⟩
    · rw [notices_note, ← List.append_assoc, ← hns]
      rfl
    · obtain hn | hn := List.mem_append.mp hn
      · exact hall n hn
      · exact .inr ⟨_, List.mem_singleton.mp hn⟩

theorem closed_run {later : List Event} (h : s.Closed s')
    (hlater : ∀ e ∈ later, e ≠ .claim ∧ e ≠ .run) : s.Closed (run a s' later) := by
  induction later generalizing s' with
  | nil => exact h
  | cons e later ih =>
    obtain ⟨⟨hclaim, hrun⟩, hrest⟩ := List.forall_mem_cons.mp hlater
    apply ih _ hrest
    obtain ⟨i, te, rfl⟩ | ⟨-, hs⟩ := step_cases a s' e
    · exact h.advance i te
    · exact h.loopStep hclaim hrun hs

theorem Closed.pollErrors (h : s.Closed s') (hs : s.Recorded) (hs' : s'.Recorded) :
    s'.counts.pollErrors = s.counts.pollErrors := by
  obtain ⟨ns, hns, hall⟩ := h.notices
  have hnone : tallies .pollError ns = 0 := by
    refine List.countP_eq_zero.mpr fun n hn => ?_
    obtain ⟨t, -, hof⟩ | ⟨complete, rfl⟩ := hall n hn
    · cases n with
      | pollFailed => exact hof.elim
      | _ => exact Bool.false_ne_true
    · exact Bool.false_ne_true
  rw [hs, hs']
  simp only [Counts.ofNotices, hns, tallies_append, hnone, Nat.add_zero]

/-- An agent that is shut down waits for the jobs that it has, which go on by their own events, and
for no longer than it is told to. -/
structure Drains (a : Agent) (s : Session) (later : List Event) (s' : Session) : Prop where
  closed : s.Closed s'
  pollErrors : s'.counts.pollErrors = s.counts.pollErrors
  tasks : ∀ i t, s.tasks[i]? = some t → ∃ own t',
    collect a (eventOf? i) (s.step a .shutdown) later = own ∧ (t.run a own).1 = t' ∧
      s'.tasks[i]? = some t' ∧ (2 * Exchange.maxRedirects + 3 ≤ t.awaited a own → t'.isDone) ∧
      (t'.isDone → (s'.pushesOf i).length = 1) ∧ (t'.isDone = false → ∃ ev, t'.awaits ev)
  waits : s'.loop = .draining → ∀ e, (∀ waited, e ≠ .settle waited) →
    (s'.step a e).loop = .draining
  settles : s'.loop = .draining → ∀ waited, s'.step a (.settle waited) =
    if s'.isQuiet ∨ a.config.drainTimeout.nanos ≤ waited.nanos then
      { s' with loop := .idle }.note none (.drained s'.isQuiet)
    else s'

theorem loop_draining {e : Event} (hl : s.loop = .draining) (he : ∀ waited, e ≠ .settle waited) :
    (s.step a e).loop = .draining := by
  cases e with
  | task i te => rw [step, loop_advance, hl]
  | settle waited => exact absurd rfl (he waited)
  | _ => simp only [step, hl]

theorem drains_run {c : Config} {files : Files} (ha : Agent.ofConfig c files = .ok a)
    (hs : run a {} es = s) {b : Backoff} (hb : s.loop.backoff? = some b) {later : List Event}
    (hlater : ∀ e ∈ later, e ≠ .claim ∧ e ≠ .run) :
    s.Drains a later (run a (s.step a .shutdown) later) := by
  have hstop : s.step a .shutdown = { s with loop := .draining } := step_shutdown hb
  have hrun : run a (s.step a .shutdown) later = run a {} (es ++ .shutdown :: later) := by
    rw [run_append, hs]
    rfl
  have hclosed : s.Closed (run a (s.step a .shutdown) later) := by
    apply closed_run _ hlater
    rw [hstop]
    exact ⟨.inl rfl, rfl, [], (List.append_nil _).symm, List.forall_mem_nil _⟩
  refine ⟨hclosed, hclosed.pollErrors (hs ▸ recorded_run a es) (hrun ▸ recorded_run a _),
    fun i t ht => ⟨_, _, rfl, rfl, ?_, Task.isDone_of_awaited, fun hd => ?_, Task.exists_awaits⟩,
    fun hl e he => loop_draining hl he, fun hl waited => step_settle hl waited⟩
  · exact tasks_run (by rw [hstop]; exact ht) later
  · have ht' := tasks_run (a := a) (s := s.step a .shutdown) (by rw [hstop]; exact ht) later
    rw [hrun] at ht' ⊢
    obtain ⟨rs, hclaims⟩ := exists_claims ht'
    exact length_pushesOf_of_isDone (canPush_of_claims ha hclaims) ht' hd

/-- An agent that polls until it is shut down, by the polls that have failed one after the other. -/
structure Persists (a : Agent) (es : List Event) (s : Session) : Prop where
  failed : ∀ e cause, pollEnd? a s e = some (.error cause) → ∃ k next,
    failuresInRow a (es ++ [e]) = k + 1 ∧
      s.step a e = { s with loop := .resting (a.config.backoff.wait k) next }.note none
        (.pollFailed cause (some (a.config.backoff.wait k))) ∧
      (s.step a e).counts = s.counts.record .pollError
  resting : ∀ w next, s.loop = .resting w next →
    (∃ k, failuresInRow a es = k + 1 ∧ w = a.config.backoff.wait k) ∧
      (∀ e, pollAt? a s e = none) ∧ ∀ waited, s.step a (.wake waited) =
        if w.nanos ≤ waited.nanos then { s with loop := .ready next } else s
  succeeded : ∀ e j, pollEnd? a s e = some (.ok j) → failuresInRow a (es ++ [e]) = 0 ∧
    s.step a e = { s with loop := .ready a.config.backoff }.enroll j ∧
      pollAt? a (s.step a e) .turn = some (startPoll a)
  stopped : s.step a .shutdown = { s with loop := .draining }
  drains : ∀ later, (∀ e ∈ later, e ≠ .claim ∧ e ≠ .run) →
    s.Drains a later (run a (s.step a .shutdown) later)

theorem persists_run {c : Config} {files : Files} {a : Agent}
    (ha : Agent.ofConfig c files = .ok a) (es : List Event) {s : Session} (hs : run a {} es = s)
    {b : Backoff} (hb : s.loop.backoff? = some b) : Persists a es s := by
  have hpaced : s.loop.Paced a.config.backoff (failuresInRow a es) := hs ▸ paced_run a es
  -- The waits to come are given by the failures in a row alone.
  have hafter := hpaced.eq_after hb
  refine ⟨fun e cause he => ?_, fun w next hl => ?_, fun e j he => ?_, step_shutdown hb,
    fun later hlater => drains_run ha hs hb hlater⟩
  · have hstep := step_of_error he
    have hcounts := (counts_of_error he).2
    rw [hb] at hcounts
    rw [Loop.afterFailure, Loop.wait?, hb, hafter] at hstep
    refine ⟨failuresInRow a es, _, ?_, hstep, hcounts⟩
    rw [failuresInRow_concat, hs, mark?_of_error hb he, PollMark.inRow]
  · rw [hl] at hpaced
    refine ⟨hpaced.2, fun e => ?_, fun waited => ?_⟩
    · cases e with
      | claim => rw [pollAt?, hl]
      | turn => rw [pollAt?, hl]
      | reply r => rw [pollAt?, hl]; rfl
      | _ => rfl
    · simp only [step, hl]
  · have hready : s.loop.afterJob = .ready a.config.backoff := by
      rw [Loop.afterJob, hb, hafter]
      exact congrArg Loop.ready (Backoff.reset_after _ _)
    have hstep := step_of_ok he
    rw [hready] at hstep
    refine ⟨?_, hstep, ?_⟩
    · rw [failuresInRow_concat, hs, mark?_of_ok hb he]
      rfl
    · rw [hstep]
      rfl

namespace RetryExample

def refusal : Reply := .answer ⟨.notFound, .empty, .ok []⟩

def events : List Event :=
  [.run, .turn, .reply refusal, .wake Example.config.retryInitial, .turn]

end RetryExample

open RetryExample in
theorem persists_run_again :
    ∃ w next, w.nanos = 1_500_000_000 ∧
      ((run Example.agent {} events).step Example.agent (.reply refusal)).loop =
        .resting w next := by
  have hagent : Agent.ofConfig Example.config (fun _ => .ok []) = .ok Example.agent := by rfl
  have hrun : (run Example.agent {} events).loop.backoff?.isSome ∧
      failuresInRow Example.agent (events ++ [.reply refusal]) = 2 ∧
      (Example.agent.config.backoff.wait 1).nanos = 1_500_000_000 ∧
      (pollEnd? Example.agent (run Example.agent {} events) (.reply refusal)).any (!·.isOk) := by
    decide +kernel
  obtain ⟨hloop, hrow, hwait, hend⟩ := hrun
  obtain ⟨b, hb⟩ := Option.isSome_iff_exists.mp hloop
  cases hresult : pollEnd? Example.agent (run Example.agent {} events) (.reply refusal) with
  | none => rw [hresult] at hend; cases hend
  | some result =>
    rw [hresult] at hend
    cases result with
    | ok j => cases hend
    | error cause =>
      obtain ⟨k, next, hk, hstep, -⟩ := (persists_run hagent events rfl hb).failed _ _ hresult
      obtain rfl : k = 1 := by omega
      exact ⟨_, next, hwait, congrArg Session.loop hstep⟩

end Session

end ScrapeCourier
