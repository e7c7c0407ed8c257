import ScrapeCourier.Proofs.ScrapeTrail
import ScrapeCourier.Proofs.SessionTrace

namespace ScrapeCourier

def tallies (k : Tally) (ns : List Notice) : Nat := ns.countP (Session.tally? · = some k)

theorem tallies_append (k : Tally) (ns ms : List Notice) :
    tallies k (ns ++ ms) = tallies k ns + tallies k ms := List.countP_append

def Counts.ofNotices (ns : List Notice) : Counts where
  inflight := tallies .jobStarted ns - tallies .jobFinished ns
  pollErrors := tallies .pollError ns
  pushErrors := tallies .pushError ns
  scrapeErrors := tallies .scrapeError ns

def Execution.tells (e : Execution) : Tally → Bool
  | .scrapeError => !e.result.isOk
  | k => k = .jobStarted

namespace Task

variable {a : Agent} {j : Job} {t : Task} {e : Execution}

def tells : Task → Tally → Bool
  | .claimed _, k | .scraping .., k => k = .jobStarted
  | .pushing _ e _ _, k => e.tells k
  | .done _ _ _ outcome, .pushError => !outcome.isOk
  | .done .., .jobFinished => true
  | .done _ e _ _, k => e.tells k

/-- Whether the relay did not take the result. -/
def wasRefused : Task → Bool
  | .done _ _ _ (.error _) => true
  | _ => false

theorem tells_scrapeError (t : Task) : t.tells .scrapeError = t.hasFailed := by cases t <;> rfl

theorem tells_jobFinished (t : Task) : t.tells .jobFinished = t.isDone := by cases t <;> rfl

theorem tells_jobStarted (t : Task) : t.tells .jobStarted = true := by cases t <;> rfl

theorem tells_pollError (t : Task) : t.tells .pollError = false := by cases t <;> rfl

theorem tells_pushError (t : Task) : t.tells .pushError = t.wasRefused := by
  cases t with
  | done j e since outcome => cases outcome <;> rfl
  | _ => rfl

theorem tells_add_pushed (j : Job) (e : Execution) (since : Duration) (p : Progress) (k : Tally) :
    (e.tells k).toNat + tallies k (pushed j e since p).2 =
      ((pushed j e since p).1.tells k).toNat := by
  cases p with
  | waiting x => rfl
  | ended o =>
    rw [pushed]
    cases Push.conclude o with
    | ok u => cases k <;> rfl
    | error cause => cases k <;> rfl

/-- A result adds to the counts what the job has not added yet. -/
theorem tells_add_deliver (a : Agent) (j : Job) (e : Execution) (now : Duration) (k : Tally) :
    ((Task.claimed j).tells k).toNat + tallies k (deliver a j e now).2 =
      ((deliver a j e now).1.tells k).toNat := by
  have hp := tells_add_pushed j e now (Exchange.start (Push.call a.pushUrl (message j e now))) k
  cases he : e.result with
  | ok r =>
    have ht : e.tells k = (Task.claimed j).tells k := by
      cases k with
      | scrapeError => simp only [Execution.tells, he]; rfl
      | _ => rfl
    simp only [deliver, he]
    rw [← ht]
    exact hp
  | error cause =>
    have ht : ((Task.claimed j).tells k).toNat + tallies k [.scrapeFailed j cause] =
        (e.tells k).toNat := by
      cases k with
      | scrapeError => simp only [Execution.tells, he]; rfl
      | _ => rfl
    simp only [deliver, he]
    rw [tallies_append, ← Nat.add_assoc, ht]
    exact hp

theorem tells_add_of_moves {ev : Event} {st : Step} (hm : Moves a t ev st) (k : Tally) :
    (t.tells k).toNat + tallies k st.2 = (st.1.tells k).toNat := by
  cases hm with
  | stay => rfl
  | stop => exact tells_add_deliver a _ _ _ k
  | ask => rfl
  | follow => rfl
  | conclude => exact tells_add_deliver a _ _ _ k
  | push => exact tells_add_pushed _ _ _ _ k

end Task

namespace Session

variable {a : Agent} {s s' : Session} {es : List Event}

def notices (s : Session) : List Notice := s.history.map (·.notice)

theorem notices_note (s : Session) (task : Option Nat) (n : Notice) :
    (s.note task n).notices = s.notices ++ [n] := List.map_append

theorem notices_advance {t : Task} {i : Nat} (ht : s.tasks[i]? = some t) (te : Task.Event) :
    (s.advance a i te).notices = s.notices ++ (t.step a te).2 := by
  rw [notices, (advance_eq ht te).2.2, List.map_append, List.map_map]
  exact congrArg (s.notices ++ ·) (List.map_id _)

theorem ofNotices_concat (ns : List Notice) (n : Notice) :
    Counts.ofNotices (ns ++ [n]) =
      match tally? n with
      | some k => (Counts.ofNotices ns).record k
      | none => Counts.ofNotices ns := by
  have h (k : Tally) :
      tallies k (ns ++ [n]) = tallies k ns + if tally? n = some k then 1 else 0 := by
    rw [tallies_append, tallies, tallies, List.countP_singleton]
    simp
  simp only [Counts.ofNotices, h]
  cases tally? n with
  | none => simp
  | some k => cases k <;> simp [Counts.record] <;> omega

def Recorded (s : Session) : Prop := s.counts = Counts.ofNotices s.notices

theorem Recorded.note (h : s.Recorded) (task : Option Nat) (n : Notice) :
    (s.note task n).Recorded := by
  rw [Recorded, notices_note, ofNotices_concat, ← h]
  rfl

theorem Recorded.noteAll (h : s.Recorded) (task : Option Nat) (ns : List Notice) :
    (s.noteAll task ns).Recorded := by
  induction ns generalizing s with
  | nil => exact h
  | cons n ns ih => exact ih (h.note task n)

theorem Recorded.advance (h : s.Recorded) (i : Nat) (te : Task.Event) :
    (s.advance a i te).Recorded := by
  cases ht : s.tasks[i]? with
  | none =>
    rw [advance_of_none ht]
    exact h
  | some t =>
    simp only [Session.advance, ht]
    have hs : Recorded { s with tasks := s.tasks.set i (t.step a te).1 } := h
    exact hs.noteAll _ _

theorem Recorded.loopStep {e : Event} (h : s.Recorded) (hs : LoopStep a s e s') : s'.Recorded := by
  cases hs with
  | stay => exact h
  | call | take | miss | settle =>
    apply Recorded.note
    exact h
  | start => exact h
  | wake => exact h
  | stop => exact h
  | linger => exact h

/-- The failure of a poll that is followed by others. -/
def missAt? (a : Agent) (s : Session) (e : Event) : Option PollError :=
  match s.loop.backoff?, pollEnd? a s e with
  | some _, some (.error cause) => some cause
  | _, _ => none

/-- The polls that failed while the agent went on polling. -/
def missesOf (a : Agent) (es : List Event) : List PollError := collect a (missAt? a) {} es

theorem missAt?_eq_none {e : Event} (h : ∀ cause, pollEnd? a s e ≠ some (.error cause)) :
    missAt? a s e = none := by
  rw [missAt?]
  split
  next h' => exact absurd h' (h _)
  · rfl

theorem length_missAt? {e : Event} {cause : PollError}
    (h : pollEnd? a s e = some (.error cause)) :
    (missAt? a s e).toList.length = tallies .pollError [.pollFailed cause s.loop.wait?] := by
  rw [missAt?, h, Loop.wait?]
  cases s.loop.backoff? with
  | none => rfl
  | some b => rfl

/-- The notices that are counted in one way are those of the tasks that have given one, and of `n`
polls. -/
def Tallied (s : Session) (n : Nat) : Prop := ∀ k,
  tallies k s.notices = s.tasks.countP (·.tells k) + if k = .pollError then n else 0

theorem Tallied.advance {n : Nat} (h : s.Tallied n) (i : Nat) (te : Task.Event) :
    (s.advance a i te).Tallied n := by
  intro k
  cases ht : s.tasks[i]? with
  | none =>
    rw [advance_of_none ht]
    exact h k
  | some t =>
    obtain ⟨hlt, htask⟩ := List.getElem?_eq_some_iff.mp ht
    have hstep := Task.tells_add_of_moves (Task.moves_step a t te) k
    -- The task is among those counted, so that what it had told can be taken off.
    have htold : (t.tells k).toNat ≤ s.tasks.countP (·.tells k) := by
      cases hk : t.tells k with
      | false => exact Nat.zero_le _
      | true => exact List.countP_pos_iff.mpr ⟨t, List.mem_of_getElem? ht, hk⟩
    have hite (b : Bool) : (if b then 1 else 0) = b.toNat := by cases b <;> rfl
    rw [notices_advance ht, tallies_append, h k, (advance_eq ht te).1, List.countP_set hlt, htask,
      hite, hite]
    omega

/-- A notice that no task has given is one of a failed poll, or is not counted. -/
theorem Tallied.note {n m : Nat} {notice : Notice} (h : s.Tallied n) (task : Option Nat)
    (hn : ∀ k, tallies k [notice] = if k = .pollError then m else 0) :
    (s.note task notice).Tallied (n + m) := by
  intro k
  rw [notices_note, tallies_append, h k, hn k, Nat.add_assoc]
  split
  · rfl
  · rfl

theorem Tallied.enroll {n : Nat} (h : s.Tallied n) (j : Job) : (s.enroll j).Tallied n := by
  intro k
  rw [Session.enroll, notices_note, tallies_append]
  change tallies k s.notices + _ = (s.tasks ++ [Task.claimed j]).countP (·.tells k) + _
  rw [h k, List.countP_append]
  cases k <;> simp [tallies, tally?, Task.tells]

theorem Tallied.loopStep {n : Nat} {e : Event} (h : s.Tallied n) (hs : LoopStep a s e s') :
    s'.Tallied (n + (missAt? a s e).toList.length) := by
  have hquiet (hend : pollEnd? a s e = none) : (missAt? a s e).toList.length = 0 := by
    rw [missAt?_eq_none fun cause hc => by rw [hend] at hc; cases hc]
    rfl
  cases hs with
  | stay he => rw [hquiet (by rw [pollEnd?, he]; rfl)]; exact h
  | @call _ x he =>
    rw [hquiet (by rw [pollEnd?, he]; rfl)]
    have hs : Tallied { s with loop := s.loop.awaiting x } n := h
    exact hs.note none fun k => by cases k <;> rfl
  | take he ho =>
    rw [missAt?_eq_none fun cause hc => ?_]
    · have hs : Tallied { s with loop := s.loop.afterJob } n := h
      exact hs.enroll _
    · obtain ⟨o, ho', hcause⟩ := pollEnd?_eq_some.mp hc
      cases he.symm.trans ho'
      cases ho.symm.trans hcause
  | @miss _ o cause he ho =>
    have hs : Tallied { s with loop := s.loop.afterFailure } n := h
    rw [length_missAt? (pollEnd?_eq_some.mpr ⟨o, he, ho⟩)]
    apply hs.note none
    intro k
    cases s.loop.wait? with
    | none => cases k <;> rfl
    | some w => cases k <;> rfl
  | start => rw [hquiet rfl]; exact h
  | wake => rw [hquiet rfl]; exact h
  | stop => rw [hquiet rfl]; exact h
  | linger => rw [hquiet rfl]; exact h
  | settle =>
    rw [hquiet rfl]
    have hs : Tallied { s with loop := .idle } n := h
    exact hs.note none fun k => by cases k <;> rfl

theorem recorded_run (a : Agent) (es : List Event) : (run a {} es).Recorded := by
  induction es using List.reverseRecOn with
  | nil => rfl
  | append_singleton es e ih =>
    rw [run_concat]
    obtain ⟨i, te, rfl⟩ | ⟨-, hs⟩ := step_cases a (run a {} es) e
    · exact ih.advance i te
    · exact ih.loopStep hs

theorem tallied_run (a : Agent) (es : List Event) :
    (run a {} es).Tallied (missesOf a es).length := by
  induction es using List.reverseRecOn with
  | nil =>
    intro k
    cases k <;> rfl
  | append_singleton es e ih =>
    rw [run_concat, missesOf, collect_concat, List.length_append]
    obtain ⟨i, te, rfl⟩ | ⟨-, hs⟩ := step_cases a (run a {} es) e
    · rw [missAt?_eq_none fun cause h => by cases h]
      exact ih.advance i te
    · exact ih.loopStep hs

theorem quiet_of_loopStep {e : Event} (hs : LoopStep a s e s')
    (h : s'.notices = s.notices ++ [.drained true]) :
    s.isQuiet ∧ s'.tasks = s.tasks ∧ s'.counts = s.counts := by
  have hlast {task : Option Nat} {n : Notice} {u : Session} (hu : u.notices = s.notices)
      (hn : (u.note task n).notices = s.notices ++ [.drained true]) : n = .drained true := by
    rw [notices_note, hu, List.append_cancel_left_eq] at hn
    exact List.head_eq_of_cons_eq hn
  have hsame (hn : s.notices = s.notices ++ [.drained true]) : False :=
    List.cons_ne_nil _ _ (List.self_eq_append_right.mp hn)
  cases hs with
  | stay => exact (hsame h).elim
  | call => cases hlast (by rfl) h
  | take => cases hlast (by rfl) h
  | miss => cases hlast (by rfl) h
  | start => exact (hsame h).elim
  | wake => exact (hsame h).elim
  | stop => exact (hsame h).elim
  | linger => exact (hsame h).elim
  | settle => exact ⟨(Notice.drained.inj (hlast (by rfl) h)), rfl, rfl⟩

/-- An agent that has waited for all of its jobs has none under way. -/
theorem of_drained {e : Event} (h : (s.step a e).notices = s.notices ++ [.drained true]) :
    s.isQuiet ∧ (s.step a e).tasks = s.tasks ∧ (s.step a e).counts = s.counts := by
  obtain ⟨i, te, rfl⟩ | ⟨-, hs⟩ := step_cases a s e
  · have hof : ∀ n ∈ [Notice.drained true], ∃ j, n.IsOf j := by
      cases ht : s.tasks[i]? with
      | none =>
        rw [step, advance_of_none ht] at h
        exact absurd (List.self_eq_append_right.mp h) (List.cons_ne_nil _ _)
      | some t =>
        rw [step, notices_advance ht, List.append_cancel_left_eq] at h
        rw [← h]
        exact fun n hn => ⟨t.job, Task.isOf_of_moves (Task.moves_step a t te) n hn⟩
    obtain ⟨j, hj⟩ := hof _ List.mem_cons_self
    exact hj.elim
  · exact quiet_of_loopStep hs h

theorem notices_settle (hl : s.loop = .draining) (hq : s.isQuiet) (waited : Duration) :
    (s.step a (.settle waited)).notices = s.notices ++ [.drained true] := by
  rw [step_settle hl, if_pos (.inl hq), notices_note, hq]
  rfl

/-- A failed poll is counted if others follow it, and leaves all else. -/
theorem counts_of_error {e : Event} {cause : PollError}
    (h : pollEnd? a s e = some (.error cause)) :
    (s.step a e).tasks = s.tasks ∧
      (s.step a e).counts =
        if s.loop.backoff?.isSome then s.counts.record .pollError else s.counts := by
  rw [step_of_error h]
  refine ⟨rfl, ?_⟩
  rw [note, Loop.wait?]
  cases s.loop.backoff? with
  | none => rfl
  | some b => rfl

theorem inflight_run (a : Agent) (es : List Event) :
    (run a {} es).counts.inflight =
      (jobsOf a es).length - (run a {} es).tasks.countP Task.isDone := by
  have htallied := tallied_run a es
  have hstarted := htallied .jobStarted
  have hfinished := htallied .jobFinished
  simp only [Task.tells_jobStarted, Task.tells_jobFinished, List.countP_true, reduceCtorEq,
    if_false, Nat.add_zero] at hstarted hfinished
  rw [recorded_run a es, Counts.ofNotices, hstarted, hfinished, ← (tracks_run a es).jobs,
    List.length_map]

theorem scrapeErrors_run (a : Agent) (es : List Event) :
    (run a {} es).counts.scrapeErrors = (run a {} es).tasks.countP Task.hasFailed := by
  rw [recorded_run a es, Counts.ofNotices]
  simpa [Task.tells_scrapeError] using tallied_run a es .scrapeError

theorem pushErrors_run (a : Agent) (es : List Event) :
    (run a {} es).counts.pushErrors = (run a {} es).tasks.countP Task.wasRefused := by
  rw [recorded_run a es, Counts.ofNotices]
  simpa [Task.tells_pushError] using tallied_run a es .pushError

theorem pollErrors_run (a : Agent) (es : List Event) :
    (run a {} es).counts.pollErrors = (missesOf a es).length := by
  rw [recorded_run a es, Counts.ofNotices]
  simpa [Task.tells_pollError] using tallied_run a es .pollError

end Session

end ScrapeCourier
