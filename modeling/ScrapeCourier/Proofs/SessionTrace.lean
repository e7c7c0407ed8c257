import ScrapeCourier.Proofs.LoopStep
import ScrapeCourier.Proofs.TaskRun

namespace ScrapeCourier

def Progress.job? : Progress → Option Job
  | .waiting _ => none
  | .ended o => (Poll.conclude o).toOption

namespace Session

variable {a : Agent} {s s' : Session} {js : List Job} {own : Nat → List Task.Event}

/-- The job that comes with an event, if it is a poll answer which decodes into one. -/
def jobOf? (s : Session) : Event → Option Job
  | .reply r => s.loop.poll?.bind fun x => (x.receive r).job?
  | _ => none

def eventOf? (i : Nat) (s : Session) : Event → Option Task.Event
  | .task k e => if k = i ∧ i < s.tasks.length then some e else none
  | _ => none

/-- All that is found in a session, event by event. -/
def collect {α : Type} (a : Agent) (f : Session → Event → Option α) :
    Session → List Event → List α
  | _, [] => []
  | s, e :: es => (f s e).toList ++ collect a f (s.step a e) es

theorem collect_concat {α : Type} (f : Session → Event → Option α) (s : Session) (es : List Event)
    (e : Event) :
    collect a f s (es ++ [e]) = collect a f s es ++ (f (s.run a es) e).toList := by
  induction es generalizing s with
  | nil => exact List.append_nil _
  | cons e' es ih =>
    rw [List.cons_append, collect, ih, collect, List.append_assoc]
    rfl

theorem run_concat (s : Session) (es : List Event) (e : Event) :
    s.run a (es ++ [e]) = (s.run a es).step a e := by
  rw [run, List.foldl_concat]
  rfl

def jobsOf (a : Agent) (es : List Event) : List Job := collect a jobOf? {} es

def eventsOf (a : Agent) (es : List Event) (i : Nat) : List Task.Event :=
  collect a (eventOf? i) {} es

theorem collect_eq_append_cons {α : Type} {f : Session → Event → Option α} {s : Session}
    {es : List Event} {xs ys : List α} {y : α} (h : collect a f s es = xs ++ y :: ys) :
    ∃ pre e post, es = pre ++ e :: post ∧ collect a f s pre = xs ∧ f (s.run a pre) e = some y := by
  induction es generalizing s xs with
  | nil =>
    rw [collect] at h
    cases xs <;> cases h
  | cons e es ih =>
    rw [collect] at h
    cases hf : f s e with
    | none =>
      rw [hf] at h
      obtain ⟨pre, e', post, rfl, hpre, hy⟩ := ih h
      exact ⟨e :: pre, e', post, rfl, by rw [collect, hf]; exact hpre, hy⟩
    | some z =>
      rw [hf, Option.toList_some, List.singleton_append] at h
      cases xs with
      | nil =>
        obtain ⟨rfl, -⟩ := List.cons.inj h
        exact ⟨[], e, es, rfl, rfl, hf⟩
      | cons x xs =>
        obtain ⟨rfl, hrest⟩ := List.cons.inj h
        obtain ⟨pre, e', post, rfl, hpre, hy⟩ := ih hrest
        exact ⟨e :: pre, e', post, rfl, by rw [collect, hf, hpre]; rfl, hy⟩

theorem of_eventOf? {i : Nat} {s : Session} {e : Event} {te : Task.Event}
    (h : s.eventOf? i e = some te) : e = .task i te ∧ i < s.tasks.length := by
  cases e with
  | task k te' =>
    rw [eventOf?] at h
    split at h
    next hk =>
      cases h
      exact ⟨congrArg (Event.task · te) hk.1, hk.2⟩
    · cases h
  | _ => cases h

theorem mem_of_mem_eventsOf {i : Nat} {es : List Event} {te : Task.Event}
    (h : te ∈ eventsOf a es i) : .task i te ∈ es := by
  obtain ⟨xs, ys, h⟩ := List.append_of_mem h
  obtain ⟨pre, e, post, rfl, -, he⟩ := collect_eq_append_cons h
  rw [(of_eventOf? he).1]
  exact List.mem_append_right pre List.mem_cons_self

def noticesOf (s : Session) (i : Nat) : List Notice :=
  (s.history.filter (·.task = some i)).map (·.notice)

def pushesOf (s : Session) (i : Nat) : List Exchange := pushStarts (s.noticesOf i)

theorem noteAll_eq (s : Session) (task : Option Nat) (ns : List Notice) :
    (s.noteAll task ns).tasks = s.tasks ∧ (s.noteAll task ns).loop = s.loop ∧
      (s.noteAll task ns).history = s.history ++ ns.map (⟨task, ·⟩) := by
  induction ns generalizing s with
  | nil => exact ⟨rfl, rfl, (List.append_nil _).symm⟩
  | cons n ns ih =>
    obtain ⟨ht, hl, hh⟩ := ih (s.note task n)
    refine ⟨ht, hl, ?_⟩
    rw [noteAll, List.foldl_cons, ← noteAll, hh, List.map_cons, note, List.append_assoc]
    rfl

theorem noticesOf_append {task : Option Nat} (ns : List Notice)
    (h : s'.history = s.history ++ ns.map (⟨task, ·⟩)) (i : Nat) :
    s'.noticesOf i = s.noticesOf i ++ if task = some i then ns else [] := by
  rw [noticesOf, h, List.filter_append, List.map_append, noticesOf]
  congr 1
  split
  next ht =>
    rw [List.filter_eq_self.mpr, List.map_map]
    · exact List.map_id ns
    · intro en hen
      obtain ⟨n, _, rfl⟩ := List.mem_map.mp hen
      exact decide_eq_true ht
  next ht =>
    rw [List.filter_eq_nil_iff.mpr]
    · rfl
    · intro en hen
      obtain ⟨n, _, rfl⟩ := List.mem_map.mp hen
      simpa using ht

/-- What may become of a session at an event for none of its tasks: a job is taken on, or none is
and no result is handed over. -/
def Took (s s' : Session) : Option Job → Prop
  | none => ∃ ns, s'.tasks = s.tasks ∧ s'.history = s.history ++ ns.map (⟨none, ·⟩) ∧
    pushStarts ns = []
  | some j => s'.tasks = s.tasks ++ [.claimed j] ∧
    s'.history = s.history ++ [⟨some s.tasks.length, .claimed j⟩]

theorem took_nothing (h₁ : s'.tasks = s.tasks) (h₂ : s'.history = s.history) : s.Took s' none :=
  ⟨[], h₁, by rw [h₂, List.map_nil, List.append_nil], rfl⟩

theorem took_claimed (s : Session) (p : Progress) : s.Took (s.claimed p) p.job? := by
  cases p with
  | waiting x => exact ⟨[.called .poll x], rfl, rfl, rfl⟩
  | ended o =>
    rw [claimed, Progress.job?]
    cases Poll.conclude o with
    | error cause => exact ⟨[.pollFailed cause none], rfl, rfl, rfl⟩
    | ok j => exact ⟨rfl, rfl⟩

theorem job?_startPoll (a : Agent) : (startPoll a).job? = none := by
  rw [startPoll, Exchange.start_eq]
  split
  · rfl
  · rfl

/-- A poll is one that was under way, a first request, or one that follows a redirect. -/
def Polls (a : Agent) (s : Session) (x : Exchange) : Prop :=
  s.loop.poll? = some x ∨ startPoll a = .waiting x ∨
    ∃ y r, s.loop.poll? = some y ∧ y.receive r = .waiting x

/-- An event for none of the tasks: what it does to them, and to the poll. -/
def Passes (a : Agent) (s s' : Session) (j : Option Job) : Prop :=
  s.Took s' j ∧ ∀ x, s'.loop.poll? = some x → s.Polls a x

theorem passes_self (a : Agent) (s : Session) : s.Passes a s none := by
  refine ⟨took_nothing rfl rfl, ?_⟩
  intro x hx
  exact .inl hx

theorem passes_loop (a : Agent) (s : Session) {l : Loop} (hl : l.poll? = none) :
    s.Passes a { s with loop := l } none := by
  refine ⟨took_nothing rfl rfl, ?_⟩
  intro x hx
  cases hl.symm.trans hx

theorem jobOf?_of_pollAt? {e : Event} {p : Progress} (he : pollAt? a s e = some p) :
    s.jobOf? e = p.job? := by
  obtain ⟨rfl | rfl, rfl⟩ | ⟨x, r, rfl, hx, rfl⟩ := of_pollAt? he
  · exact (job?_startPoll a).symm
  · exact (job?_startPoll a).symm
  · rw [jobOf?, hx]
    rfl

theorem jobOf?_of_none {e : Event} (he : pollAt? a s e = none) : s.jobOf? e = none := by
  cases e with
  | reply r =>
    rw [jobOf?, Option.map_eq_none_iff.mp he]
    rfl
  | _ => rfl

theorem polls_of_pollAt? {e : Event} {x : Exchange} (he : pollAt? a s e = some (.waiting x)) :
    s.Polls a x := by
  obtain ⟨-, hx⟩ | ⟨y, r, -, hy, hx⟩ := of_pollAt? he
  · exact .inr (.inl hx)
  · exact .inr (.inr ⟨y, r, hy, hx⟩)

theorem passes_of_loopStep {e : Event} (hs : LoopStep a s e s') : s.Passes a s' (s.jobOf? e) := by
  cases hs with
  | stay he =>
    rw [jobOf?_of_none he]
    exact s.passes_self a
  | @call _ x he =>
    rw [jobOf?_of_pollAt? he]
    refine ⟨⟨[.called .poll x], rfl, rfl, rfl⟩, fun y hy => ?_⟩
    obtain rfl : x = y := Option.some.inj ((s.loop.poll?_awaiting x).symm.trans hy)
    exact polls_of_pollAt? he
  | take he ho =>
    rw [jobOf?_of_pollAt? he, Progress.job?, ho]
    exact ⟨⟨rfl, rfl⟩, fun x hx => by cases s.loop.poll?_afterJob.symm.trans hx⟩
  | miss he ho =>
    rw [jobOf?_of_pollAt? he, Progress.job?, ho]
    exact ⟨⟨[_], rfl, rfl, rfl⟩, fun x hx => by cases s.loop.poll?_afterFailure.symm.trans hx⟩
  | start => exact s.passes_loop a rfl
  | wake => exact s.passes_loop a rfl
  | stop => exact s.passes_loop a rfl
  | linger => exact s.passes_loop a rfl
  | settle => exact ⟨⟨[_], rfl, rfl, rfl⟩, fun x hx => by cases hx⟩

theorem step_other {e : Event} (he : ∀ i te, e ≠ .task i te) (s : Session) :
    s.Passes a (s.step a e) (s.jobOf? e) := by
  obtain ⟨i, te, rfl⟩ | ⟨-, hs⟩ := s.step_cases a e
  · exact absurd rfl (he i te)
  · exact passes_of_loopStep hs

/-- Whether an entry is about one of `n` tasks, or is about none and no push has been started. -/
def Entry.Fits (n : Nat) (en : Entry) : Prop :=
  (∀ i, en.task = some i → i < n) ∧ (en.notice.pushStart?.isSome → en.task.isSome)

theorem Entry.Fits.mono {n m : Nat} {en : Entry} (h : en.Fits n) (hle : n ≤ m) : en.Fits m :=
  ⟨fun i hi => Nat.lt_of_lt_of_le (h.1 i hi) hle, h.2⟩

theorem Entry.fits_some {i n : Nat} (hi : i < n) (notice : Notice) : Fits n ⟨some i, notice⟩ := by
  refine ⟨?_, fun _ => rfl⟩
  intro k hk
  cases hk
  exact hi

theorem fits_append {n : Nat} {task : Option Nat} (ns : List Notice)
    (h : ∀ en ∈ s.history, en.Fits n) (hh : s'.history = s.history ++ ns.map (⟨task, ·⟩))
    (hns : ∀ notice ∈ ns, Entry.Fits n ⟨task, notice⟩) : ∀ en ∈ s'.history, en.Fits n := by
  intro en hen
  rw [hh, List.mem_append] at hen
  obtain hen | hen := hen
  · exact h en hen
  · obtain ⟨notice, hn, rfl⟩ := List.mem_map.mp hen
    exact hns notice hn

/-- The tasks of a session, each of which has got by its own events to where it is, with the notices
that these gave. -/
structure Tracks (a : Agent) (s : Session) (js : List Job) (own : Nat → List Task.Event) :
    Prop where
  jobs : s.tasks.map Task.job = js
  fits : ∀ en ∈ s.history, en.Fits s.tasks.length
  own_eq : ∀ i t, s.tasks[i]? = some t → ∃ j, t = ((Task.claimed j).run a (own i)).1 ∧
    s.noticesOf i = .claimed j :: ((Task.claimed j).run a (own i)).2
  fresh : ∀ i, s.tasks.length ≤ i → own i = []

theorem noticesOf_fresh (h : Tracks a s js own) {i : Nat} (hi : s.tasks.length ≤ i) :
    s.noticesOf i = [] := by
  rw [noticesOf, List.map_eq_nil_iff, List.filter_eq_nil_iff]
  intro en hen ht
  exact Nat.not_lt_of_le hi ((h.fits en hen).1 i (of_decide_eq_true ht))

theorem tracks_empty (a : Agent) : Tracks a {} [] fun _ => [] where
  jobs := rfl
  fits := fun _ h => nomatch h
  own_eq := fun _ _ h => nomatch h
  fresh := fun _ _ => rfl

theorem tracks_none (h : Tracks a s js own) (hs : s.Took s' none) : Tracks a s' js own := by
  obtain ⟨ns, ht, hh, hns⟩ := hs
  refine ⟨ht ▸ h.jobs, ?_, ?_, ht ▸ h.fresh⟩
  · rw [ht]
    apply fits_append ns h.fits hh
    intro notice hn
    refine ⟨(fun i hi => nomatch hi), fun hp => ?_⟩
    rw [List.filterMap_eq_nil_iff.mp hns notice hn] at hp
    cases hp
  · intro i t hi
    rw [ht] at hi
    rw [noticesOf_append ns hh, if_neg (fun he => by cases he), List.append_nil]
    exact h.own_eq i t hi

theorem tracks_some (h : Tracks a s js own) {j : Job} (hs : s.Took s' (some j)) :
    Tracks a s' (js ++ [j]) own := by
  obtain ⟨ht, hh⟩ := hs
  have hlen : s'.tasks.length = s.tasks.length + 1 := by
    rw [ht, List.length_append]
    rfl
  refine ⟨?_, ?_, ?_, ?_⟩
  · rw [ht, List.map_append, h.jobs]
    rfl
  · rw [hlen]
    have hfits : ∀ en ∈ s.history, en.Fits (s.tasks.length + 1) := by
      intro en hen
      exact (h.fits en hen).mono (Nat.le_succ _)
    apply fits_append [.claimed j] hfits hh
    intro notice _
    exact Entry.fits_some (Nat.lt_succ_self _) notice
  · intro i t hi
    have hn := noticesOf_append [.claimed j] hh i
    rw [ht] at hi
    by_cases hlt : i < s.tasks.length
    · rw [List.getElem?_append_left hlt] at hi
      rw [hn, if_neg (fun he => Nat.ne_of_gt hlt (Option.some.inj he)), List.append_nil]
      exact h.own_eq i t hi
    · obtain ⟨hle, -⟩ := List.getElem?_eq_some_iff.mp hi
      rw [← ht, hlen] at hle
      obtain rfl : i = s.tasks.length := by omega
      rw [List.getElem?_concat_length] at hi
      cases hi
      refine ⟨j, ?_, ?_⟩
      · rw [h.fresh _ (Nat.le_refl _)]
        rfl
      · rw [hn, if_pos rfl, noticesOf_fresh h (Nat.le_refl _), h.fresh _ (Nat.le_refl _)]
        rfl
  · intro i hi
    exact h.fresh i (by omega)

theorem advance_eq {t : Task} {i : Nat} (ht : s.tasks[i]? = some t) (e : Task.Event) :
    (s.advance a i e).tasks = s.tasks.set i (t.step a e).1 ∧ (s.advance a i e).loop = s.loop ∧
      (s.advance a i e).history = s.history ++ (t.step a e).2.map (⟨some i, ·⟩) := by
  simp only [advance, ht]
  exact noteAll_eq { s with tasks := s.tasks.set i (t.step a e).1 } (some i) (t.step a e).2

theorem advance_of_none {i : Nat} (ht : s.tasks[i]? = none) (e : Task.Event) :
    s.advance a i e = s := by
  simp only [advance, ht]

theorem own_eq_advance (h : Tracks a s js own) {t : Task} {i : Nat} (ht : s.tasks[i]? = some t)
    (e : Task.Event) : ∃ j, (t.step a e).1 = ((Task.claimed j).run a (own i ++ [e])).1 ∧
      (s.advance a i e).noticesOf i =
        .claimed j :: ((Task.claimed j).run a (own i ++ [e])).2 := by
  obtain ⟨j, hrun, hnotices⟩ := h.own_eq i t ht
  refine ⟨j, ?_, ?_⟩
  · rw [Task.run_append, ← hrun]
    rfl
  · rw [Task.run_append, ← hrun, noticesOf_append _ (advance_eq ht e).2.2, if_pos rfl, hnotices,
      List.cons_append]
    simp only [Task.run, List.append_nil]

theorem tracks_advance (h : Tracks a s js own) (i : Nat) (e : Task.Event) :
    Tracks a (s.advance a i e) js fun k => own k ++ (s.eventOf? k (.task i e)).toList := by
  have hother {k : Nat} (hk : ¬(i = k ∧ k < s.tasks.length)) :
      own k ++ (s.eventOf? k (.task i e)).toList = own k := by
    rw [eventOf?, if_neg hk, Option.toList_none, List.append_nil]
  cases ht : s.tasks[i]? with
  | none =>
    have hown : (fun k => own k ++ (s.eventOf? k (.task i e)).toList) = own := by
      funext k
      apply hother
      rintro ⟨rfl, hlt⟩
      exact Nat.not_lt_of_le (List.getElem?_eq_none_iff.mp ht) hlt
    rw [hown, advance_of_none ht]
    exact h
  | some t =>
    obtain ⟨hlt, htask⟩ := List.getElem?_eq_some_iff.mp ht
    obtain ⟨htasks, -, hhistory⟩ := advance_eq (a := a) ht e
    have hlen : (s.advance a i e).tasks.length = s.tasks.length := by
      rw [htasks, List.length_set]
    -- The task at hand goes on by its event; of all others nothing changes.
    refine ⟨?_, ?_, ?_, ?_⟩
    · rw [htasks, List.map_set, Task.job_step, ← htask, ← List.map_set, List.set_getElem_self]
      exact h.jobs
    · rw [hlen]
      apply fits_append _ h.fits hhistory
      intro notice _
      exact Entry.fits_some hlt notice
    · intro k u hu
      rw [htasks] at hu
      by_cases hk : i = k
      · subst hk
        rw [List.getElem?_set_self hlt] at hu
        cases hu
        rw [eventOf?, if_pos ⟨rfl, hlt⟩, Option.toList_some]
        exact own_eq_advance h ht e
      · rw [List.getElem?_set_ne hk] at hu
        rw [hother fun hc => hk hc.1, noticesOf_append _ hhistory,
          if_neg fun he => hk (Option.some.inj he), List.append_nil]
        exact h.own_eq k u hu
    · intro k hk
      rw [hlen] at hk
      rw [hother fun hc => Nat.not_lt_of_le hk hc.2]
      exact h.fresh k hk

theorem tracks_run (a : Agent) (es : List Event) :
    Tracks a (run a {} es) (jobsOf a es) (eventsOf a es) := by
  -- From the end: the last event is one of a task or does nothing to those there are.
  induction es using List.reverseRecOn with
  | nil => exact tracks_empty a
  | append_singleton es e ih =>
    have hown : eventsOf a (es ++ [e]) =
        fun i => eventsOf a es i ++ ((run a {} es).eventOf? i e).toList := by
      funext i
      exact collect_concat _ _ es e
    rw [run_concat, jobsOf, collect_concat, hown]
    by_cases he : ∃ i te, e = .task i te
    · obtain ⟨i, te, rfl⟩ := he
      have hj : (run a {} es).jobOf? (.task i te) = none := rfl
      rw [hj, Option.toList_none, List.append_nil]
      exact tracks_advance ih i te
    · have htook := (step_other (a := a) (e := e) (fun i te h => he ⟨i, te, h⟩) (run a {} es)).1
      have hnone : (fun i => eventsOf a es i ++ ((run a {} es).eventOf? i e).toList) =
          eventsOf a es := by
        funext i
        cases e with
        | task k te => exact absurd ⟨k, te, rfl⟩ he
        | _ => exact List.append_nil _
      rw [hnone]
      cases hj : (run a {} es).jobOf? e with
      | none =>
        rw [hj] at htook
        rw [Option.toList_none, List.append_nil]
        exact tracks_none ih htook
      | some j =>
        rw [hj] at htook
        exact tracks_some ih htook

theorem tasks_step {t : Task} {i : Nat} (ht : s.tasks[i]? = some t) (e : Event) :
    (s.step a e).tasks[i]? = some (t.run a (s.eventOf? i e).toList).1 := by
  obtain ⟨hlt, -⟩ := List.getElem?_eq_some_iff.mp ht
  obtain ⟨k, te, rfl⟩ | ⟨he, -⟩ := step_cases a s e
  · rw [step, eventOf?]
    by_cases hk : k = i
    · subst hk
      rw [if_pos ⟨rfl, hlt⟩, (advance_eq ht te).1, List.getElem?_set_self hlt]
      rfl
    · rw [if_neg fun h => hk h.1]
      cases hu : s.tasks[k]? with
      | none =>
        rw [advance_of_none hu]
        exact ht
      | some u =>
        rw [(advance_eq hu te).1, List.getElem?_set_ne hk]
        exact ht
  · have hnone : s.eventOf? i e = none := by
      cases e with
      | task k te => exact absurd rfl (he k te)
      | _ => rfl
    have htook := (step_other (a := a) he s).1
    rw [hnone]
    cases hj : s.jobOf? e with
    | none =>
      rw [hj] at htook
      obtain ⟨ns, htasks, -⟩ := htook
      rw [htasks]
      exact ht
    | some j =>
      rw [hj] at htook
      rw [htook.1, List.getElem?_append_left hlt]
      exact ht

/-- A task that is there goes on by its own events, whatever else happens. -/
theorem tasks_run {t : Task} {i : Nat} (ht : s.tasks[i]? = some t) (es : List Event) :
    (run a s es).tasks[i]? = some (t.run a (collect a (eventOf? i) s es)).1 := by
  induction es generalizing s t with
  | nil => exact ht
  | cons e es ih =>
    rw [collect, Task.run_append]
    exact ih (tasks_step ht e)

end Session

end ScrapeCourier
