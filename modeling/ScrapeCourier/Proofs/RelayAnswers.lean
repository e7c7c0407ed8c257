import ScrapeCourier.Proofs.Delivery
import ScrapeCourier.Proofs.NoticeCounts

namespace ScrapeCourier

open Http

/-- An exchange after these replies; once it has ended it takes no more of them. -/
def Progress.after : Progress → List Reply → Progress
  | p, [] => p
  | .waiting x, r :: rs => (x.receive r).after rs
  | .ended o, _ :: _ => .ended o

theorem Progress.after_ended (o : Outcome) (rs : List Reply) :
    (Progress.ended o).after rs = .ended o := by
  cases rs <;> rfl

namespace Redirect

variable {c d : Call} {s : Status} {h : Fields}

theorem next?_of_isSuccess (hs : s.isSuccess) (c : Call) (h : Fields) : next? c s h = none := by
  rw [next?, if_neg]
  intro hr
  rw [Status.isSuccess, Bool.and_eq_true, decide_eq_true_eq, decide_eq_true_eq] at hs
  simp only [isRedirect, List.contains_iff_mem, List.mem_cons, List.not_mem_nil, or_false] at hr
  omega

/-- What another place is asked anew for is what it holds, not to take anything. -/
theorem of_asksAnew (hn : next? c s h = some (.ok d)) (hs : asksAnew s) (hc : c.method = .post) :
    d.method = .get ∧ d.body = [] := by
  have hanew : (anew s c).method = .get ∧ (anew s c).body = [] := by
    rw [anew, if_pos (by rw [hs, hc]; simp)]
    exact ⟨by rw [hc]; rfl, rfl⟩
  rw [next?] at hn
  split at hn
  · obtain ⟨place, -, hplace⟩ := Option.map_eq_some_iff.mp hn
    cases place with
    | error cause => cases hplace
    | ok v =>
      cases hplace
      exact hanew
  · cases hn

end Redirect

namespace Exchange

variable {x y z : Exchange} {r : Reply} {o : Outcome} {rs : List Reply}

/-- Answers that lead from one request to another. -/
inductive Redirects : Exchange → List (Answer TransportKind) → Exchange → Prop
  | here (x : Exchange) : Redirects x [] x
  | there {x y z : Exchange} {b : Answer TransportKind} {bs : List (Answer TransportKind)}
    (hb : x.receive (.answer b) = .waiting y) (h : Redirects y bs z) : Redirects x (b :: bs) z

theorem Redirects.concat {b : Answer TransportKind} {bs : List (Answer TransportKind)}
    (h : Redirects x bs y) (hb : y.receive (.answer b) = .waiting z) :
    Redirects x (bs ++ [b]) z := by
  induction h with
  | here x => exact .there hb (.here z)
  | there hb' _ ih => exact .there hb' (ih hb)

theorem conclude_receive (h : x.receive r = .ended o) :
    Push.conclude o = .ok () ↔ ∃ b, r = .answer b ∧ b.status.isSuccess := by
  constructor
  · intro ho
    cases o with
    | error cause => cases ho
    | ok c =>
      obtain ⟨b, rfl, -, rfl⟩ := of_receive_answer h
      rw [Push.conclude] at ho
      split at ho
      next hs => exact ⟨b, rfl, hs⟩
      · cases ho
  · rintro ⟨b, rfl, hs⟩
    rw [receive, Redirect.next?_of_isSuccess hs] at h
    cases h
    exact if_pos hs

/-- A result is taken when redirects, of which there may be none, end in an answer of success. -/
theorem conclude_after :
    (∃ o, (Progress.waiting x).after rs = .ended o ∧ Push.conclude o = .ok ()) ↔
      ∃ bs b more y, rs = bs.map .answer ++ .answer b :: more ∧ x.Redirects bs y ∧
        b.status.isSuccess := by
  constructor
  · rintro ⟨o, ho, hok⟩
    induction rs generalizing x with
    | nil => cases ho
    | cons r rs ih =>
      rw [Progress.after] at ho
      cases hr : x.receive r with
      | waiting y =>
        rw [hr] at ho
        obtain ⟨bs, b, more, z, rfl, hz, hs⟩ := ih ho
        obtain ⟨b', rfl, -⟩ := of_receive_waiting hr
        exact ⟨b' :: bs, b, more, z, rfl, .there hr hz, hs⟩
      | ended o' =>
        rw [hr, Progress.after_ended] at ho
        cases ho
        obtain ⟨b, rfl, hs⟩ := (conclude_receive hr).mp hok
        exact ⟨[], b, rs, x, rfl, .here x, hs⟩
  · rintro ⟨bs, b, more, y, rfl, hy, hs⟩
    induction hy with
    | here x =>
      have hx : x.receive (.answer b) = .ended (.ok (located x.call.url b)) := by
        rw [receive, Redirect.next?_of_isSuccess hs]
      exact ⟨_, by rw [List.map_nil, List.nil_append, Progress.after, hx, Progress.after_ended],
        (conclude_receive hx).mpr ⟨b, rfl, hs⟩⟩
    | there hb _ ih =>
      rw [List.map_cons, List.cons_append, Progress.after, hb]
      exact ih

theorem exists_ended
    (hr : ∀ b, r = .answer b → Redirect.next? x.call b.status b.fields = none) :
    ∃ o, x.receive r = .ended o := by
  cases hx : x.receive r with
  | waiting y =>
    obtain ⟨b, rfl, hnext, -⟩ := of_receive_waiting hx
    cases hnext.symm.trans (hr b rfl)
  | ended o => exact ⟨o, rfl⟩

theorem conclude_after_of_first
    (hr : ∀ b, r = .answer b → Redirect.next? x.call b.status b.fields = none) :
    (∃ o, (Progress.waiting x).after (r :: rs) = .ended o ∧ Push.conclude o = .ok ()) ↔
      ∃ b, r = .answer b ∧ b.status.isSuccess := by
  obtain ⟨o, hx⟩ := exists_ended hr
  rw [Progress.after, hx, Progress.after_ended, ← conclude_receive hx]
  constructor
  · rintro ⟨o', ho', hok⟩
    cases ho'
    exact hok
  · intro hok
    exact ⟨o, rfl, hok⟩

end Exchange

namespace Task

variable {a : Agent} {j : Job} {t : Task} {e : Execution}

def Event.reply? : Event → Option Reply
  | .begin _ => none
  | .reply r _ => some r

def wasTaken : Task → Bool
  | .done _ _ _ (.ok _) => true
  | _ => false

theorem wasRefused_eq (t : Task) : t.wasRefused = (t.isDone && !t.wasTaken) := by
  cases t with
  | done j e since outcome => cases outcome <;> rfl
  | _ => rfl

theorem wasTaken_pushed (j : Job) (e : Execution) (since : Duration) (p : Progress) :
    (pushed j e since p).1.wasTaken ↔ ∃ o, p = .ended o ∧ Push.conclude o = .ok () := by
  cases p with
  | waiting x => simp [pushed, wasTaken]
  | ended o =>
    rw [pushed]
    cases ho : Push.conclude o with
    | ok u => simp [wasTaken, ho]
    | error cause => simp [wasTaken, ho]

theorem run_done (h : t.isDone) (es : List Event) : (t.run a es).1 = t := by
  induction es with
  | nil => rfl
  | cons ev es ih =>
    cases t with
    | done j e since outcome => exact ih
    | _ => cases h

theorem isDone_pushed (j : Job) (e : Execution) (since : Duration) (o : Outcome) :
    (pushed j e since (.ended o)).1.isDone := by
  rw [pushed]
  split
  · rfl
  · rfl

/-- What has become of a push since its start, by the replies that have come since. -/
theorem run_pushing (j : Job) (e : Execution) (since : Duration) (x : Exchange) (es : List Event) :
    ((Task.pushing j e since x).run a es).1 =
      (pushed j e since ((Progress.waiting x).after (es.filterMap Event.reply?))).1 := by
  -- Once the exchange has ended, the task is done and takes no more replies.
  induction es generalizing x with
  | nil => rfl
  | cons ev es ih =>
    cases ev with
    | begin o => exact ih x
    | reply r now =>
      rw [run]
      change ((pushed j e since (x.receive r)).1.run a es).1 =
        (pushed j e since ((x.receive r).after (es.filterMap Event.reply?))).1
      cases x.receive r with
      | waiting y => exact ih y
      | ended o => rw [Progress.after_ended, run_done (isDone_pushed j e since o)]

theorem eq_deliver_of_moves {ev : Event} {st : Step} (hm : Moves a t ev st)
    (ht : t.execution? = none) (he : st.1.execution? = some e) :
    ∃ now, st = deliver a t.job e now := by
  cases hm with
  | stay => cases ht.symm.trans he
  | stop h =>
    cases (execution?_pushed _ _ _ _).symm.trans he
    exact ⟨_, rfl⟩
  | ask => cases he
  | follow => cases he
  | conclude h =>
    cases (execution?_pushed _ _ _ _).symm.trans he
    exact ⟨_, rfl⟩
  | push => cases ht

theorem exists_pushing (hp : CanPush a) {es : List Event}
    (he : ((Task.claimed j).run a es).1.execution? = some e) : ∃ pre post since x,
      es = pre ++ post ∧ ((Task.claimed j).run a pre).1 = .pushing j e since x ∧
      Exchange.start (Push.call a.pushUrl (message j e since)) = .waiting x ∧
      pushStarts ((Task.claimed j).run a pre).2 = [x] := by
  -- From the end: the event that brings the result is the one at which its push starts.
  induction es using List.reverseRecOn with
  | nil => cases he
  | append_singleton es ev ih =>
    rw [run_append] at he
    cases ht : ((Task.claimed j).run a es).1.execution? with
    | some e' =>
      cases (execution?_step ht ev).symm.trans he
      obtain ⟨pre, post, since, x, rfl, hrest⟩ := ih ht
      exact ⟨pre, post ++ [ev], since, x, List.append_assoc .., hrest⟩
    | none =>
      obtain ⟨now, hnow⟩ := eq_deliver_of_moves (moves_step a _ ev) ht he
      rw [job_run] at hnow
      obtain ⟨x, hx⟩ := hp (message j e now)
      obtain ⟨hpushing, hstarts⟩ := deliver_eq hx
      refine ⟨es ++ [ev], [], now, x, (List.append_nil _).symm, ?_, hx, ?_⟩
      · rw [run_append]
        simp only [run, hnow]
        exact hpushing
      · have hbefore := (inv_run hp (inv_claimed a j) es).none_before ht
        rw [List.nil_append] at hbefore
        rw [run_append, pushStarts_append, hbefore]
        simp only [run, hnow, List.append_nil]
        exact hstarts

end Task

namespace Session

variable {c : Config} {files : Files} {a : Agent} {s : Session} {es : List Event}

theorem PollsTo.exists_redirects {rs : List Reply} {y : Exchange} (h : PollsTo a rs y) :
    ∃ x bs, startPoll a = .waiting x ∧ x.Redirects bs y := by
  induction h with
  | @start x h => exact ⟨x, [], h, .here x⟩
  | follow _ hr ih =>
    obtain ⟨x, bs, hx, hbs⟩ := ih
    obtain ⟨b, rfl, -⟩ := Exchange.of_receive_waiting hr
    exact ⟨x, bs ++ [b], hx, hbs.concat hr⟩

theorem conclude_poll {x : Exchange} {r : Reply} {o : Outcome} {j : Job}
    (h : x.receive r = .ended o) : Poll.conclude o = .ok j ↔ ∃ b octets, r = .answer b ∧
      b.status.isSuccess ∧ b.body = .ok octets ∧ Job.decode octets = .ok j := by
  constructor
  · intro ho
    cases o with
    | error cause => cases ho
    | ok c =>
      obtain ⟨b, rfl, -, rfl⟩ := Exchange.of_receive_answer h
      rw [Poll.conclude] at ho
      split at ho
      next hs =>
        obtain ⟨octets, hbody, hj⟩ := bind_eq_ok.mp ho
        exact ⟨b, octets, rfl, hs, mapError_eq_ok.mp (mapError_eq_ok.mp hbody),
          mapError_eq_ok.mp hj⟩
      · cases ho
  · rintro ⟨b, octets, rfl, hs, hbody, hj⟩
    rw [Exchange.receive, Redirect.next?_of_isSuccess hs] at h
    cases h
    rw [Poll.conclude, if_pos (by exact hs), Exchange.located, hbody]
    exact mapError_eq_ok.mpr hj

/-- What the relay's answers decide of each result that is pushed and of each poll. -/
structure RelayDecides (a : Agent) (es : List Event) (s : Session) : Prop where
  pushErrors : s.counts.pushErrors = s.tasks.countP fun t => t.isDone && !t.wasTaken
  pushes : ∀ i t e, s.tasks[i]? = some t → t.execution? = some e → ∃ pre post since x,
    eventsOf a es i = pre ++ post ∧
      ((Task.claimed t.job).run a pre).1 = .pushing t.job e since x ∧ s.pushesOf i = [x] ∧
      x.Carries (Push.call a.pushUrl (Task.message t.job e since)) ∧
      (t.wasTaken ↔ ∃ bs b more y,
        post.filterMap Task.Event.reply? = bs.map .answer ++ .answer b :: more ∧
          x.Redirects bs y ∧ b.status.isSuccess) ∧
      (∀ r more, post.filterMap Task.Event.reply? = r :: more →
        (∀ b, r = .answer b → Redirect.next? x.call b.status b.fields = none) →
        t.isDone ∧ (t.wasTaken ↔ ∃ b, r = .answer b ∧ b.status.isSuccess)) ∧
      ∀ b y, x.receive (.answer b) = .waiting y → Redirect.asksAnew b.status →
        y.call.method = .get ∧ y.call.body = []
  polls : ∀ e result, pollEnd? a s e = some result →
    (∀ j, result = .ok j ↔ ∃ x bs y b octets, startPoll a = .waiting x ∧ x.Redirects bs y ∧
      s.loop.poll? = some y ∧ e = .reply (.answer b) ∧ b.status.isSuccess ∧
      b.body = .ok octets ∧ Job.decode octets = .ok j) ∧
    (s.step a e).tasks = s.tasks ++ (result.toOption.map Task.claimed).toList

theorem tasks_of_pollEnd? {e : Event} {result : Except PollError Job}
    (h : pollEnd? a s e = some result) :
    (s.step a e).tasks = s.tasks ++ (result.toOption.map Task.claimed).toList := by
  cases result with
  | error cause =>
    rw [step_of_error h]
    exact (List.append_nil _).symm
  | ok j =>
    rw [step_of_ok h]
    rfl

theorem pollEnd?_eq_ok (hs : run a {} es = s) {e : Event} {result : Except PollError Job}
    (h : pollEnd? a s e = some result) (j : Job) :
    result = .ok j ↔ ∃ x bs y b octets, startPoll a = .waiting x ∧ x.Redirects bs y ∧
      s.loop.poll? = some y ∧ e = .reply (.answer b) ∧ b.status.isSuccess ∧
      b.body = .ok octets ∧ Job.decode octets = .ok j := by
  obtain ⟨o, hat, rfl⟩ := pollEnd?_eq_some.mp h
  have hunsent (hstart : startPoll a = .ended o) : Poll.conclude o ≠ .ok j := by
    have hnone := job?_startPoll a
    rw [hstart, Progress.job?] at hnone
    intro hj
    rw [hj] at hnone
    cases hnone
  obtain ⟨he, hstart⟩ | ⟨y, r, rfl, hy, hr⟩ := of_pollAt? hat
  · constructor
    · intro hj
      exact absurd hj (hunsent hstart)
    · rintro ⟨x, bs, y, b, octets, -, -, -, rfl, -⟩
      obtain he | he := he
      · cases he
      · cases he
  · rw [conclude_poll hr]
    constructor
    · rintro ⟨b, octets, rfl, hsuccess, hbody, hj⟩
      obtain ⟨rs, hpolls⟩ := (claims_run a es).1 y (hs ▸ hy)
      obtain ⟨x, bs, hx, hbs⟩ := hpolls.exists_redirects
      exact ⟨x, bs, y, b, octets, hx, hbs, hy, rfl, hsuccess, hbody, hj⟩
    · rintro ⟨x, bs, z, b, octets, -, -, -, he, hsuccess, hbody, hj⟩
      cases he
      exact ⟨b, octets, rfl, hsuccess, hbody, hj⟩

theorem exists_pushing (hp : Task.CanPush a) {i : Nat} {t : Task} {e : Execution}
    (ht : (run a {} es).tasks[i]? = some t) (he : t.execution? = some e) : ∃ pre post since x,
      eventsOf a es i = pre ++ post ∧
      ((Task.claimed t.job).run a pre).1 = .pushing t.job e since x ∧
      (run a {} es).pushesOf i = [x] ∧
      Exchange.start (Push.call a.pushUrl (Task.message t.job e since)) = .waiting x ∧
      t = (Task.pushed t.job e since
        ((Progress.waiting x).after (post.filterMap Task.Event.reply?))).1 := by
  obtain ⟨hown, hnotices⟩ := own_run ht
  obtain ⟨pre, post, since, x, heq, hpre, hx, hstarts⟩ := Task.exists_pushing hp (hown ▸ he)
  refine ⟨pre, post, since, x, heq, hpre, ?_, hx, ?_⟩
  · obtain ⟨hn, -⟩ | ⟨_, _, y, -, hpushes, -⟩ := pushesOf_cases hp ht
    · cases hn.symm.trans he
    · have hboth : (run a {} es).pushesOf i =
          [x] ++ pushStarts (((Task.claimed t.job).run a pre).1.run a post).2 := by
        rw [pushesOf, hnotices, heq, Task.run_append, ← hstarts, ← pushStarts_append]
        rfl
      rw [hpushes] at hboth ⊢
      rw [List.head_eq_of_cons_eq hboth]
  · rw [heq, Task.run_append, hpre] at hown
    exact hown.trans (Task.run_pushing _ _ _ _ _)

theorem relayDecides_run (ha : Agent.ofConfig c files = .ok a) (es : List Event) {s : Session}
    (hs : run a {} es = s) : RelayDecides a es s := by
  refine ⟨?_, fun i t e ht he => ?_, fun e result h => ⟨pollEnd?_eq_ok hs h, tasks_of_pollEnd? h⟩⟩
  · rw [← hs, pushErrors_run]
    exact List.countP_congr fun t _ => by rw [Task.wasRefused_eq]
  · cases hs
    obtain ⟨rs, hclaims⟩ := exists_claims ht
    obtain ⟨pre, post, since, x, heq, hpre, hpushes, hx, ht⟩ :=
      exists_pushing (canPush_of_claims ha hclaims) ht he
    have hcarries := Exchange.carries_of_start hx
    have htaken : t.wasTaken ↔ ∃ o, (Progress.waiting x).after (post.filterMap Task.Event.reply?) =
        .ended o ∧ Push.conclude o = .ok () := by
      rw [congrArg Task.wasTaken ht]
      exact Task.wasTaken_pushed _ _ _ _
    refine ⟨pre, post, since, x, heq, hpre, hpushes, hcarries,
      htaken.trans Exchange.conclude_after, fun r more hr hfirst => ?_, fun b y hb hanew => ?_⟩
    · rw [hr] at htaken ht
      refine ⟨?_, htaken.trans (Exchange.conclude_after_of_first hfirst)⟩
      obtain ⟨o, ho⟩ := Exchange.exists_ended hfirst
      rw [Progress.after, ho, Progress.after_ended] at ht
      rw [congrArg Task.isDone ht]
      exact Task.isDone_pushed _ _ _ _
    · obtain ⟨b', hb', hnext, -⟩ := Exchange.of_receive_waiting hb
      cases hb'
      exact Redirect.of_asksAnew hnext hanew hcarries.1

namespace DetourExample

def detour : Answer TransportKind where
  status := ⟨303, by decide⟩
  fields := .ofList
    [⟨Redirect.location, { octets := Octets.ofAscii "http://u:9200/x", valid := by decide }⟩]
  body := .ok []

/-- A job without a timeout, whose result the relay does not take but another place answers for. -/
def events : List Event :=
  [.claim, .reply (Example.answer .empty "GET http://t/ HTTP/1.1\r\nId: 7\r\n\r\n"),
    .task 0 (.begin {}), .task 0 (.reply (.answer detour) .zero),
    .task 0 (.reply (Example.answer .empty "") .zero)]

end DetourExample

open DetourExample in
theorem relayDecides_run_detour :
    (run Example.agent {} events).counts.pushErrors = 0 ∧
      ∃ x y, (run Example.agent {} events).pushesOf 0 = [x] ∧
        x.receive (.answer detour) = .waiting y ∧ y.call.method = .get ∧ y.call.body = [] := by
  have hagent : Agent.ofConfig Example.config (fun _ => .ok []) = .ok Example.agent := by rfl
  have hrun : ((run Example.agent {} events).tasks.map fun t =>
        (t.wasTaken, t.execution?.isSome)) = [(true, true)] ∧
      ((run Example.agent {} events).pushesOf 0).all
        fun x => (x.receive (.answer detour)).polled?.isNone := by
    decide +kernel
  obtain ⟨htasks, hdetour⟩ := hrun
  obtain ⟨t, ts, hts, ht, hnil⟩ := List.map_eq_cons_iff.mp htasks
  obtain ⟨htaken, hexecution⟩ := Prod.mk.inj ht
  obtain rfl := List.map_eq_nil_iff.mp hnil
  obtain ⟨e, he⟩ := Option.isSome_iff_exists.mp hexecution
  have hfirst : (run Example.agent {} events).tasks[0]? = some t := by
    rw [hts]
    rfl
  have hdecides := relayDecides_run hagent events rfl
  obtain ⟨pre, post, since, x, -, -, hpushes, -, -, -, hanew⟩ := hdecides.pushes 0 t e hfirst he
  constructor
  · rw [hdecides.pushErrors, hts]
    simp [htaken]
  · rw [hpushes, List.all_cons] at hdetour
    cases hx : x.receive (.answer detour) with
    | ended o => rw [hx] at hdetour; cases hdetour
    | waiting y => exact ⟨x, y, hpushes, hx, hanew detour y hx (by decide)⟩

end Session

end ScrapeCourier
