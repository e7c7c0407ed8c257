import ScrapeCourier.Proofs.ResultMessage
import ScrapeCourier.Proofs.SessionTrace

namespace ScrapeCourier

open Http

namespace Session

variable {a : Agent} {s : Session} {rs : List Reply} {x : Exchange} {j : Job} {t : Task}

/-- A poll that has come to a request by these replies. -/
inductive PollsTo (a : Agent) : List Reply → Exchange → Prop
  | start {x : Exchange} (h : startPoll a = .waiting x) : PollsTo a [] x
  | follow {rs : List Reply} {r : Reply} {x y : Exchange} (h : PollsTo a rs x)
    (hr : x.receive r = .waiting y) : PollsTo a (rs ++ [r]) y

/-- A poll that ends in a job by these replies. -/
def Claims (a : Agent) (rs : List Reply) (j : Job) : Prop :=
  ∃ qs x r, rs = qs ++ [r] ∧ PollsTo a qs x ∧ (x.receive r).job? = some j

theorem PollsTo.exists_startPoll (h : PollsTo a rs x) : ∃ y, startPoll a = .waiting y := by
  induction h with
  | start h => exact ⟨_, h⟩
  | follow _ _ ih => exact ih

theorem exists_decode_of_conclude {o : Outcome} (h : Poll.conclude o = .ok j) :
    ∃ raw, Job.decode raw = .ok j := by
  cases o with
  | error e => cases h
  | ok b =>
    rw [Poll.conclude] at h
    split at h
    · obtain ⟨raw, -, h⟩ := bind_eq_ok.mp h
      exact ⟨raw, mapError_eq_ok.mp h⟩
    · cases h

theorem Claims.exists_decode (h : Claims a rs j) : ∃ raw, Job.decode raw = .ok j := by
  obtain ⟨qs, x, r, -, -, hj⟩ := h
  cases hr : x.receive r with
  | waiting y =>
    rw [hr] at hj
    cases hj
  | ended o =>
    rw [hr] at hj
    exact exists_decode_of_conclude (eq_ok_of_toOption hj)

theorem loop_advance (s : Session) (i : Nat) (e : Task.Event) : (s.advance a i e).loop = s.loop := by
  cases ht : s.tasks[i]? with
  | none => rw [advance_of_none ht]
  | some t => exact (advance_eq ht e).2.1

theorem claims_run (a : Agent) (es : List Event) :
    (∀ x, (run a {} es).loop.poll? = some x → ∃ rs, PollsTo a rs x) ∧
      ∀ j ∈ jobsOf a es, ∃ rs, Claims a rs j := by
  -- From the end, as the poll under way is known by all events before.
  induction es using List.reverseRecOn with
  | nil => exact ⟨(fun _ h => nomatch h), fun _ h => nomatch h⟩
  | append_singleton es e ih =>
    obtain ⟨hpoll, hjobs⟩ := ih
    rw [run_concat, jobsOf, collect_concat]
    by_cases he : ∃ i te, e = .task i te
    · obtain ⟨i, te, rfl⟩ := he
      have hj : (run a {} es).jobOf? (.task i te) = none := rfl
      rw [hj, Option.toList_none, List.append_nil, step, loop_advance]
      exact ⟨hpoll, hjobs⟩
    · have hother := step_other (a := a) (e := e) (fun i te h => he ⟨i, te, h⟩) (run a {} es)
      refine ⟨fun x hx => ?_, fun j hj => ?_⟩
      · obtain hx | hx | ⟨y, r, hy, hr⟩ := hother.2 x hx
        · exact hpoll x hx
        · exact ⟨[], .start hx⟩
        · obtain ⟨rs, hrs⟩ := hpoll y hy
          exact ⟨rs ++ [r], hrs.follow hr⟩
      · obtain hj | hj := List.mem_append.mp hj
        · exact hjobs j hj
        · cases e with
          | reply r =>
            obtain ⟨y, hy, hr⟩ := Option.bind_eq_some_iff.mp (Option.mem_toList.mp hj)
            obtain ⟨rs, hrs⟩ := hpoll y hy
            exact ⟨rs ++ [r], rs, y, r, rfl, hrs, hr⟩
          | _ => cases hj

/-- The events of a session that takes on one job and goes on with it. -/
def alone (rs : List Reply) (own : List Task.Event) : List Event :=
  .claim :: rs.map .reply ++ own.map (.task 0)

theorem run_append (s : Session) (es fs : List Event) :
    s.run a (es ++ fs) = (s.run a es).run a fs := List.foldl_append

theorem run_pollsTo (h : PollsTo a rs x) :
    (run a {} (.claim :: rs.map .reply)).loop = .claiming x ∧
      (run a {} (.claim :: rs.map .reply)).tasks = [] := by
  induction h with
  | start h =>
    have hs : run a {} (.claim :: [].map .reply) = ({} : Session).claimed (startPoll a) := rfl
    rw [hs, h]
    exact ⟨rfl, rfl⟩
  | @follow rs r x y _ hr ih =>
    have hs : run a {} (.claim :: (rs ++ [r]).map .reply) =
        (run a {} (.claim :: rs.map .reply)).step a (.reply r) := by
      rw [← run_concat, List.map_append]
      rfl
    simp only [hs, step, ih.1, hr]
    exact ⟨rfl, ih.2⟩

theorem run_claims (h : Claims a rs j) :
    (run a {} (.claim :: rs.map .reply)).tasks = [.claimed j] ∧
      (run a {} (.claim :: rs.map .reply)).noticesOf 0 = [.claimed j] := by
  obtain ⟨qs, x, r, rfl, hpoll, hj⟩ := h
  obtain ⟨hloop, htasks⟩ := run_pollsTo hpoll
  have hs : run a {} (.claim :: (qs ++ [r]).map .reply) =
      (run a {} (.claim :: qs.map .reply)).claimed (x.receive r) := by
    rw [List.map_append, ← List.cons_append]
    change run a {} (_ ++ [.reply r]) = _
    rw [run_concat]
    simp only [step, hloop]
  have hnone : (run a {} (.claim :: qs.map .reply)).noticesOf 0 = [] :=
    noticesOf_fresh (tracks_run a _) (by rw [htasks]; exact Nat.le_refl _)
  have htook := (run a {} (.claim :: qs.map .reply)).took_claimed (x.receive r)
  rw [hj] at htook
  rw [hs, htook.1, htasks, noticesOf_append [.claimed j] htook.2, hnone, htasks]
  exact ⟨rfl, rfl⟩

theorem run_own (hs : s.tasks = [t]) (own : List Task.Event) :
    (s.run a (own.map (.task 0))).tasks = [(t.run a own).1] ∧
      (s.run a (own.map (.task 0))).noticesOf 0 = s.noticesOf 0 ++ (t.run a own).2 := by
  induction own generalizing s t with
  | nil => exact ⟨hs, (List.append_nil _).symm⟩
  | cons e own ih =>
    have ht : s.tasks[0]? = some t := by rw [hs]; rfl
    obtain ⟨htasks, -, hhistory⟩ := advance_eq (a := a) ht e
    rw [hs] at htasks
    obtain ⟨hlast, hnotices⟩ := ih htasks
    refine ⟨hlast, ?_⟩
    rw [Task.run, ← List.append_assoc]
    have hn := noticesOf_append _ hhistory 0
    rw [if_pos rfl] at hn
    rw [← hn]
    exact hnotices

theorem run_alone (h : Claims a rs j) (own : List Task.Event) :
    (run a {} (alone rs own)).tasks = [((Task.claimed j).run a own).1] ∧
      (run a {} (alone rs own)).noticesOf 0 = .claimed j :: ((Task.claimed j).run a own).2 := by
  obtain ⟨htasks, hnotices⟩ := run_claims h
  obtain ⟨hlast, hall⟩ := run_own htasks own
  rw [alone, run_append]
  exact ⟨hlast, hall.trans (congrArg (· ++ _) hnotices)⟩

/-- Two pushes of one result for a job, which may differ in the time that is left. -/
def SameResult (j : Job) (x y : Exchange) : Prop := ∃ r left left',
  x.call.body = ScrapeResult.encode j.id left r ∧ y.call.body = ScrapeResult.encode j.id left' r

theorem own_run {es : List Event} {i : Nat} (ht : (run a {} es).tasks[i]? = some t) :
    t = ((Task.claimed t.job).run a (eventsOf a es i)).1 ∧
      (run a {} es).noticesOf i =
        .claimed t.job :: ((Task.claimed t.job).run a (eventsOf a es i)).2 := by
  obtain ⟨j, hrun, hnotices⟩ := (tracks_run a es).own_eq i t ht
  have hj : t.job = j := by
    rw [hrun]
    exact Task.job_run _ _
  rw [hj]
  exact ⟨hrun, hnotices⟩

theorem pushesOf_cases (hp : Task.CanPush a) {es : List Event} {i : Nat}
    (ht : (run a {} es).tasks[i]? = some t) :
    (t.execution? = none ∧ (run a {} es).pushesOf i = []) ∨
      ∃ e since x, t.execution? = some e ∧ (run a {} es).pushesOf i = [x] ∧
        Exchange.start (Push.call a.pushUrl (Task.message t.job e since)) = .waiting x := by
  obtain ⟨hrun, hnotices⟩ := own_run ht
  have hinv := Task.inv_run hp (Task.inv_claimed a t.job) (eventsOf a es i)
  rw [← hrun, List.nil_append] at hinv
  have hpushes : (run a {} es).pushesOf i =
      pushStarts ((Task.claimed t.job).run a (eventsOf a es i)).2 := by
    rw [pushesOf, hnotices]
    rfl
  rw [hpushes]
  cases he : t.execution? with
  | none => exact .inl ⟨rfl, hinv.none_before he⟩
  | some e =>
    obtain ⟨since, x, hx, hns⟩ := hinv.once e he
    exact .inr ⟨e, since, x, rfl, hns, hx⟩

theorem exists_claims {es : List Event} {i : Nat} (ht : (run a {} es).tasks[i]? = some t) :
    ∃ rs, Claims a rs t.job := by
  apply (claims_run a es).2
  rw [← (tracks_run a es).jobs]
  exact List.mem_map_of_mem (List.mem_of_getElem? ht)

theorem canPush_of_claims {c : Config} {files : Files} (ha : Agent.ofConfig c files = .ok a)
    (h : Claims a rs j) : Task.CanPush a := by
  obtain ⟨qs, x, r, -, hpoll, -⟩ := h
  obtain ⟨y, hy⟩ := hpoll.exists_startPoll
  exact Agent.exists_push ha hy

theorem exists_execution_of_mem (hp : Task.CanPush a) {es : List Event} {i : Nat}
    (ht : (run a {} es).tasks[i]? = some t) (hx : x ∈ (run a {} es).pushesOf i) :
    ∃ e since, t.execution? = some e ∧
      Exchange.start (Push.call a.pushUrl (Task.message t.job e since)) = .waiting x := by
  obtain ⟨-, hpushes⟩ | ⟨e, since, y, he, hpushes, hy⟩ := pushesOf_cases hp ht
  · rw [hpushes] at hx
    cases hx
  · rw [hpushes] at hx
    obtain rfl := List.mem_singleton.mp hx
    exact ⟨e, since, he, hy⟩

theorem length_pushesOf_le (hp : Task.CanPush a) {es : List Event} {i : Nat}
    (ht : (run a {} es).tasks[i]? = some t) : ((run a {} es).pushesOf i).length ≤ 1 := by
  obtain ⟨-, hpushes⟩ | ⟨_, _, x, -, hpushes, -⟩ := pushesOf_cases hp ht
  · rw [hpushes]
    exact Nat.zero_le 1
  · rw [hpushes]
    exact Nat.le_refl 1

theorem length_pushesOf_of_isDone (hp : Task.CanPush a) {es : List Event} {i : Nat}
    (ht : (run a {} es).tasks[i]? = some t) (hd : t.isDone) :
    ((run a {} es).pushesOf i).length = 1 := by
  obtain ⟨e, he⟩ := Task.execution?_of_isDone hd
  obtain ⟨hn, -⟩ | ⟨_, _, x, -, hpushes, -⟩ := pushesOf_cases hp ht
  · cases hn.symm.trans he
  · rw [hpushes]
    rfl

theorem hasRoom_of_inLimit {es : List Event} {i : Nat} (ht : (run a {} es).tasks[i]? = some t)
    (h : ∀ e, .task i e ∈ es → e.InLimit) : t.HasRoom := by
  have hown : ∀ e ∈ eventsOf a es i, e.InLimit := by
    intro e he
    exact h e (mem_of_mem_eventsOf he)
  rw [(own_run ht).1]
  apply Task.hasRoom_run hown
  intro e he
  cases he

theorem relays_of_push {since : Duration} {e : Execution} (hid : j.id.IsTrimmed)
    (hx : Exchange.start (Push.call a.pushUrl (Task.message j e since)) = .waiting x)
    (he : e.HasRoom) (hb : x.call.body.length < UInt64.size) :
    ∃ m, Response.decode x.call.body = .ok m ∧
      ScrapeResult.Relays m j.id (e.left since) e.reported := by
  have hbody : x.call.body = Task.message j e since := (Exchange.of_start hx).2.2
  rw [hbody] at hb ⊢
  exact e.reported.decode_encode (e.left since) hid he hb

theorem decode_of_push {since : Duration} {e : Execution} (hid : j.id.IsTrimmed)
    (hx : Exchange.start (Push.call a.pushUrl (Task.message j e since)) = .waiting x)
    (he : e.HasRoom) (hb : x.call.body.length < UInt64.size) :
    ∃ m, Response.decode x.call.body = .ok m ∧
      (m.fields.values .id).map (·.octets) = [j.id.octets] := by
  obtain ⟨m, hm, hrelays⟩ := relays_of_push hid hx he hb
  exact ⟨m, hm, hrelays.id⟩

/-- A task gets to where it is, and gives the notices that it gives, without the others. -/
theorem exists_alone {es : List Event} {i : Nat} (ht : (run a {} es).tasks[i]? = some t) :
    ∃ rs, (run a {} (alone rs (eventsOf a es i))).tasks = [t] ∧
      (run a {} (alone rs (eventsOf a es i))).noticesOf 0 = (run a {} es).noticesOf i := by
  obtain ⟨rs, hclaims⟩ := exists_claims ht
  obtain ⟨htasks, hnotices⟩ := run_alone hclaims (eventsOf a es i)
  obtain ⟨hrun, hall⟩ := own_run ht
  refine ⟨rs, ?_, ?_⟩
  · rw [htasks, ← hrun]
  · rw [hnotices, hall]

theorem pushes_alike (hp : Task.CanPush a) {es es' : List Event} {i i' : Nat} {t' : Task}
    (ht : (run a {} es).tasks[i]? = some t) (ht' : (run a {} es').tasks[i']? = some t')
    (hj : t'.job = t.job)
    (hes : List.Forall₂ (Task.Event.Alike t.job) (eventsOf a es i) (eventsOf a es' i')) :
    List.Forall₂ (SameResult t.job) ((run a {} es).pushesOf i) ((run a {} es').pushesOf i') := by
  have hagree : Task.Agree t t' := by
    rw [(own_run ht).1, (own_run ht').1, hj]
    exact Task.agree_run (.same _) rfl hes
  have he := Task.execution?_of_agree hagree
  obtain ⟨hn, hpushes⟩ | ⟨e, since, x, hs, hpushes, hx⟩ := pushesOf_cases hp ht
  · obtain ⟨-, hpushes'⟩ | ⟨e', since', x', hs', -, -⟩ := pushesOf_cases hp ht'
    · rw [hpushes, hpushes']
      exact .nil
    · cases (hn.symm.trans he).trans hs'
  · obtain ⟨hn', -⟩ | ⟨e', since', x', hs', hpushes', hx'⟩ := pushesOf_cases hp ht'
    · cases (hs.symm.trans he).trans hn'
    · cases (hs.symm.trans he).trans hs'
      rw [hpushes, hpushes']
      refine .cons ⟨e.reported, e.left since, e.left since', (Exchange.of_start hx).2.2, ?_⟩ .nil
      rw [← hj]
      exact (Exchange.of_start hx').2.2

/-- Lengths have 64 bits, so that no message in memory is longer than they can say. -/
theorem push_once {c : Config} {files : Files} {a : Agent} (ha : Agent.ofConfig c files = .ok a)
    (es : List Event) {s : Session} (hs : run a {} es = s) :
    s.tasks.map Task.job = jobsOf a es ∧
    (∀ en ∈ s.history, en.notice.pushStart?.isSome → ∃ i < s.tasks.length, en.task = some i) ∧
    ∀ i t, s.tasks[i]? = some t →
      t.job.id = (t.job.fields.first? .id).getD .empty ∧
      (s.pushesOf i).length ≤ 1 ∧ (t.isDone → (s.pushesOf i).length = 1) ∧
      (∀ x ∈ s.pushesOf i, ∃ r left,
        Exchange.start (Push.call a.pushUrl (ScrapeResult.encode t.job.id left r)) = .waiting x ∧
        ((∀ e, .task i e ∈ es → e.InLimit) → x.call.body.length < UInt64.size →
          ∃ m, Response.decode x.call.body = .ok m ∧
            (m.fields.values .id).map (·.octets) = [t.job.id.octets])) ∧
      (∃ rs, (run a {} (alone rs (eventsOf a es i))).tasks = [t] ∧
        (run a {} (alone rs (eventsOf a es i))).noticesOf 0 = s.noticesOf i) ∧
      ∀ es' i' t', (run a {} es').tasks[i']? = some t' → t'.job = t.job →
        List.Forall₂ (Task.Event.Alike t.job) (eventsOf a es i) (eventsOf a es' i') →
        List.Forall₂ (SameResult t.job) (s.pushesOf i) ((run a {} es').pushesOf i') := by
  cases hs
  have htracks := tracks_run a es
  refine ⟨htracks.jobs, ?_, ?_⟩
  · intro en hen hp
    obtain ⟨hlt, htask⟩ := htracks.fits en hen
    obtain ⟨i, hi⟩ := Option.isSome_iff_exists.mp (htask hp)
    exact ⟨i, hlt i hi, hi⟩
  · intro i t ht
    obtain ⟨rs, hclaims⟩ := exists_claims ht
    obtain ⟨raw, hraw⟩ := hclaims.exists_decode
    obtain ⟨hid, htrimmed⟩ := Job.id_of_decode hraw
    have hpush := canPush_of_claims ha hclaims
    refine ⟨hid, length_pushesOf_le hpush ht, length_pushesOf_of_isDone hpush ht, ?_,
      exists_alone ht, ?_⟩
    · intro x hx
      obtain ⟨e, since, he, hstart⟩ := exists_execution_of_mem hpush ht hx
      refine ⟨e.reported, e.left since, hstart, ?_⟩
      intro hlimit hb
      exact decode_of_push htrimmed hstart (hasRoom_of_inLimit ht hlimit e he) hb
    · intro es' i' t' ht' hj hes
      exact pushes_alike hpush ht ht' hj hes

namespace Example

def config : Config where
  fqdn := "n"
  relay.scheme := "http".toList
  relay.host := some (.domain "r".toList)
  relay.path := .segments [[]]

def agent : Agent where
  config := config
  files := fun _ => .ok []
  pollUrl := config.relay.below "poll".toList
  pushUrl := config.relay.below "push".toList

def answer (fields : Fields) (body : String) : Reply :=
  .answer ⟨.ok, fields, .ok (Octets.ofAscii body)⟩

def events : List Event :=
  [.claim,
    .reply (answer .empty
      "GET http://t/ HTTP/1.1\r\nId: 7\r\nX-Prometheus-Scrape-Timeout-Seconds: 5\r\n\r\n"),
    .task 0 (.begin {}),
    .task 0 (.reply (answer
      (.ofList [⟨.id, { octets := [57], valid := rfl }⟩, ⟨.id, .empty⟩]) "x 1") .zero),
    .task 0 (.reply (.lost .connect) .zero)]

theorem inLimit_events (e : Task.Event) (he : .task 0 e ∈ events) : e.InLimit := by
  simp only [events, List.mem_cons, List.not_mem_nil, or_false] at he
  obtain he | he | he | he | he := he
  · cases he
  · cases he
  · cases he
    trivial
  · cases he
    change _ ≤ Wire.maxFields
    decide
  · cases he
    trivial

end Example

open Example in
theorem push_once_own_id :
    ((run agent {} events).pushesOf 0).length = 1 ∧
    ∀ x ∈ (run agent {} events).pushesOf 0, ∃ m, Response.decode x.call.body = .ok m ∧
      (m.fields.values .id).map (·.octets) = [[55]] := by
  have hrun : ((run agent {} events).tasks.map fun t => (t.isDone, t.job.id.octets)) =
        [(true, [55])] ∧
      ((run agent {} events).pushesOf 0).all (·.call.body.length < UInt64.size) := by
    decide +kernel
  obtain ⟨htasks, hsize⟩ := hrun
  obtain ⟨t, ts, hts, ht, -⟩ := List.map_eq_cons_iff.mp htasks
  obtain ⟨hdone, hid⟩ := Prod.mk.inj ht
  have hfirst : (run agent {} events).tasks[0]? = some t := by
    rw [hts]
    rfl
  have hagent : Agent.ofConfig config (fun _ => .ok []) = .ok agent := by rfl
  obtain ⟨-, -, honce, hdecode, -, -⟩ := (push_once hagent events rfl).2.2 0 t hfirst
  refine ⟨honce hdone, fun x hx => ?_⟩
  obtain ⟨-, -, -, hread⟩ := hdecode x hx
  obtain ⟨m, hm, hvalues⟩ := hread inLimit_events (by simpa using List.all_eq_true.mp hsize x hx)
  exact ⟨m, hm, hvalues.trans (congrArg ([·]) hid)⟩

end Session

end ScrapeCourier
