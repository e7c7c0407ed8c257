import ScrapeCourier.Proofs.ReadFields
import ScrapeCourier.Proofs.TaskStep

namespace ScrapeCourier

def Notice.pushStart? : Notice → Option Exchange
  | .called .push x => if x.followed = 0 then some x else none
  | _ => none

def pushStarts (ns : List Notice) : List Exchange := ns.filterMap Notice.pushStart?

theorem pushStarts_append (ns ms : List Notice) :
    pushStarts (ns ++ ms) = pushStarts ns ++ pushStarts ms := List.filterMap_append

namespace Exchange

variable {x y : Exchange} {r : Reply}

theorem followed_of_receive (h : x.receive r = .waiting y) : y.followed = x.followed + 1 := by
  obtain ⟨-, -, -, hf, -⟩ := of_receive_waiting h
  exact hf

theorem length_of_receive {a : Answer TransportError} (hr : r.InLimit)
    (h : x.receive r = .ended (.ok a)) : a.fields.toList.length ≤ Wire.maxFields := by
  obtain ⟨b, rfl, -, rfl⟩ := of_receive_answer h
  exact hr

end Exchange

namespace Execution

def HasRoom (e : Execution) : Prop := e.reported.fields.toList.length ≤ Wire.maxFields

theorem hasRoom_error (cause : JobError) (deadline : Option Duration) :
    HasRoom ⟨.error cause, deadline⟩ := Nat.zero_le _

theorem hasRoom_conclude {target : Url} {o : Outcome} (deadline : Option Duration)
    (h : ∀ a, o = .ok a → a.fields.toList.length ≤ Wire.maxFields) :
    HasRoom ⟨conclude target o, deadline⟩ := by
  cases o with
  | error cause => exact hasRoom_error _ _
  | ok a =>
    cases hb : a.body with
    | error cause =>
      simp only [conclude, hb]
      exact hasRoom_error _ _
    | ok body =>
      simp only [conclude, hb]
      exact h a rfl

end Execution

namespace Task

variable {a : Agent} {j : Job} {t t' : Task} {e : Execution} {ns : List Notice}

def run (a : Agent) : Task → List Event → Step
  | t, [] => (t, [])
  | t, ev :: es => ((run a (t.step a ev).1 es).1, (t.step a ev).2 ++ (run a (t.step a ev).1 es).2)

theorem run_append (t : Task) (es fs : List Event) :
    t.run a (es ++ fs) =
      (((t.run a es).1.run a fs).1, (t.run a es).2 ++ ((t.run a es).1.run a fs).2) := by
  induction es generalizing t with
  | nil => rfl
  | cons ev es ih =>
    rw [List.cons_append, run, ih, run, List.append_assoc]

def execution? : Task → Option Execution
  | .pushing _ e _ _ | .done _ e _ _ => some e
  | _ => none

def Event.InLimit : Event → Prop
  | .begin _ => True
  | .reply r _ => r.InLimit

def HasRoom (t : Task) : Prop := ∀ e, t.execution? = some e → e.HasRoom

theorem execution?_pushed (j : Job) (e : Execution) (since : Duration) (p : Progress) :
    (pushed j e since p).1.execution? = some e := by
  cases p with
  | waiting x => rfl
  | ended o =>
    rw [pushed]
    split
    · rfl
    · rfl

theorem hasRoom_pushed (he : e.HasRoom) (since : Duration) (p : Progress) :
    HasRoom (pushed j e since p).1 := by
  intro e' h
  rw [execution?_pushed] at h
  cases h
  exact he

theorem hasRoom_of_moves {ev : Event} {st : Step} (hm : Moves a t ev st) (hev : ev.InLimit)
    (h : t.HasRoom) : HasRoom st.1 := by
  cases hm with
  | stay => exact h
  | stop => exact hasRoom_pushed (Execution.hasRoom_error _ _) _ _
  | ask => exact fun e he => nomatch he
  | follow => exact fun e he => nomatch he
  | conclude ho =>
    apply hasRoom_pushed
    apply Execution.hasRoom_conclude
    intro b hb
    exact Exchange.length_of_receive hev (hb ▸ ho)
  | push => exact hasRoom_pushed (h _ rfl) _ _

theorem hasRoom_run {es : List Event} (hes : ∀ ev ∈ es, ev.InLimit) (h : t.HasRoom) :
    HasRoom (t.run a es).1 := by
  induction es generalizing t with
  | nil => exact h
  | cons ev es ih =>
    apply ih
    · intro ev' hev'
      exact hes ev' (List.mem_cons_of_mem ev hev')
    · exact hasRoom_of_moves (moves_step a t ev) (hes ev List.mem_cons_self) h

/-- What holds of a job and the notices given of it: nothing is handed over before there is a result,
and then that result is, once. -/
structure Inv (a : Agent) (t : Task) (ns : List Notice) : Prop where
  none_before : t.execution? = none → pushStarts ns = []
  once : ∀ e, t.execution? = some e → ∃ since x,
    Exchange.start (Push.call a.pushUrl (message t.job e since)) = .waiting x ∧ pushStarts ns = [x]

def CanPush (a : Agent) : Prop := ∀ m, ∃ x, Exchange.start (Push.call a.pushUrl m) = .waiting x

theorem inv_claimed (a : Agent) (j : Job) : Inv a (.claimed j) [] where
  none_before := fun _ => rfl
  once := fun _ h => nomatch h

theorem deliver_eq {now : Duration} {x : Exchange}
    (hx : Exchange.start (Push.call a.pushUrl (message j e now)) = .waiting x) :
    (deliver a j e now).1 = .pushing j e now x ∧ pushStarts (deliver a j e now).2 = [x] := by
  have hf := (Exchange.of_start hx).2.1
  have hs : pushStarts [.called .push x] = [x] := by
    rw [pushStarts, List.filterMap_cons, Notice.pushStart?, if_pos hf]
    rfl
  cases hr : e.result with
  | ok r =>
    simp only [deliver, hx, pushed, hr]
    exact ⟨trivial, hs⟩
  | error cause =>
    simp only [deliver, hx, pushed, hr]
    exact ⟨trivial, hs⟩

theorem inv_deliver {now : Duration} (hp : CanPush a) (hns : pushStarts ns = []) :
    Inv a (deliver a j e now).1 (ns ++ (deliver a j e now).2) := by
  obtain ⟨x, hx⟩ := hp (message j e now)
  obtain ⟨ht, hs⟩ := deliver_eq hx
  rw [ht]
  refine ⟨(fun h => nomatch h), ?_⟩
  intro e' h
  cases h
  refine ⟨now, x, hx, ?_⟩
  rw [pushStarts_append, hns, hs]
  rfl

theorem inv_asked {d : Duration} {prepared : Call} (hns : pushStarts ns = []) (x : Exchange) :
    Inv a (.scraping j d prepared x) (ns ++ [.called .scrape x]) where
  none_before := fun _ => by
    rw [pushStarts_append, hns]
    rfl
  once := fun _ h => nomatch h

/-- Redirects are followed within the exchange, and nothing else is sent once a result is handed
over. -/
theorem inv_pushed {since : Duration} {x : Exchange} (h : Inv a (.pushing j e since x) ns)
    (r : Reply) :
    Inv a (pushed j e since (x.receive r)).1 (ns ++ (pushed j e since (x.receive r)).2) := by
  obtain ⟨since', y, hy, hns⟩ := h.once e rfl
  have hmore (more : List Notice) (hm : pushStarts more = []) : pushStarts (ns ++ more) = [y] := by
    rw [pushStarts_append, hm, List.append_nil, hns]
  cases hr : x.receive r with
  | waiting z =>
    have hz : z.followed ≠ 0 := by
      rw [Exchange.followed_of_receive hr]
      exact Nat.succ_ne_zero _
    have hcall : pushStarts [.called .push z] = [] := by
      rw [pushStarts, List.filterMap_cons, Notice.pushStart?, if_neg hz]
      rfl
    refine ⟨(fun h => nomatch h), fun e' he' => ?_⟩
    cases he'
    exact ⟨since', y, hy, hmore _ hcall⟩
  | ended o =>
    rw [pushed]
    split
    · refine ⟨(fun h => nomatch h), fun e' he' => ?_⟩
      cases he'
      exact ⟨since', y, hy, hmore _ rfl⟩
    · refine ⟨(fun h => nomatch h), fun e' he' => ?_⟩
      cases he'
      exact ⟨since', y, hy, hmore _ rfl⟩

theorem inv_of_moves {ev : Event} {st : Step} (hm : Moves a t ev st) (hp : CanPush a)
    (h : Inv a t ns) : Inv a st.1 (ns ++ st.2) := by
  cases hm with
  | stay => rwa [List.append_nil]
  | stop => exact inv_deliver hp (h.none_before rfl)
  | ask => exact inv_asked (h.none_before rfl) _
  | follow => exact inv_asked (h.none_before rfl) _
  | conclude => exact inv_deliver hp (h.none_before rfl)
  | push => exact inv_pushed h _

theorem inv_run (hp : CanPush a) (h : Inv a t ns) (es : List Event) :
    Inv a (t.run a es).1 (ns ++ (t.run a es).2) := by
  induction es generalizing t ns with
  | nil => rwa [run, List.append_nil]
  | cons ev es ih =>
    rw [run, ← List.append_assoc]
    exact ih (inv_of_moves (moves_step a t ev) hp h)

theorem execution?_of_isDone (h : t.isDone) : ∃ e, t.execution? = some e := by
  cases t with
  | done j e since outcome => exact ⟨e, rfl⟩
  | _ => cases h

/-- Two events that differ in time alone, and not so that the deadline lies between them. -/
def Event.Alike (j : Job) : Event → Event → Prop
  | .begin o, .begin o' => o.files = o'.files ∧ j.deadline o.received = j.deadline o'.received ∧
    ∀ d, j.deadline o.received = .ok d → (d.minus o.now).isZero = (d.minus o'.now).isZero
  | .reply r _, .reply r' _ => r = r'
  | _, _ => False

/-- Tasks that are the same until a result is handed over, and then have handed over the same. -/
inductive Agree : Task → Task → Prop
  | same (t : Task) : Agree t t
  | handed {t t' : Task} (e : Execution) (h : t.execution? = some e) (h' : t'.execution? = some e) :
    Agree t t'

theorem agree_deliver (a : Agent) (j : Job) (e : Execution) (now now' : Duration) :
    Agree (deliver a j e now).1 (deliver a j e now').1 :=
  .handed e (execution?_pushed j e now _) (execution?_pushed j e now' _)

theorem agree_scraped (a : Agent) (j : Job) (deadline : Duration) (prepared : Call)
    (now now' : Duration) (p : Progress) :
    Agree (scraped a j deadline prepared now p).1 (scraped a j deadline prepared now' p).1 := by
  cases p with
  | waiting x => exact .same _
  | ended o => exact agree_deliver a j _ now now'

theorem agree_begin {o o' : Outset} (h : Event.Alike j (.begin o) (.begin o')) :
    Agree (begin a j o).1 (begin a j o').1 := by
  obtain ⟨hfiles, hdeadline, hzero⟩ := h
  rw [begin, begin, ← hfiles, ← hdeadline]
  cases hd : j.deadline o.received with
  | error cause => exact agree_deliver a j _ o.now o'.now
  | ok d =>
    cases hp : j.prepare a.config o.files with
    | error cause => exact agree_deliver a j _ o.now o'.now
    | ok prepared =>
      dsimp only
      rw [hzero d hd]
      split
      · exact agree_deliver a j _ o.now o'.now
      · exact agree_scraped a j d prepared o.now o'.now _

theorem execution?_of_moves {ev : Event} {st : Step} (hm : Moves a t ev st)
    (h : t.execution? = some e) : st.1.execution? = some e := by
  cases hm with
  | stay => exact h
  | stop => cases h
  | ask => cases h
  | follow => cases h
  | conclude => cases h
  | push =>
    cases h
    exact execution?_pushed _ _ _ _

theorem execution?_step (h : t.execution? = some e) (ev : Event) :
    (t.step a ev).1.execution? = some e := execution?_of_moves (moves_step a t ev) h

theorem agree_step {ev ev' : Event} (h : Agree t t') (hev : ev.Alike t.job ev') :
    Agree (t.step a ev).1 (t'.step a ev').1 := by
  cases h with
  | handed e h h' => exact .handed e (execution?_step h ev) (execution?_step h' ev')
  | same =>
    cases ev with
    | begin o =>
      cases ev' with
      | reply r now' => cases hev
      | begin o' =>
        cases t with
        | claimed j => exact agree_begin hev
        | scraping j deadline prepared x => exact .same _
        | pushing j e since x => exact .same _
        | done j e since outcome => exact .same _
    | reply r now =>
      cases ev' with
      | begin o' => cases hev
      | reply r' now' =>
        cases hev
        cases t with
        | claimed j => exact .same _
        | scraping j deadline prepared x => exact agree_scraped a j deadline prepared now now' _
        | pushing j e since x => exact .same _
        | done j e since outcome => exact .same _

theorem job_pushed (j : Job) (e : Execution) (since : Duration) (p : Progress) :
    (pushed j e since p).1.job = j := by
  cases p with
  | waiting x => rfl
  | ended o =>
    rw [pushed]
    split
    · rfl
    · rfl

theorem job_of_moves {ev : Event} {st : Step} (hm : Moves a t ev st) : st.1.job = t.job := by
  cases hm with
  | stay => rfl
  | stop => exact job_pushed _ _ _ _
  | ask => rfl
  | follow => rfl
  | conclude => exact job_pushed _ _ _ _
  | push => exact job_pushed _ _ _ _

theorem job_step (t : Task) (ev : Event) : (t.step a ev).1.job = t.job :=
  job_of_moves (moves_step a t ev)

theorem job_run (t : Task) (es : List Event) : (t.run a es).1.job = t.job := by
  induction es generalizing t with
  | nil => rfl
  | cons ev es ih => exact (ih (t.step a ev).1).trans (job_step t ev)

theorem execution?_of_agree (h : Agree t t') : t.execution? = t'.execution? := by
  cases h with
  | same => rfl
  | handed e h h' => rw [h, h']

theorem agree_run {es es' : List Event} (h : Agree t t') (hj : t.job = j)
    (hes : List.Forall₂ (Event.Alike j) es es') : Agree (t.run a es).1 (t'.run a es').1 := by
  -- The time matters only to whether the deadline is reached, which is the same in both.
  induction hes generalizing t t' with
  | nil => exact h
  | cons hev _ ih =>
    cases hj
    exact ih (agree_step h hev) (job_step t _)

end Task

end ScrapeCourier
