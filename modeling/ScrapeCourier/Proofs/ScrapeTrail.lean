import Mathlib.Data.List.Chain
import ScrapeCourier.Proofs.TaskRun

namespace ScrapeCourier

def Notice.scrapeCall? : Notice → Option Exchange
  | .called .scrape x => some x
  | _ => none

def scrapeCalls (ns : List Notice) : List Exchange := ns.filterMap Notice.scrapeCall?

theorem scrapeCalls_append (ns ms : List Notice) :
    scrapeCalls (ns ++ ms) = scrapeCalls ns ++ scrapeCalls ms := List.filterMap_append

/-- What can be given notice of while a job goes its way. -/
def Notice.IsOf (j : Job) : Notice → Prop
  | .called leg _ => leg = .scrape ∨ leg = .push
  | .scrapeFailed k _ | .pushFailed k _ | .finished k => k = j
  | .claimed _ | .pollFailed .. | .drained _ => False

namespace Call

theorem method_signed (c : Call) : c.signed.method = c.method := by
  rw [signed]
  cases credentials? c.url with
  | none => rfl
  | some q => rfl

theorem method_accepting (c : Call) : c.accepting.method = c.method := by
  rw [accepting]
  split
  · rfl
  · rfl

theorem url_accepting (c : Call) : c.accepting.url = c.url := by
  rw [accepting]
  split
  · rfl
  · rfl

theorem withoutUserinfo_contacted (u : Url) : (contacted u).withoutUserinfo = u.withoutUserinfo := by
  rw [contacted]
  split
  · rfl
  · rfl

end Call

namespace Exchange

variable {Q : Exchange → Reply → Prop} {c : Call} {xs : List Exchange} {x y : Exchange} {r : Reply}

/-- The same request, but for who is named in the URL and for the fields. -/
def Carries (x : Exchange) (c : Call) : Prop :=
  x.call.method = c.method ∧ x.call.url.withoutUserinfo = c.url.withoutUserinfo ∧
    x.call.body = c.body

theorem carries_of_start (h : start c = .waiting x) : x.Carries c := by
  have hbody := (of_start h).2.2
  rw [start_eq] at h
  split at h
  · cases h
    refine ⟨?_, ?_, hbody⟩
    · rw [Call.method_accepting, Call.method_signed]
    · rw [Call.url_accepting, Call.url_signed, Call.withoutUserinfo_contacted]
  · cases h

def Leads (Q : Exchange → Reply → Prop) (x y : Exchange) : Prop :=
  ∃ b, Q x (.answer b) ∧ Redirect.next? x.call b.status b.fields = some (.ok y.call)

/-- The requests that a call comes to by the replies to them, of which the last one waits for its
own. -/
structure Trail (Q : Exchange → Reply → Prop) (c : Call) (xs : List Exchange) (x : Exchange) :
    Prop where
  first : ∃ y, start c = .waiting y ∧ xs.head? = some y
  last : xs.getLast? = some x
  leads : xs.IsChain (Leads Q)
  length : xs.length = x.followed + 1
  followed : x.followed ≤ maxRedirects

theorem trail_start (h : start c = .waiting x) : Trail Q c [x] x where
  first := ⟨x, h, rfl⟩
  last := rfl
  leads := List.isChain_singleton x
  length := by rw [(of_start h).2.1, List.length_singleton]
  followed := by
    rw [(of_start h).2.1]
    exact Nat.zero_le _

theorem Trail.follow (h : Trail Q c xs x) (hr : Q x r) (hy : x.receive r = .waiting y) :
    Trail Q c (xs ++ [y]) y := by
  obtain ⟨b, rfl, hnext, hfollowed, hroom⟩ := of_receive_waiting hy
  obtain ⟨z, hz, hhead⟩ := h.first
  refine ⟨⟨z, hz, ?_⟩, List.getLast?_concat, ?_, ?_, ?_⟩
  · rw [List.head?_append, hhead, Option.some_or]
  · apply h.leads.append (List.isChain_singleton y)
    intro x' hx' y' hy'
    rw [h.last] at hx'
    cases hx'
    cases hy'
    exact ⟨b, hr, hnext⟩
  · rw [List.length_append, h.length, hfollowed, List.length_singleton]
  · rw [hfollowed]
    exact hroom

theorem Trail.length_le_one (h : Trail Q c xs x)
    (hQ : ∀ y ∈ xs, ∀ b, Q y (.answer b) → Redirect.next? y.call b.status b.fields = none) :
    xs.length ≤ 1 := by
  match xs, h.leads, hQ with
  | [], _, _ => exact Nat.zero_le 1
  | [_], _, _ => exact Nat.le_refl 1
  | y :: z :: _, .cons_cons ⟨b, hb, hnext⟩ _, hQ =>
    rw [hQ y List.mem_cons_self b hb] at hnext
    cases hnext

end Exchange

theorem Execution.of_conclude {target : Url} {o : Outcome} {r : ScrapeResult}
    (h : conclude target o = .ok r) :
    ∃ a, o = .ok a ∧ a.body = .ok r.body ∧ r.status = a.status ∧ r.fields = a.fields := by
  cases o with
  | error cause => cases h
  | ok a =>
    cases hb : a.body with
    | error cause =>
      rw [conclude, hb] at h
      cases h
    | ok body =>
      rw [conclude, hb] at h
      cases h
      exact ⟨a, rfl, hb, rfl, rfl⟩

namespace Task

variable {B : Outset → Prop} {Q : Exchange → Reply → Prop} {a : Agent} {j : Job} {t u : Task}
  {e : Execution} {es : List Event} {xs : List Exchange}

/-- An event that comes when the task has got to this point. -/
def Meets (a : Agent) (t : Task) (es : List Event) (u : Task) (ev : Event) : Prop :=
  ∃ pre post, es = pre ++ ev :: post ∧ (t.run a pre).1 = u

theorem meets_head (a : Agent) (t : Task) (ev : Event) (es : List Event) :
    t.Meets a (ev :: es) t ev :=
  ⟨[], es, rfl, rfl⟩

theorem Meets.tail (ev : Event) {ev' : Event} (h : (t.step a ev).1.Meets a es u ev') :
    t.Meets a (ev :: es) u ev' := by
  obtain ⟨pre, post, rfl, hu⟩ := h
  exact ⟨ev :: pre, post, rfl, hu⟩

/-- A job whose result came of these requests and the replies to them, or that has none yet. -/
inductive Traced (B : Outset → Prop) (Q : Exchange → Reply → Prop) (a : Agent) :
    Task → List Exchange → Prop
  | claimed (j : Job) : Traced B Q a (.claimed j) []
  | scraping {j : Job} {o : Outset} {d : Duration} {prepared : Call} {xs : List Exchange}
    {x : Exchange} (hb : B o) (hp : j.prepare a.config o.files = .ok prepared)
    (h : Exchange.Trail Q prepared xs x) : Traced B Q a (.scraping j d prepared x) xs
  | unsent {t : Task} {e : Execution} {cause : JobError} (ht : t.execution? = some e)
    (he : e.result = .error cause) : Traced B Q a t []
  | replied {t : Task} {e : Execution} {o : Outset} {prepared : Call} {xs : List Exchange}
    {x : Exchange} {r : Reply} {outcome : Outcome} (ht : t.execution? = some e) (hb : B o)
    (hp : t.job.prepare a.config o.files = .ok prepared) (h : Exchange.Trail Q prepared xs x)
    (hr : Q x r) (ho : x.receive r = .ended outcome)
    (he : e.result = Execution.conclude prepared.url outcome) : Traced B Q a t xs

theorem scrapeCalls_pushed (j : Job) (e : Execution) (since : Duration) (p : Progress) :
    scrapeCalls (pushed j e since p).2 = [] := by
  cases p with
  | waiting x => rfl
  | ended o =>
    rw [pushed]
    split
    · rfl
    · rfl

theorem scrapeCalls_deliver (a : Agent) (j : Job) (e : Execution) (now : Duration) :
    scrapeCalls (deliver a j e now).2 = [] := by
  have hp := scrapeCalls_pushed j e now (Exchange.start (Push.call a.pushUrl (message j e now)))
  cases he : e.result with
  | ok r =>
    simp only [deliver, he]
    exact hp
  | error cause =>
    simp only [deliver, he]
    exact hp

theorem scrapeCalls_of_moves {ev : Event} {st : Step} (hm : Moves a t ev st)
    (ht : t.execution? = some e) : scrapeCalls st.2 = [] := by
  cases hm with
  | stay => rfl
  | stop => cases ht
  | ask => cases ht
  | follow => cases ht
  | conclude => cases ht
  | push => exact scrapeCalls_pushed _ _ _ _

theorem traced_of_moves {ev : Event} {st : Step} (hm : Moves a t ev st) (h : Traced B Q a t xs)
    (hB : ∀ j o, t = .claimed j → ev = .begin o → B o)
    (hQ : ∀ j d c x r now, t = .scraping j d c x → ev = .reply r now → Q x r) :
    Traced B Q a st.1 (xs ++ scrapeCalls st.2) := by
  cases h with
  | claimed j =>
    cases hm with
    | stay => exact .claimed j
    | stop =>
      rw [scrapeCalls_deliver]
      exact .unsent (execution?_pushed j _ _ _) rfl
    | ask _ hp _ hx => exact .scraping (hB _ _ rfl rfl) hp (Exchange.trail_start hx)
  | scraping hb hp h =>
    cases hm with
    | stay =>
      rw [scrapeCalls, List.filterMap_nil, List.append_nil]
      exact .scraping hb hp h
    | follow hy => exact .scraping hb hp (h.follow (hQ _ _ _ _ _ _ rfl rfl) hy)
    | conclude ho =>
      rw [scrapeCalls_deliver, List.append_nil]
      exact .replied (execution?_pushed _ _ _ _) hb ((job_pushed _ _ _ _).symm ▸ hp) h
        (hQ _ _ _ _ _ _ rfl rfl) ho rfl
  | unsent ht he =>
    rw [scrapeCalls_of_moves hm ht]
    exact .unsent (execution?_of_moves hm ht) he
  | replied ht hb hp h hr ho he =>
    rw [scrapeCalls_of_moves hm ht, List.append_nil]
    exact .replied (execution?_of_moves hm ht) hb ((job_of_moves hm).symm ▸ hp) h hr ho he

theorem traced_run (h : Traced B Q a t xs)
    (hB : ∀ j o, t.Meets a es (.claimed j) (.begin o) → B o)
    (hQ : ∀ j d c x r now, t.Meets a es (.scraping j d c x) (.reply r now) → Q x r) :
    Traced B Q a (t.run a es).1 (xs ++ scrapeCalls (t.run a es).2) := by
  -- What is met behind the first event is met in the whole too, so that the conditions carry over.
  induction es generalizing t xs with
  | nil =>
    rw [run, scrapeCalls, List.filterMap_nil, List.append_nil]
    exact h
  | cons ev es ih =>
    rw [run, scrapeCalls_append, ← List.append_assoc]
    apply ih
    · apply traced_of_moves (moves_step a t ev) h
      · rintro j o rfl rfl
        exact hB j o (meets_head ..)
      · rintro j d c x r now rfl rfl
        exact hQ j d c x r now (meets_head ..)
    · exact fun j o hm => hB j o (hm.tail _)
    · exact fun j d c x r now hm => hQ j d c x r now (hm.tail _)

theorem Traced.trail (h : Traced B Q a t xs) : xs = [] ∨ ∃ o prepared x,
    B o ∧ t.job.prepare a.config o.files = .ok prepared ∧ Exchange.Trail Q prepared xs x := by
  cases h with
  | claimed j => exact .inl rfl
  | scraping hb hp h => exact .inr ⟨_, _, _, hb, hp, h⟩
  | unsent ht he => exact .inl rfl
  | replied ht hb hp h hr ho he => exact .inr ⟨_, _, _, hb, hp, h⟩

theorem Traced.exists_answer {r : ScrapeResult} (h : Traced B Q a t xs)
    (ht : t.execution? = some e) (hr : e.result = .ok r) :
    ∃ x b, xs.getLast? = some x ∧ Q x (.answer b) ∧
      Redirect.next? x.call b.status b.fields = none ∧
      b.body = .ok r.body ∧ r.status = b.status ∧ r.fields = b.fields := by
  cases h with
  | claimed j => cases ht
  | scraping hb hp h => cases ht
  | unsent ht' he =>
    cases ht.symm.trans ht'
    cases hr.symm.trans he
  | replied ht' hb hp h hQ ho he =>
    cases ht.symm.trans ht'
    obtain ⟨o, rfl, hbody, hstatus, hfields⟩ := Execution.of_conclude (he.symm.trans hr)
    obtain ⟨b, rfl, hnext, rfl⟩ := Exchange.of_receive_answer ho
    exact ⟨_, b, h.last, hQ, hnext, mapError_eq_ok.mp hbody, hstatus, hfields⟩

/-- No whole answer to the last of the requests is behind a failure. -/
theorem Traced.unanswered {cause : JobError} (h : Traced B Q a t xs) (ht : t.execution? = some e)
    (he : e.result = .error cause) :
    xs = [] ∨ ∃ x r, xs.getLast? = some x ∧ Q x r ∧ ∀ b body, r = .answer b →
      Redirect.next? x.call b.status b.fields = none → b.body ≠ .ok body := by
  cases h with
  | claimed j => exact .inl rfl
  | scraping hb hp h => cases ht
  | unsent ht' he' => exact .inl rfl
  | @replied _ _ _ prepared _ x r o ht' hb hp h hr ho he' =>
    refine .inr ⟨x, r, h.last, hr, ?_⟩
    rintro b body rfl hnext hbody
    cases ht.symm.trans ht'
    rw [Exchange.receive, hnext] at ho
    cases ho
    rw [he, Exchange.located, hbody] at he'
    cases he'

theorem isOf_pushed (j : Job) (e : Execution) (since : Duration) (p : Progress) :
    ∀ n ∈ (pushed j e since p).2, n.IsOf j := by
  intro n hn
  cases p with
  | waiting x =>
    obtain rfl := List.mem_singleton.mp hn
    exact .inr rfl
  | ended o =>
    rw [pushed] at hn
    split at hn
    · obtain rfl := List.mem_singleton.mp hn
      rfl
    · obtain rfl | hn := List.mem_cons.mp hn
      · rfl
      · obtain rfl := List.mem_singleton.mp hn
        rfl

theorem isOf_deliver (a : Agent) (j : Job) (e : Execution) (now : Duration) :
    ∀ n ∈ (deliver a j e now).2, n.IsOf j := by
  intro n hn
  cases he : e.result with
  | ok r =>
    simp only [deliver, he] at hn
    exact isOf_pushed j e now _ n hn
  | error cause =>
    simp only [deliver, he] at hn
    obtain rfl | hn := List.mem_cons.mp hn
    · rfl
    · exact isOf_pushed j e now _ n hn

theorem isOf_of_moves {ev : Event} {st : Step} (hm : Moves a t ev st) :
    ∀ n ∈ st.2, n.IsOf t.job := by
  cases hm with
  | stay => exact fun n hn => nomatch hn
  | stop => exact isOf_deliver a _ _ _
  | ask =>
    intro n hn
    obtain rfl := List.mem_singleton.mp hn
    exact .inl rfl
  | follow =>
    intro n hn
    obtain rfl := List.mem_singleton.mp hn
    exact .inl rfl
  | conclude => exact isOf_deliver a _ _ _
  | push => exact isOf_pushed _ _ _ _

theorem isOf_run (t : Task) (es : List Event) : ∀ n ∈ (t.run a es).2, n.IsOf t.job := by
  induction es generalizing t with
  | nil => exact fun n hn => nomatch hn
  | cons ev es ih =>
    intro n hn
    obtain hn | hn := List.mem_append.mp hn
    · exact isOf_of_moves (moves_step a t ev) n hn
    · exact job_step (a := a) t ev ▸ ih (t.step a ev).1 n hn

def hasFailed (t : Task) : Bool := t.execution?.any fun e => !e.result.isOk

theorem hasFailed_of_execution? (ht : t.execution? = some e) : t.hasFailed = !e.result.isOk := by
  rw [hasFailed, ht, Option.any_some]

end Task

end ScrapeCourier
