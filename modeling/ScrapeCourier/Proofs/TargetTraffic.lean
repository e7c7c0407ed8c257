import ScrapeCourier.Proofs.Delivery
import ScrapeCourier.Proofs.NoticeCounts

namespace ScrapeCourier

open Http

theorem Agent.config_of_ofConfig {c : Config} {files : Files} {a : Agent}
    (h : ofConfig c files = .ok a) : a.config = c := by
  obtain ⟨poll, -, h⟩ := bind_eq_ok.mp h
  obtain ⟨push, -, h⟩ := bind_eq_ok.mp h
  cases h
  rfl

namespace Session

variable {a : Agent} {s s' : Session} {t : Task}

def scrapesOf (s : Session) (i : Nat) : List Exchange := scrapeCalls (s.noticesOf i)

structure Accounts (s : Session) : Prop where
  scrapeErrors : s.counts.scrapeErrors = s.tasks.countP Task.hasFailed
  scrapes : ∀ en ∈ s.history, en.notice.scrapeCall?.isSome → en.task.isSome

theorem scrapeCall?_of_loopStep {e : Event} (hs : LoopStep a s e s') :
    ∃ ens, s'.history = s.history ++ ens ∧ ∀ en ∈ ens, en.notice.scrapeCall? = none := by
  have hsame : s.history = s.history ++ [] := (List.append_nil _).symm
  have hone {en : Entry} (hn : en.notice.scrapeCall? = none) :
      ∀ en' ∈ [en], en'.notice.scrapeCall? = none := List.forall_mem_singleton.mpr hn
  cases hs with
  | stay => exact ⟨[], hsame, List.forall_mem_nil _⟩
  | call => exact ⟨[_], rfl, hone rfl⟩
  | take => exact ⟨[_], rfl, hone rfl⟩
  | miss => exact ⟨[_], rfl, hone rfl⟩
  | start => exact ⟨[], hsame, List.forall_mem_nil _⟩
  | wake => exact ⟨[], hsame, List.forall_mem_nil _⟩
  | stop => exact ⟨[], hsame, List.forall_mem_nil _⟩
  | linger => exact ⟨[], hsame, List.forall_mem_nil _⟩
  | settle => exact ⟨[_], rfl, hone rfl⟩

theorem scrapes_advance (h : ∀ en ∈ s.history, en.notice.scrapeCall?.isSome → en.task.isSome)
    (i : Nat) (te : Task.Event) :
    ∀ en ∈ (s.advance a i te).history, en.notice.scrapeCall?.isSome → en.task.isSome := by
  cases ht : s.tasks[i]? with
  | none =>
    rw [advance_of_none ht]
    exact h
  | some t =>
    intro en hen hc
    rw [(advance_eq ht te).2.2, List.mem_append] at hen
    obtain hen | hen := hen
    · exact h en hen hc
    · obtain ⟨n, -, rfl⟩ := List.mem_map.mp hen
      rfl

theorem scrapes_run (a : Agent) (es : List Event) :
    ∀ en ∈ (run a {} es).history, en.notice.scrapeCall?.isSome → en.task.isSome := by
  induction es using List.reverseRecOn with
  | nil => exact fun _ h => nomatch h
  | append_singleton es e ih =>
    rw [run_concat]
    obtain ⟨i, te, rfl⟩ | ⟨-, hs⟩ := step_cases a (run a {} es) e
    · exact scrapes_advance ih i te
    · obtain ⟨ens, hhistory, hens⟩ := scrapeCall?_of_loopStep hs
      intro en hen hc
      rw [hhistory, List.mem_append] at hen
      obtain hen | hen := hen
      · exact ih en hen hc
      · rw [hens en hen] at hc
        cases hc

theorem accounts_run (a : Agent) (es : List Event) : (run a {} es).Accounts :=
  ⟨scrapeErrors_run a es, scrapes_run a es⟩

/-- An event that comes to a task when the task has got to this point. -/
def Meets (a : Agent) (es : List Event) (i : Nat) (t : Task) (te : Task.Event) : Prop :=
  ∃ pre post, es = pre ++ .task i te :: post ∧ (run a {} pre).tasks[i]? = some t

/-- What there was when the job of a task was begun. -/
def BegunWith (a : Agent) (es : List Event) (i : Nat) (o : Task.Outset) : Prop :=
  ∃ j, Meets a es i (.claimed j) (.begin o)

/-- A reply to this request of a task to its target. -/
def RepliesTo (a : Agent) (es : List Event) (i : Nat) (x : Exchange) (r : Reply) : Prop :=
  ∃ j d prepared now, Meets a es i (.scraping j d prepared x) (.reply r now)

theorem Meets.mem {es : List Event} {i : Nat} {te : Task.Event} (h : Meets a es i t te) :
    .task i te ∈ es := by
  obtain ⟨pre, post, rfl, -⟩ := h
  exact List.mem_append_right pre List.mem_cons_self

/-- What meets a task on its own way meets it in the session too. -/
theorem meets_of_own {es : List Event} {i : Nat} {u : Task} {te : Task.Event}
    (ht : (run a {} es).tasks[i]? = some t)
    (h : (Task.claimed t.job).Meets a (eventsOf a es i) u te) : Meets a es i u te := by
  obtain ⟨xs, ys, hown, hu⟩ := h
  obtain ⟨pre, e, post, rfl, hpre, he⟩ := collect_eq_append_cons hown
  obtain ⟨rfl, hlt⟩ := of_eventOf? he
  obtain ⟨v, hv⟩ : ∃ v, (run a {} pre).tasks[i]? = some v := ⟨_, List.getElem?_eq_getElem hlt⟩
  -- The task has kept its job since, so that it got here from the same one.
  have hjob : t.job = v.job := by
    have hrest := tasks_run (a := a) hv (.task i te :: post)
    rw [run, run, ← List.foldl_append] at hrest
    cases ht.symm.trans hrest
    exact Task.job_run v _
  refine ⟨pre, post, rfl, ?_⟩
  rw [hv, (own_run hv).1, eventsOf, hpre, ← hjob, hu]

theorem traced_run {es : List Event} {i : Nat} (ht : (run a {} es).tasks[i]? = some t) :
    Task.Traced (BegunWith a es i) (RepliesTo a es i) a t ((run a {} es).scrapesOf i) := by
  obtain ⟨hrun, hnotices⟩ := own_run ht
  have htraced : Task.Traced (BegunWith a es i) (RepliesTo a es i) a
      ((Task.claimed t.job).run a (eventsOf a es i)).1
      ([] ++ scrapeCalls ((Task.claimed t.job).run a (eventsOf a es i)).2) := by
    apply Task.traced_run (.claimed t.job)
    · exact fun j o hm => ⟨j, meets_of_own ht hm⟩
    · exact fun j d prepared x r now hm => ⟨j, d, prepared, now, meets_of_own ht hm⟩
  rw [← hrun] at htraced
  rw [scrapesOf, hnotices]
  exact htraced

theorem isOf_noticesOf {es : List Event} {i : Nat} (ht : (run a {} es).tasks[i]? = some t) :
    ∀ n ∈ (run a {} es).noticesOf i, n = .claimed t.job ∨ n.IsOf t.job := by
  intro n hn
  rw [(own_run ht).2] at hn
  obtain hn | hn := List.mem_cons.mp hn
  · exact .inl hn
  · exact .inr (Task.isOf_run (.claimed t.job) _ n hn)

theorem answer_of_push {e : Execution} {r : ScrapeResult} {b : Answer TransportKind}
    {since : Duration} {x : Exchange} (hid : t.job.id.IsTrimmed)
    (hx : Exchange.start (Push.call a.pushUrl (Task.message t.job e since)) = .waiting x)
    (hr : e.result = .ok r) (hfields : r.fields = b.fields) (hb : (Reply.answer b).IsRead)
    (hlength : x.call.body.length < UInt64.size) :
    ∃ m, Response.decode x.call.body = .ok m ∧
      ScrapeResult.Relays m t.job.id (e.left since) r ∧
      ∀ n, ScrapeResult.isWritten n = false →
        (m.fields.values n).map (·.octets) = (b.fields.values n).map (·.octets) := by
  have hreported : e.reported = r := by rw [Execution.reported, hr]
  have hroom : e.HasRoom := by
    rw [Execution.HasRoom, hreported, hfields]
    exact hb.1
  obtain ⟨m, hm, hrelays⟩ := relays_of_push hid hx hroom hlength
  rw [hreported] at hrelays
  refine ⟨m, hm, hrelays, fun n hn => ?_⟩
  rw [hrelays.kept n hn, hfields, List.map_map]
  apply List.map_congr_left
  intro v hv
  obtain ⟨f, hf, rfl⟩ := Fields.exists_of_mem_values hv
  exact hb.2 f hf

/-- For a job, its target is asked once what was prepared, and whatever place an answer names is
asked next; nothing else is asked for it but to take the result. The result of a job that was done is
the last answer, which comes back whatever its status, and is no failure. -/
theorem scrapes_lead {c : Config} {files : Files} {a : Agent} (ha : Agent.ofConfig c files = .ok a)
    (es : List Event) {s : Session} (hs : run a {} es = s) :
    s.counts.scrapeErrors = s.tasks.countP Task.hasFailed ∧
    (∀ en ∈ s.history, en.notice.scrapeCall?.isSome → ∃ i < s.tasks.length, en.task = some i) ∧
    ∀ i t, s.tasks[i]? = some t →
      (∀ n ∈ s.noticesOf i, n = .claimed t.job ∨ n.IsOf t.job) ∧
      (s.scrapesOf i = [] ∨ ∃ o prepared first last, BegunWith a es i o ∧
        t.job.prepare c o.files = .ok prepared ∧ first.Carries prepared ∧
        (s.scrapesOf i).head? = some first ∧
        Exchange.Trail (RepliesTo a es i) prepared (s.scrapesOf i) last) ∧
      ((∀ x ∈ s.scrapesOf i, ∀ b, RepliesTo a es i x (.answer b) →
        Redirect.next? x.call b.status b.fields = none) → (s.scrapesOf i).length ≤ 1) ∧
      ∀ e r, t.execution? = some e → e.result = .ok r → t.hasFailed = false ∧
        ∃ last b, (s.scrapesOf i).getLast? = some last ∧ RepliesTo a es i last (.answer b) ∧
          Redirect.next? last.call b.status b.fields = none ∧
          r.status = b.status ∧ r.fields = b.fields ∧ b.body = .ok r.body ∧
          ((Reply.answer b).IsRead → ∀ x ∈ s.pushesOf i, x.call.body.length < UInt64.size →
            ∃ m left, Response.decode x.call.body = .ok m ∧
              ScrapeResult.Relays m t.job.id left r ∧
              ∀ n, ScrapeResult.isWritten n = false →
                (m.fields.values n).map (·.octets) = (b.fields.values n).map (·.octets)) := by
  cases hs
  have hc := Agent.config_of_ofConfig ha
  have haccounts := accounts_run a es
  have htracks := tracks_run a es
  refine ⟨haccounts.scrapeErrors, fun en hen hscrape => ?_, fun i t ht => ?_⟩
  · obtain ⟨i, hi⟩ := Option.isSome_iff_exists.mp (haccounts.scrapes en hen hscrape)
    exact ⟨i, (htracks.fits en hen).1 i hi, hi⟩
  · have htraced := traced_run ht
    refine ⟨isOf_noticesOf ht, ?_, ?_, fun e r he hr => ?_⟩
    · obtain hnil | ⟨o, prepared, last, hb, hp, htrail⟩ := htraced.trail
      · exact .inl hnil
      · obtain ⟨first, hfirst, hhead⟩ := htrail.first
        rw [hc] at hp
        exact .inr ⟨o, prepared, first, last, hb, hp, Exchange.carries_of_start hfirst, hhead,
          htrail⟩
    · intro hnext
      obtain hnil | ⟨_, _, _, -, -, htrail⟩ := htraced.trail
      · rw [hnil]
        exact Nat.zero_le 1
      · exact htrail.length_le_one hnext
    · obtain ⟨last, b, hlast, hb, hnext, hbody, hstatus, hfields⟩ := htraced.exists_answer he hr
      refine ⟨?_, last, b, hlast, hb, hnext, hstatus, hfields, hbody, fun hread x hx hlength => ?_⟩
      · rw [Task.hasFailed_of_execution? he, hr]
        rfl
      · obtain ⟨rs, hclaims⟩ := exists_claims ht
        obtain ⟨raw, hraw⟩ := hclaims.exists_decode
        obtain ⟨e', since, he', hstart⟩ :=
          exists_execution_of_mem (canPush_of_claims ha hclaims) ht hx
        cases he.symm.trans he'
        obtain ⟨m, hm, hrelays, hkept⟩ :=
          answer_of_push (Job.id_of_decode hraw).2 hstart hr hfields hread hlength
        exact ⟨m, _, hm, hrelays, hkept⟩

namespace RedirectExample

def config : Config := { Example.config with allowPort := .only 9100 }

def agent : Agent := { Example.agent with config }

def elsewhere : Fields := .ofList
  [⟨Redirect.location, { octets := Octets.ofAscii "http://u:9200/", valid := by decide }⟩]

def events : List Event :=
  [.claim,
    .reply (Example.answer .empty
      "GET http://t:9100/ HTTP/1.1\r\nX-Prometheus-Scrape-Timeout-Seconds: 5\r\n\r\n"),
    .task 0 (.begin {}),
    .task 0 (.reply (.answer ⟨⟨302, by decide⟩, elsewhere, .ok []⟩) .zero),
    .task 0 (.reply (Example.answer .empty "x 1") .zero),
    .task 0 (.reply (Example.answer .empty "") .zero)]

theorem isRead_of_repliesTo {x : Exchange} {r : Reply} (h : RepliesTo agent events 0 x r) :
    r.IsRead := by
  obtain ⟨_, _, _, now, h⟩ := h
  replace h := h.mem
  simp only [events, List.mem_cons, List.not_mem_nil, or_false] at h
  obtain h | h | h | h | h | h := h
  · cases h
  · cases h
  · cases h
  · cases h
    exact ⟨by decide, by decide⟩
  · cases h
    exact ⟨by decide, by decide⟩
  · cases h
    exact ⟨by decide, by decide⟩

end RedirectExample

open RedirectExample in
theorem scrapes_lead_elsewhere :
    (∃ x y b, (run agent {} events).scrapesOf 0 = [x, y] ∧
      RepliesTo agent events 0 x (.answer b) ∧
      Redirect.next? x.call b.status b.fields = some (.ok y.call) ∧
      x.call.url.effectivePort? = some 9100 ∧ y.call.url.effectivePort? = some 9200) ∧
    ∀ z ∈ (run agent {} events).pushesOf 0, ∃ m, Response.decode z.call.body = .ok m ∧
      m.status.code = 200 := by
  have hrun : ((run agent {} events).tasks.map fun t =>
        (t.execution?.bind (·.result.toOption)).map (·.status.code)) = [some 200] ∧
      ((run agent {} events).scrapesOf 0).map (·.call.url.effectivePort?) =
        [some 9100, some 9200] ∧
      ((run agent {} events).pushesOf 0).all (·.call.body.length < UInt64.size) := by
    decide +kernel
  obtain ⟨htasks, hports, hsize⟩ := hrun
  obtain ⟨t, ts, hts, ht, -⟩ := List.map_eq_cons_iff.mp htasks
  obtain ⟨r, hr, hcode⟩ := Option.map_eq_some_iff.mp ht
  obtain ⟨e, he, hr⟩ := Option.bind_eq_some_iff.mp hr
  obtain ⟨x, ys, hx, hxport, hys⟩ := List.map_eq_cons_iff.mp hports
  obtain ⟨y, zs, rfl, hyport, hzs⟩ := List.map_eq_cons_iff.mp hys
  obtain rfl := List.map_eq_nil_iff.mp hzs
  have hfirst : (run agent {} events).tasks[0]? = some t := by
    rw [hts]
    rfl
  have hagent : Agent.ofConfig config (fun _ => .ok []) = .ok agent := by rfl
  obtain ⟨-, htrail, -, hdone⟩ := (scrapes_lead hagent events rfl).2.2 0 t hfirst
  constructor
  · obtain hnil | ⟨_, _, _, _, -, -, -, -, htrail⟩ := htrail
    · rw [hx] at hnil
      cases hnil
    · have hleads := htrail.leads
      rw [hx] at hleads
      obtain ⟨⟨b, hb, hnext⟩, -⟩ := List.isChain_cons_cons.mp hleads
      exact ⟨x, y, b, hx, hb, hnext, hxport, hyport⟩
  · intro z hz
    obtain ⟨-, _, _, -, hb, -, -, -, -, hpush⟩ := hdone e r he (eq_ok_of_toOption hr)
    obtain ⟨m, _, hm, hrelays, -⟩ := hpush (isRead_of_repliesTo hb) z hz
      (by simpa using List.all_eq_true.mp hsize z hz)
    exact ⟨m, hm, by rw [hrelays.status, hcode]⟩

end Session

end ScrapeCourier
