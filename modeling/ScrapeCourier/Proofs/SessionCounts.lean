import ScrapeCourier.Proofs.NoticeCounts
import ScrapeCourier.Proofs.TargetTraffic

namespace ScrapeCourier

open Http

namespace Session

variable {a : Agent} {s : Session} {es : List Event}

/-- The counts of a session, and what of its polls and jobs each of them stands for. -/
structure Balanced (a : Agent) (es : List Event) (s : Session) : Prop where
  inflight : s.counts.inflight = (jobsOf a es).length - s.tasks.countP Task.isDone
  inflight_nonneg : 0 ≤ s.counts.inflight
  scrapeErrors : s.counts.scrapeErrors = s.tasks.countP Task.hasFailed
  /-- Nothing was asked for a job that failed, or what was asked last got no whole answer. -/
  failed : ∀ i t e cause, s.tasks[i]? = some t → t.execution? = some e → e.result = .error cause →
    t.hasFailed ∧ e.reported = .ofError cause ∧
      (s.scrapesOf i = [] ∨ ∃ x r, (s.scrapesOf i).getLast? = some x ∧ RepliesTo a es i x r ∧
        ∀ b body, r = .answer b → Redirect.next? x.call b.status b.fields = none →
          b.body ≠ .ok body)
  /-- A result that is no failure is an answer of the target, whatever its status. -/
  answered : ∀ i t e r, s.tasks[i]? = some t → t.execution? = some e → e.result = .ok r →
    t.hasFailed = false ∧ e.reported = r ∧ ∃ x b, (s.scrapesOf i).getLast? = some x ∧
      RepliesTo a es i x (.answer b) ∧
      r.status = b.status ∧ r.fields = b.fields ∧ b.body = .ok r.body
  pushErrors : s.counts.pushErrors = s.tasks.countP Task.wasRefused
  pollErrors : s.counts.pollErrors = (missesOf a es).length
  missed : ∀ e cause, pollEnd? a s e = some (.error cause) → (s.step a e).tasks = s.tasks ∧
    (s.step a e).counts =
      if s.loop.backoff?.isSome then s.counts.record .pollError else s.counts
  drained : ∀ e, (s.step a e).notices = s.notices ++ [.drained true] →
    (s.step a e).counts.inflight = 0 ∧ (s.step a e).tasks.map Task.job = jobsOf a es ∧
      ∀ i t, (s.step a e).tasks[i]? = some t → t.isDone ∧ ((s.step a e).pushesOf i).length = 1

theorem drained_run {c : Config} {files : Files} (ha : Agent.ofConfig c files = .ok a)
    {e : Event} (hs : run a {} es = s)
    (h : (s.step a e).notices = s.notices ++ [.drained true]) :
    (s.step a e).counts.inflight = 0 ∧ (s.step a e).tasks.map Task.job = jobsOf a es ∧
      ∀ i t, (s.step a e).tasks[i]? = some t →
        t.isDone ∧ ((s.step a e).pushesOf i).length = 1 := by
  obtain ⟨hquiet, htasks, hcounts⟩ := of_drained h
  have hdone : ∀ t ∈ s.tasks, t.isDone := List.all_eq_true.mp hquiet
  have hjobs : s.tasks.map Task.job = jobsOf a es := hs ▸ (tracks_run a es).jobs
  refine ⟨?_, htasks ▸ hjobs, fun i t ht => ?_⟩
  · rw [hcounts, ← hs, inflight_run, hs, List.countP_eq_length.mpr hdone, ← hjobs, List.length_map,
      Int.sub_self]
  · have hd : t.isDone := hdone t (List.mem_of_getElem? (htasks ▸ ht))
    rw [← hs, ← run_concat] at ht ⊢
    obtain ⟨rs, hclaims⟩ := exists_claims ht
    exact ⟨hd, length_pushesOf_of_isDone (canPush_of_claims ha hclaims) ht hd⟩

theorem balanced_run {c : Config} {files : Files} {a : Agent}
    (ha : Agent.ofConfig c files = .ok a) (es : List Event) : Balanced a es (run a {} es) where
  inflight := inflight_run a es
  inflight_nonneg := by
    have hle : (run a {} es).tasks.countP Task.isDone ≤ (jobsOf a es).length := by
      rw [← (tracks_run a es).jobs, List.length_map]
      exact List.countP_le_length
    rw [inflight_run]
    omega
  scrapeErrors := scrapeErrors_run a es
  failed := by
    intro i t e cause ht he hr
    refine ⟨?_, by rw [Execution.reported, hr], (traced_run ht).unanswered he hr⟩
    rw [Task.hasFailed_of_execution? he, hr]
    rfl
  answered := by
    intro i t e r ht he hr
    obtain ⟨x, b, hx, hb, -, hbody, hstatus, hfields⟩ := (traced_run ht).exists_answer he hr
    refine ⟨?_, by rw [Execution.reported, hr], x, b, hx, hb, hstatus, hfields, hbody⟩
    rw [Task.hasFailed_of_execution? he, hr]
    rfl
  pushErrors := pushErrors_run a es
  pollErrors := pollErrors_run a es
  missed := fun _ _ h => counts_of_error h
  drained := fun _ h => drained_run ha rfl h

namespace CountsExample

def busy : List Event :=
  [.run, .turn,
    .reply (.answer ⟨.notFound, .empty, .ok []⟩),
    .wake Example.config.retryInitial, .turn,
    .reply (Example.answer .empty "GET http://t/ HTTP/1.1\r\n\r\n"),
    .task 0 (.begin {}),
    .task 0 (.reply (.answer ⟨.internalError, .empty, .ok []⟩) .zero)]

end CountsExample

open Example CountsExample in
theorem balanced_run_refused :
    (run agent {} (busy ++ [.shutdown])).counts.pushErrors = 1 ∧
      ((run agent {} (busy ++ [.shutdown])).step agent (.settle .zero)).counts.inflight = 0 := by
  have hagent : Agent.ofConfig config (fun _ => .ok []) = .ok agent := by rfl
  have hbalanced := balanced_run hagent (busy ++ [.shutdown])
  have hrun : (run agent {} (busy ++ [.shutdown])).tasks.countP Task.wasRefused = 1 ∧
      (run agent {} (busy ++ [.shutdown])).isQuiet ∧
      (run agent {} busy).loop.backoff?.isSome := by
    decide +kernel
  obtain ⟨hrefused, hquiet, hloop⟩ := hrun
  obtain ⟨b, hb⟩ := Option.isSome_iff_exists.mp hloop
  have hdrained : ((run agent {} (busy ++ [.shutdown])).step agent (.settle .zero)).notices =
      (run agent {} (busy ++ [.shutdown])).notices ++ [.drained true] := by
    have hl : (run agent {} (busy ++ [.shutdown])).loop = .draining := by
      rw [run_concat, step_shutdown hb]
    exact notices_settle hl hquiet .zero
  exact ⟨hbalanced.pushErrors.trans hrefused, (hbalanced.drained _ hdrained).1⟩

end Session

end ScrapeCourier
