import ScrapeCourier.Simulation.Rehearsal

namespace ScrapeCourier.Rehearsal

/-- A rehearsal goes on to another one by nothing but events of its session. -/
def Plays (r r' : Rehearsal) : Prop :=
  r'.agent = r.agent ∧ ∃ es, r'.session = Session.run r.agent r.session es

variable {r r' r'' : Rehearsal}

theorem Plays.trans (h : r.Plays r') (h' : r'.Plays r'') : r.Plays r'' := by
  obtain ⟨hagent, es, hs⟩ := h
  obtain ⟨hagent', es', hs'⟩ := h'
  refine ⟨hagent'.trans hagent, es ++ es', ?_⟩
  rw [hs', hagent, hs, Session.run, Session.run, Session.run, List.foldl_append]

theorem plays_of_eq (ha : r'.agent = r.agent) (hs : r'.session = r.session) : r.Plays r' :=
  ⟨ha, [], hs⟩

theorem plays_perform (r : Rehearsal) (e : Session.Event) : r.Plays (r.perform e) :=
  ⟨rfl, [e], rfl⟩

theorem plays_perform_with (r : Rehearsal) (network : Network) (now : Nat) (received : List Nat)
    (e : Session.Event) : r.Plays ({ r with network, now, received }.perform e) :=
  ⟨rfl, [e], rfl⟩

theorem plays_serve (r : Rehearsal) (i fuel : Nat) : r.Plays (r.serve i fuel) := by
  induction fuel generalizing r with
  | zero => exact plays_of_eq rfl rfl
  | succ fuel ih =>
    rw [serve]
    split
    · exact plays_of_eq rfl rfl
    · split
      · exact plays_of_eq rfl rfl
      · exact (plays_perform_with _ _ _ _ _).trans (ih _)

theorem plays_foldl {f : Rehearsal → Nat → Rehearsal}
    (hf : ∀ (r : Rehearsal) i, r.Plays (f r i)) (r : Rehearsal) (is : List Nat) :
    r.Plays (is.foldl f r) := by
  induction is generalizing r with
  | nil => exact plays_of_eq rfl rfl
  | cons i is ih => exact (hf r i).trans (ih _)

theorem plays_beginJobs (r : Rehearsal) : r.Plays r.beginJobs := by
  apply plays_foldl
  intro r i
  exact (plays_perform_with _ _ _ _ _).trans (plays_serve _ _ _)

theorem plays_passUntil (r : Rehearsal) (limit fuel : Nat) :
    r.Plays (r.passUntil limit fuel) := by
  induction fuel generalizing r with
  | zero => exact plays_of_eq rfl rfl
  | succ fuel ih =>
    rw [passUntil]
    split
    · exact plays_of_eq rfl rfl
    next i t _ =>
      split
      · exact plays_of_eq rfl rfl
      · exact ((plays_perform_with _ _ _ _ _).trans (plays_serve _ _ _)).trans (ih _)

theorem plays_drain (r : Rehearsal) : r.Plays r.drain :=
  ((plays_perform r .drain).trans (plays_passUntil _ _ _)).trans (plays_perform _ _)

theorem plays_servePoll {fuel : Nat} (h : r.servePoll fuel = some r') : r.Plays r' := by
  induction fuel generalizing r with
  | zero => cases h
  | succ fuel ih =>
    rw [servePoll] at h
    split at h
    · split at h
      · cases h
      · exact (plays_perform_with _ _ _ _ _).trans (ih h)
    · cases h
      exact plays_of_eq rfl rfl

theorem plays_serveRun {fuel : Nat} (h : r.serveRun fuel = some r') : r.Plays r' := by
  induction fuel generalizing r with
  | zero => cases h
  | succ fuel ih =>
    rw [serveRun] at h
    split at h
    · exact (plays_perform r .turn).trans (ih h)
    · split at h
      · cases h
        exact plays_perform_with _ _ _ _ _
      · exact ((plays_perform_with _ _ _ _ _).trans (plays_beginJobs _)).trans (ih h)
    next wait _ _ =>
      have hpassed : r.Plays (r.passTo (r.now + wait.nanos)) := plays_passUntil r _ _
      exact (hpassed.trans (plays_perform_with _ _ _ _ _)).trans (ih h)
    · cases h
      exact plays_of_eq rfl rfl

/-- What is rehearsed when an agent polls once is a run of its session. -/
theorem plays_pollOnce (h : r.pollOnce = some r') : r.Plays r' := by
  obtain ⟨polled, hpolled, h⟩ := Option.bind_eq_some_iff.mp h
  cases h
  exact (((plays_perform r .claim).trans (plays_servePoll hpolled)).trans
    (plays_beginJobs polled)).trans (plays_drain _)

/-- What is rehearsed when an agent polls until it is shut down is a run of its session. -/
theorem plays_runOn {cancelled : Bool} (h : r.runOn cancelled = some r') : r.Plays r' := by
  rw [runOn] at h
  have hrun := plays_perform r .run
  cases cancelled with
  | true =>
    cases h
    exact (hrun.trans (plays_perform _ _)).trans (plays_drain _)
  | false =>
    obtain ⟨served, hserved, rfl⟩ := Option.map_eq_some_iff.mp h
    exact (hrun.trans (plays_serveRun hserved)).trans (plays_drain served)

end ScrapeCourier.Rehearsal
