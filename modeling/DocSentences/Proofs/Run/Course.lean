import DocSentences.Proofs.Run.Occurrence

/-!
# The course of a run

The controller starts documents until none are left, or until it finds a request to end or a failure
on which the run has to stop. What it is at tells which of these it was: it waits without limit for
the last documents of the corpus, and for some time only once documents were left behind.
-/

namespace DocSentences.Run

variable {setup : Setup} {sink : Sink} {choices : List Choice}

/-- Whether the controller, when it goes on, starts no more documents because the run is asked to
end. -/
def State.StopsDispatch (s : State) : Prop :=
  s.phase = .dispatching ∧ s.waiting ≠ [] ∧ s.shutdownRequested = true

/-- Whether a request to end kept documents of the corpus from being started. -/
def DispatchStopped (setup : Setup) (sink : Sink) (choices : List Choice) : Prop :=
  ∃ before pick after s, choices = before ++ .controller pick :: after ∧
    (State.initial setup sink).steps setup before = some s ∧ s.StopsDispatch

theorem dispatchStopped_iff_occurs :
    DispatchStopped setup sink choices ↔
      Occurs setup sink (fun _ s choice => (∃ pick, choice = .controller pick) ∧ s.StopsDispatch)
        choices := by
  constructor
  · rintro ⟨before, pick, after, s, hchoices, hsteps, hstops⟩
    exact ⟨before, _, after, s, hchoices, hsteps, ⟨pick, rfl⟩, hstops⟩
  · rintro ⟨before, _, after, s, hchoices, hsteps, ⟨pick, rfl⟩, hstops⟩
    exact ⟨before, pick, after, s, hchoices, hsteps, hstops⟩

theorem not_dispatchStopped_nil : ¬ DispatchStopped setup sink [] :=
  fun h => not_occurs_nil (dispatchStopped_iff_occurs.mp h)

/-- A further choice stops the dispatch only if the controller makes it. -/
theorem Reached.dispatchStopped_concat {a : Account} (h : Reached setup sink choices a)
    (choice : Choice) :
    DispatchStopped setup sink (choices ++ [choice]) ↔
      DispatchStopped setup sink choices ∨
        (∃ pick, choice = .controller pick) ∧ a.state.StopsDispatch := by
  rw [dispatchStopped_iff_occurs, dispatchStopped_iff_occurs]
  exact h.occurs_concat _ choice

/-- What a run is at follows from how its dispatch ended. -/
structure Course (setup : Setup) (sink : Sink) (choices : List Choice) (s : State) : Prop where
  dispatching : s.phase = .dispatching → s.fatal = none
  joining : s.phase = .joining → s.waiting = []
  draining : ∀ since, s.phase = .draining since → s.waiting ≠ [] ∧ since ≤ s.clock
  stopped : s.hasEnded = false → s.fatal = none →
    (DispatchStopped setup sink choices ↔ ∃ since, s.phase = .draining since)
  unfinished : s.hasEnded = false → s.progress.count .finish = 0

namespace Course

variable {s s' : State} {choice : Choice}

theorem initial (setup : Setup) (sink : Sink) :
    Course setup sink [] (State.initial setup sink) where
  dispatching _ := rfl
  joining hphase := by cases hphase
  draining since hphase := by cases hphase
  stopped _ _ := by simp [not_dispatchStopped_nil, State.initial]
  unfinished _ := rfl

/-- A choice that neither ends the run nor stops the dispatch. -/
theorem of_same (h : Course setup sink choices s) (hphase : s'.phase = s.phase)
    (hwaiting : s.phase ≠ .dispatching → s'.waiting = s.waiting)
    (hdispatching : s.phase = .dispatching → s'.fatal = s.fatal)
    (hfatal : s'.fatal = none → s.fatal = none) (hclock : s.clock ≤ s'.clock)
    (hfinish : s'.progress.count .finish = s.progress.count .finish)
    (hstopped : DispatchStopped setup sink (choices ++ [choice]) ↔
      DispatchStopped setup sink choices) :
    Course setup sink (choices ++ [choice]) s' where
  dispatching hstarting := by
    rw [hphase] at hstarting
    rw [hdispatching hstarting]
    exact h.dispatching hstarting
  joining hjoining := by
    rw [hphase] at hjoining
    rw [hwaiting (by simp [hjoining])]
    exact h.joining hjoining
  draining since hdraining := by
    rw [hphase] at hdraining
    rw [hwaiting (by simp [hdraining])]
    obtain ⟨hleft, hsince⟩ := h.draining since hdraining
    exact ⟨hleft, Nat.le_trans hsince hclock⟩
  stopped hopen hnone := by
    rw [hstopped, hphase]
    refine h.stopped ?_ (hfatal hnone)
    rwa [State.hasEnded, hphase] at hopen
  unfinished hopen := by
    rw [hfinish]
    refine h.unfinished ?_
    rwa [State.hasEnded, hphase] at hopen

/-- Nothing is asked of a run that has ended. -/
theorem of_ended (hended : s.hasEnded = true) : Course setup sink choices s := by
  obtain ⟨ending, hphase⟩ := s.hasEnded_iff.mp hended
  constructor
  case dispatching => simp [hphase]
  case joining => simp [hphase]
  case draining => simp [hphase]
  case stopped => simp [hended]
  case unfinished => simp [hended]

end Course

theorem Work.finish_count {e e' : Entry} {a b : Account} (hwork : Work setup e a e' b) :
    b.state.progress.count .finish = a.state.progress.count .finish := by
  cases hwork
  case reported => simp
  all_goals rfl

/-- A choice that is not made by the controller stops nothing. -/
theorem Reached.dispatchStopped_of_ne {a : Account} {choice : Choice}
    (h : Reached setup sink choices a) (hchoice : ∀ pick, choice ≠ .controller pick) :
    DispatchStopped setup sink (choices ++ [choice]) ↔ DispatchStopped setup sink choices := by
  rw [h.dispatchStopped_concat]
  simp [hchoice]

/-- A choice in a state that does not stop the start of documents keeps whether it was stopped. -/
theorem Reached.dispatchStopped_of_not {a : Account} (h : Reached setup sink choices a)
    (hstops : ¬ a.state.StopsDispatch) (choice : Choice) :
    DispatchStopped setup sink (choices ++ [choice]) ↔ DispatchStopped setup sink choices := by
  rw [h.dispatchStopped_concat]
  simp [hstops]

/-- Every run follows its course. -/
theorem Reached.course {a : Account} (h : Reached setup sink choices a) :
    Course setup sink choices a.state := by
  induction h with
  | initial => exact .initial setup sink
  | @move choices choice a b hreached hstep hmove ih =>
      cases hmove with
      | worked index hopen hentries hgathered hwork =>
          exact ih.of_same hwork.phase_eq (fun _ => hwork.waiting_eq)
            (fun _ => hwork.fatal_eq) (fun hfatal => hwork.fatal_eq.symm.trans hfatal)
            (Nat.le_of_eq hwork.clock_eq.symm) hwork.finish_count
            (hreached.dispatchStopped_of_ne (by simp))
      | dispatched pick hphase hwaiting =>
          have hopen := State.hasEnded_eq_false hphase (by simp)
          constructor
          case dispatching => simp
          case joining => exact fun _ => hwaiting
          case draining => simp
          case stopped =>
            intro _ hfatal
            rw [hreached.dispatchStopped_of_not (by simp [State.StopsDispatch, hwaiting]) _,
              ih.stopped hopen hfatal, hphase]
            simp
          case unfinished => exact fun _ => ih.unfinished hopen
      | stopped pick hphase hwaiting hshutdown =>
          constructor
          case dispatching => simp [State.say]
          case joining => simp [State.say]
          case draining =>
            intro since hsince
            cases hsince
            exact ⟨hwaiting, Nat.le_refl _⟩
          case stopped =>
            intro _ _
            rw [hreached.dispatchStopped_concat]
            exact iff_of_true (.inr ⟨⟨pick, rfl⟩, hphase, hwaiting, hshutdown⟩) ⟨_, rfl⟩
          case unfinished =>
            exact fun _ => ih.unfinished (State.hasEnded_eq_false hphase (by simp))
      | started pick hphase _ hshutdown =>
          refine ih.of_same rfl (absurd hphase) (fun _ => rfl) id (Nat.le_refl _) rfl ?_
          exact hreached.dispatchStopped_of_not (by simp [State.StopsDispatch, hshutdown]) _
      | @gathered _ before after e fatal pick hopen hdispatch hentries _ hstage =>
          -- a request to end would have been found before any document is gathered
          have hstops : ¬ a.state.StopsDispatch := by
            rintro ⟨hphase, -, hshutdown⟩
            simp [hshutdown] at hdispatch
            exact hdispatch hphase
          have hconcat := hreached.dispatchStopped_of_not hstops (.controller pick)
          cases fatal with
          | none =>
              exact ih.of_same rfl (fun _ => rfl) (fun _ => rfl) id (Nat.le_refl _) rfl hconcat
          | some failure =>
              by_cases hphase : a.state.phase = .dispatching
              · rw [State.heed_of_dispatching hphase]
                constructor
                case dispatching => simp [Account.withEntries, State.say]
                case joining => simp [Account.withEntries, State.say]
                case draining =>
                  intro since hsince
                  cases hsince
                  exact ⟨(hdispatch hphase).1, Nat.le_refl _⟩
                case stopped => simp [Account.withEntries, State.say]
                case unfinished => exact fun _ => ih.unfinished hopen
              · rw [State.heed_of_not_dispatching hphase]
                exact ih.of_same rfl (fun _ => rfl) (absurd · hphase)
                  (by simp [Account.withEntries, State.say]) (Nat.le_refl _) rfl hconcat
      | concluded => exact .of_ended (State.hasEnded_conclude setup _)
      | abandoned => exact .of_ended rfl
      | requested =>
          exact ih.of_same rfl (fun _ => rfl) (fun _ => rfl) id (Nat.le_refl _) rfl
            (hreached.dispatchStopped_of_ne (by simp))
      | passed =>
          exact ih.of_same rfl (fun _ => rfl) (fun _ => rfl) id (Nat.le_add_right _ _) rfl
            (hreached.dispatchStopped_of_ne (by simp))

end DocSentences.Run
