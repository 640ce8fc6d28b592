import DocSentences.Proofs.Run.Moves

/-!
# What happens during a run

Something happens during a run if one of its choices is of a certain kind, in view of the state in
which it is made and of the choices before it. What a longer run adds is what its last choice adds.
-/

namespace DocSentences.Run

variable {setup : Setup} {sink : Sink} {choices : List Choice}
  {event : List Choice → State → Choice → Prop}

/-- Whether one of the choices of a run is of a certain kind. -/
def Occurs (setup : Setup) (sink : Sink) (event : List Choice → State → Choice → Prop)
    (choices : List Choice) : Prop :=
  ∃ before choice after s, choices = before ++ choice :: after ∧
    (State.initial setup sink).steps setup before = some s ∧ event before s choice

theorem not_occurs_nil : ¬ Occurs setup sink event [] := by
  rintro ⟨before, choice, after, s, hchoices, -⟩
  simp at hchoices

/-- Something occurs in a longer run if it has occurred before, or does with the last choice. -/
theorem Reached.occurs_concat {a : Account} (h : Reached setup sink choices a)
    (event : List Choice → State → Choice → Prop) (choice : Choice) :
    Occurs setup sink event (choices ++ [choice]) ↔
      Occurs setup sink event choices ∨ event choices a.state choice := by
  constructor
  · rintro ⟨before, own, after, s, hchoices, hsteps, hevent⟩
    rcases List.eq_nil_or_concat after with rfl | ⟨after, last, rfl⟩
    · obtain ⟨rfl, hlast⟩ := List.append_inj' hchoices rfl
      obtain rfl := List.singleton_inj.mp hlast
      rw [h.steps_eq] at hsteps
      cases hsteps
      exact .inr hevent
    · rw [List.concat_eq_append, ← List.cons_append, ← List.append_assoc] at hchoices
      obtain ⟨rfl, -⟩ := List.append_inj' hchoices rfl
      exact .inl ⟨before, own, after, s, rfl, hsteps, hevent⟩
  · rintro (⟨before, own, after, s, rfl, hsteps, hevent⟩ | hevent)
    · exact ⟨before, own, after ++ [choice], s, by simp, hsteps, hevent⟩
    · exact ⟨choices, choice, [], a.state, rfl, h.steps_eq, hevent⟩

/-! ## Rows that the sink takes -/

/-- The row that the sink takes when a document goes on, if it takes one. -/
def Task.taken? (setup : Setup) (sink : Sink) (t : Task) : Option Record :=
  match t.stage with
  | .writing (r :: _) =>
      (rowOf? r).filter fun row => (sink.append setup.writer row).2 = .done
  | _ => none

/-- The row that the sink takes by a choice, if it takes one. -/
def State.taken? (setup : Setup) (s : State) : Choice → Option Record
  | .worker index => s.tasks[index]?.bind (Task.taken? setup s.sink)
  | .controller _ | .shutdown | .pass _ => none

/-- The rows that the sink takes during some choices. -/
def State.rowsTaken (setup : Setup) (s : State) : List Choice → List Record
  | [] => []
  | choice :: rest =>
      match s.step setup choice with
      | none => []
      | some next => (s.taken? setup choice).toList ++ next.rowsTaken setup rest

/-- One more choice takes one more row at most. -/
theorem State.rowsTaken_concat {s mid : State}
    (hsteps : s.steps setup choices = some mid) {choice : Choice}
    (hstep : (mid.step setup choice).isSome = true) :
    s.rowsTaken setup (choices ++ [choice]) =
      s.rowsTaken setup choices ++ (mid.taken? setup choice).toList := by
  induction choices generalizing s with
  | nil =>
      cases hsteps
      obtain ⟨next, hnext⟩ := Option.isSome_iff_exists.mp hstep
      simp [rowsTaken, hnext]
  | cons first rest ih =>
      simp only [steps, List.foldlM_cons] at hsteps
      obtain ⟨next, hnext, hrest⟩ := Option.bind_eq_some_iff.mp hsteps
      simp only [List.cons_append, rowsTaken, hnext, ih hrest, List.append_assoc]

/-- Work remembers the row that the sink takes, if it takes one. -/
theorem Work.rows_eq {e e' : Entry} {a b : Account} (hwork : Work setup e a e' b) :
    b.rows = a.rows ++ (e.task.taken? setup a.state.sink).toList := by
  cases hwork <;> simp [Entry.task, Task.taken?, Option.filter, *]

/-- An account remembers the rows that the sink took. -/
theorem Reached.rows_eq {a : Account} (h : Reached setup sink choices a) :
    a.rows = (State.initial setup sink).rowsTaken setup choices := by
  induction h with
  | initial => rfl
  | @move choices choice a b hreached hstep hmove ih =>
      rw [State.rowsTaken_concat hreached.steps_eq (by rw [hstep]; rfl), ← ih]
      cases hmove with
      | worked index _ _ _ hwork hindex =>
          rw [State.taken?, hindex, Option.bind_some]
          exact hwork.rows_eq
      | dispatched | stopped | started | gathered | concluded | abandoned | requested | passed =>
          exact (List.append_nil _).symm

end DocSentences.Run
