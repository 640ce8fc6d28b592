import DocSentences.Command.Execution
import DocSentences.Proofs.Extraction.Outcome
import DocSentences.Proofs.Run.Causes

/-!
# Requests that are rejected

All that can be wrong with what is asked of an extraction is found before the output file is
touched: a source or a root that does not exist, and settings that make no sense, from whichever
place they come. Those who check the settings once more later on, and the extraction of each
document, find nothing wrong with them any more. But more workers than there can be pass the checks,
and then the command breaks down over them after the output file has been created.
-/

namespace DocSentences

/-! ## Settings that make sense -/

/-- Settings under which documents can be extracted. -/
structure Extraction.Settings.IsValid (s : Settings) : Prop where
  placeholder : s.placeholder ≠ ""
  oneWord : ∀ c ∈ s.placeholder.toList, Text.isBlank c = false
  noOpening : '<' ∉ s.placeholder.toList
  noReference : '&' ∉ s.placeholder.toList
  minSentenceChars : 2 ≤ s.minSentenceChars
  selector : ∃ selector, Selector.read s.descriptionSelector.toList = .ok selector

theorem Extraction.Settings.fault?_eq_none_iff (s : Settings) : s.fault? = none ↔ s.IsValid := by
  unfold fault?
  constructor
  · intro h
    split at h
    · cases h
    next hblank =>
    split at h
    · cases h
    next hwords =>
    split at h
    · cases h
    next hmarkup =>
    split at h
    · cases h
    next hleast =>
    split at h
    next selector hselector =>
      have hplain : ∀ c ∈ s.placeholder.toList, Markup.isMarkupChar c = false := by
        simpa using hmarkup
      refine ⟨?_, by simpa using hwords, ?_, ?_, Nat.not_lt.mp hleast, selector, hselector⟩
      · intro hempty
        exact hblank (by simp [hempty, Text.isBlankText])
      · exact fun hmem => Bool.noConfusion (hplain _ hmem)
      · exact fun hmem => Bool.noConfusion (hplain _ hmem)
    next => cases h
  · intro h
    have hwords : s.placeholder.toList.any Text.isBlank = false := by simpa using h.oneWord
    have hmarkup : s.placeholder.toList.any Markup.isMarkupChar = false := by
      rw [List.any_eq_false]
      intro c hc
      have hopening : c ≠ '<' := fun heq => h.noOpening (heq ▸ hc)
      have hreference : c ≠ '&' := fun heq => h.noReference (heq ▸ hc)
      simp [Markup.isMarkupChar, hopening, hreference]
    have hblank : Text.isBlankText s.placeholder.toList = false := by
      obtain ⟨c, rest, hcons⟩ := List.exists_cons_of_ne_nil
        (mt String.toList_eq_nil_iff.mp h.placeholder)
      have hfirst := h.oneWord c (hcons ▸ List.mem_cons_self)
      simp [Text.isBlankText, hcons, hfirst]
    obtain ⟨selector, hselector⟩ := h.selector
    rw [if_neg (by simp [hblank]), if_neg (by simp [hwords]), if_neg (by simp [hmarkup]),
      if_neg (Nat.not_lt.mpr h.minSentenceChars), hselector]

/-- Settings under which a run can be carried out. -/
structure Run.Settings.IsValid (s : Settings) : Prop where
  workerCount : 1 ≤ s.workerCount
  drainTimeoutSecs : 1 ≤ s.drainTimeoutSecs

theorem Run.Settings.fault?_eq_none_iff (s : Settings) : s.fault? = none ↔ s.IsValid := by
  unfold fault?
  constructor
  · intro h
    split at h
    · cases h
    next hworkers =>
    split at h
    · cases h
    next htimeout =>
    exact ⟨Nat.pos_of_ne_zero hworkers, Nat.pos_of_ne_zero htimeout⟩
  · intro h
    rw [if_neg (Nat.ne_of_gt h.workerCount), if_neg (Nat.ne_of_gt h.drainTimeoutSecs)]

namespace Command

/-- A configuration under which sentences can be extracted into a file. -/
structure Configuration.IsValid (c : Configuration) : Prop where
  extraction : c.extraction.IsValid
  run : c.run.IsValid
  output : c.output.path ≠ ""

/-- A configuration is refused exactly if it makes no sense. -/
theorem Configuration.fault?_eq_none_iff (c : Configuration) : c.fault? = none ↔ c.IsValid := by
  have hvalid : c.IsValid ↔
      c.extraction.fault? = none ∧ c.run.fault? = none ∧ c.output.path ≠ "" := by
    rw [Extraction.Settings.fault?_eq_none_iff, Run.Settings.fault?_eq_none_iff]
    exact ⟨fun h => ⟨h.extraction, h.run, h.output⟩, fun ⟨he, hr, ho⟩ => ⟨he, hr, ho⟩⟩
  rw [hvalid, fault?]
  cases c.extraction.fault? with
  | some fault => simp
  | none =>
      cases c.run.fault? with
      | some fault => simp
      | none => simp

/-! ## What is asked for -/

/-- What is asked for can be done: every source and the root for keys are there, and the settings,
from the configuration or from the options, make sense. -/
structure Accepts (t : FileTree) (c : Configuration) (options : ExtractOptions) : Prop where
  sources : ∀ source ∈ options.sources, t.exists? (.ofString source) = true
  relativeRoot : ∀ root, options.relativeRoot = some root → t.exists? (.ofString root) = true
  configuration : (c.withOptions options).IsValid

/-- Whether a failure says that something is wrong with what is asked for. -/
def Failure.IsRejection : Failure → Prop
  | .invalidInput _ | .configuration _ | .extraction (.badSettings _) | .run (.badSettings _) =>
      True
  | _ => False

/-- Whether a failure can come once the output file has been created. -/
def Failure.MayFollowCreation : Failure → Prop
  | .interrupted .. => True
  | .run failure => failure.ArisesInRun
  | .configuration _ | .io _ | .serialization _ | .unreadableConfiguration | .invalidInput _
  | .extraction _ => False

/-- No failure that follows the creation of the output refuses the request. -/
theorem Failure.MayFollowCreation.not_isRejection {failure : Failure}
    (h : failure.MayFollowCreation) : ¬ failure.IsRejection := by
  cases failure with
  | run failure => cases failure <;> first | exact id | exact fun _ => h
  | interrupted => exact id
  | configuration | io | serialization | unreadableConfiguration | invalidInput | extraction =>
      exact fun _ => h

/-- Why a command may break down once the output file has been created: there cannot be so many
workers, the writer breaks down, or a document whose path is no text is to be shown as JSON. -/
inductive Plan.MayBreakDown (conduct : Run.Conduct) (t : FileTree) (report : Report) (p : Plan) :
    Prop
  | workers (hcrowded : Run.maxWorkers < p.configuration.run.workerCount)
  | writer (hwriter : ¬ conduct.writer.NeverBreaksDown)
  | path (hformat : report.format = .json) (document : Document)
      (hdocument : document ∈ (p.corpus t).documents) (htext : document.path.isText = false)

variable {t : FileTree} {c : Configuration} {options : ExtractOptions}

/-- Sources are refused exactly if one of them does not exist. -/
theorem sourceFault?_cases (t : FileTree) (sources : List String) :
    (sourceFault? t sources = none ∧
        ∀ source ∈ sources, t.exists? (.ofString source) = true) ∨
      ∃ detail, sourceFault? t sources = some (.invalidInput detail) ∧
        ¬ ∀ source ∈ sources, t.exists? (.ofString source) = true := by
  induction sources with
  | nil => exact .inl ⟨rfl, by simp⟩
  | cons source rest ih =>
      unfold sourceFault? at ih ⊢
      simp only [List.findSome?_cons, List.forall_mem_cons, FileTree.exists?] at ih ⊢
      cases t.find true (.ofString source) with
      | ok found => simpa using ih
      | error error => exact .inr ⟨_, rfl, by simp⟩

/-- A root is refused exactly if it does not exist. -/
theorem keyStrategy_cases (t : FileTree) (root : Option String) :
    ((∃ strategy, keyStrategy t root = .ok strategy) ∧
        ∀ name, root = some name → t.exists? (.ofString name) = true) ∨
      ∃ detail, keyStrategy t root = .error (.invalidInput detail) ∧
        ¬ ∀ name, root = some name → t.exists? (.ofString name) = true := by
  cases root with
  | none => exact .inl ⟨⟨_, rfl⟩, by simp⟩
  | some name =>
      simp only [keyStrategy, FileTree.canonical, FileTree.exists?, Option.some.injEq,
        forall_eq']
      cases t.find true (.ofString name) with
      | ok found => exact .inl ⟨⟨_, rfl⟩, rfl⟩
      | error error => exact .inr ⟨_, rfl, by simp⟩

/-- A request leads to a plan for the configuration with its options, or is rejected. -/
theorem Plan.check_cases (t : FileTree) (c : Configuration) (options : ExtractOptions) :
    (∃ p, Plan.check t c options = .ok p ∧ p.configuration = c.withOptions options ∧
        Accepts t c options) ∨
      ∃ failure, Plan.check t c options = .error failure ∧ failure.IsRejection ∧
        ¬ Accepts t c options := by
  unfold Plan.check
  rcases sourceFault?_cases t options.sources with ⟨hfault, hsources⟩ | ⟨detail, hfault, hmissing⟩
  · rw [hfault]
    dsimp only
    rcases keyStrategy_cases t options.relativeRoot with
      ⟨⟨strategy, hkeys⟩, hroot⟩ | ⟨detail, hkeys, hmissing⟩
    · rw [hkeys]
      dsimp only
      cases hvalid : (c.withOptions options).fault? with
      | none =>
          have hconfiguration := (Configuration.fault?_eq_none_iff _).mp hvalid
          exact .inl ⟨_, rfl, rfl, hsources, hroot, hconfiguration⟩
      | some detail =>
          refine .inr ⟨_, rfl, trivial, fun h => ?_⟩
          rw [(Configuration.fault?_eq_none_iff _).mpr h.configuration] at hvalid
          cases hvalid
    · rw [hkeys]
      exact .inr ⟨_, rfl, trivial, fun h => hmissing h.relativeRoot⟩
  · rw [hfault]
    exact .inr ⟨_, rfl, trivial, fun h => hmissing h.sources⟩

/-! ## What happens to an accepted request -/

theorem Plan.prepare_of_isValid {p : Plan} (h : p.configuration.IsValid) :
    p.prepare = .ok () := by
  have hextraction := (Extraction.Settings.fault?_eq_none_iff _).mpr h.extraction
  have hrun := (Run.Settings.fault?_eq_none_iff _).mpr h.run
  rw [prepare, Extraction.Settings.check, hextraction, Run.Settings.check, hrun]
  rfl

/-- No document fails because of settings that make sense. -/
theorem extractedFrom_ne_badSettings {settings : Extraction.Settings} (h : settings.IsValid)
    (t : FileTree) (document : Document) (detail : String) :
    extractedFrom t settings document ≠ .failed (.badSettings detail) := by
  have hfault := (Extraction.Settings.fault?_eq_none_iff settings).mpr h
  unfold extractedFrom
  dsimp only
  split
  · simp
  next failure hfails =>
    intro hbad
    have habout := Extraction.isAbout_of_recordsOfFile hfault hfails
    rw [Run.Extracted.failed.inj hbad] at habout
    exact habout

/-- Only JSON cannot show a summary, and only because of a path that is no text. -/
theorem Report.exists_path_of_summary_eq_none {report : Report} {summary : Run.Summary}
    {output : String} (h : report.summary summary output = none) :
    report.format = .json ∧ ∃ path ∈ summary.failedPaths, path.isText = false := by
  unfold Report.summary at h
  split at h
  · cases h
  · cases h
  next hformat =>
    split at h
    · cases h
    next hpaths => exact ⟨hformat, by simpa using hpaths⟩

/-- What is done about the last state of a run by itself. -/
theorem Plan.conclude_cases (p : Plan) (report : Report) (writer : Writer) {before : Effects}
    (hfailure : before.failure = none) (hbroke : before.brokeDown = false) (last : Run.State) :
    let effects := p.conclude report writer before last
    effects.brokeDown = false ∧ effects.failure = none ∨
    (∃ completed total, effects.brokeDown = false ∧
      effects.failure = some (.interrupted completed total)) ∨
    (∃ failure, last.ending? = some (.failed failure) ∧ effects.brokeDown = false ∧
      effects.failure = some (.run failure)) ∨
    effects.brokeDown = true ∧ effects.failure = none ∧ (last.ending? = some .broke ∨
      ∃ summary, last.ending? = some (.finished summary) ∧
        report.summary summary p.configuration.output.path = none) := by
  intro effects
  cases hending : last.ending? with
  | none => exact .inl (by simp [effects, conclude, hending, hfailure, hbroke])
  | some ending =>
      cases ending with
      | broke =>
          exact .inr (.inr (.inr (by simp [effects, conclude, hending, hfailure])))
      | failed failure =>
          exact .inr (.inr (.inl ⟨failure, rfl, by simp [effects, conclude, hending, hbroke]⟩))
      | finished summary =>
          -- a run that ends well still has to be reported
          cases hshown : report.summary summary p.configuration.output.path with
          | none =>
              exact .inr (.inr (.inr (by simp [effects, conclude, hending, hshown, hfailure])))
          | some text =>
              cases hcomplete : summary.isComplete with
              | true =>
                  exact .inl (by simp [effects, conclude, hending, hshown, hcomplete, hfailure,
                    hbroke])
              | false =>
                  exact .inr (.inl ⟨summary.completed, summary.total, by
                    simp [effects, conclude, hending, hshown, hcomplete, hbroke]⟩)

/-- A request that is accepted leads to a plan that is carried out. -/
theorem extract_of_accepts (conduct : Run.Conduct) (report : Report)
    (h : Accepts t c options) :
    ∃ p : Plan, Plan.check t c options = .ok p ∧ p.configuration = c.withOptions options ∧
      p.prepare = .ok () ∧
      extract conduct t report c options = p.execute conduct t report := by
  rcases Plan.check_cases t c options with ⟨p, hcheck, hconfiguration, -⟩ | ⟨_, _, _, hnot⟩
  · refine ⟨p, hcheck, hconfiguration,
      Plan.prepare_of_isValid (hconfiguration ▸ h.configuration), ?_⟩
    rw [extract, hcheck]
  · exact absurd h hnot

/-- Without a place for the output nothing has been done, and otherwise the run decides. -/
theorem Plan.execute_cases (conduct : Run.Conduct) (t : FileTree) (report : Report) {p : Plan}
    (h : p.prepare = .ok ()) :
    (∃ error, t.write (.ofString p.configuration.output.path) [] = .error error ∧
        (p.execute conduct t report).tree = t ∧ (p.execute conduct t report).brokeDown = false ∧
        (p.execute conduct t report).failure = some (.run (.sink (.io error.message)))) ∨
      ∃ emptied before, t.write (.ofString p.configuration.output.path) [] = .ok emptied ∧
        before.failure = none ∧ before.brokeDown = false ∧
        p.execute conduct t report =
          p.conclude report conduct.writer before
            (conduct.run (p.setup (p.corpus t) emptied conduct.writer)) := by
  unfold execute
  rw [h]
  dsimp only
  cases t.write (.ofString p.configuration.output.path) [] with
  | error error => exact .inl ⟨error, rfl, rfl, rfl, rfl⟩
  | ok emptied => exact .inr ⟨emptied, _, rfl, rfl, rfl, rfl⟩

/-- However its run goes, a plan ends with a failure that may follow the creation of the output, or
with none, or it breaks down after that creation, and there is a reason for it. -/
theorem Plan.outcome_of_execute (conduct : Run.Conduct) (report : Report) {p : Plan}
    (h : p.prepare = .ok ()) :
    ((p.execute conduct t report).brokeDown = false ∧
      ∀ failure, (p.execute conduct t report).failure = some failure →
        failure.MayFollowCreation) ∨
    (p.execute conduct t report).brokeDown = true ∧
      (p.execute conduct t report).failure = none ∧ p.MayBreakDown conduct t report ∧
      ∃ emptied, t.write (.ofString p.configuration.output.path) [] = .ok emptied := by
  rcases Plan.execute_cases conduct t report h with
    ⟨error, -, -, hunbroken, hfailure⟩ | ⟨emptied, before, hwrite, hbefore, hunbroken, hconclude⟩
  · refine .inl ⟨hunbroken, fun failure hfails => ?_⟩
    cases hfailure.symm.trans hfails
    trivial
  rw [hconclude]
  obtain ⟨choices, hrun⟩ := conduct.isReached (p.setup (p.corpus t) emptied conduct.writer)
  rcases p.conclude_cases report conduct.writer hbefore hunbroken
      (conduct.run (p.setup (p.corpus t) emptied conduct.writer)) with
    ⟨hnot, hnone⟩ | ⟨completed, total, hnot, hown⟩ | ⟨own, hfailed, hnot, hown⟩ |
      ⟨hbroke, hnone, hending⟩
  · refine .inl ⟨hnot, fun failure hfails => ?_⟩
    cases hnone.symm.trans hfails
  · refine .inl ⟨hnot, fun failure hfails => ?_⟩
    cases hown.symm.trans hfails
    trivial
  · refine .inl ⟨hnot, fun failure hfails => ?_⟩
    cases hown.symm.trans hfails
    exact Run.arisesInRun_of_ending? hrun hfailed
  · refine .inr ⟨hbroke, hnone, ?_, emptied, hwrite⟩
    rcases hending with hown | ⟨summary, hfinished, hshown⟩
    · rcases Run.broke_cases hrun hown with hcrowded | hwriter
      · exact .workers hcrowded
      · exact .writer hwriter
    · obtain ⟨hformat, path, hpath, htext⟩ := Report.exists_path_of_summary_eq_none hshown
      obtain ⟨job, hjob, rfl⟩ := Run.exists_job_of_mem_failedPaths hrun hfinished hpath
      obtain ⟨document, hdocument, rfl⟩ := List.mem_map.mp hjob
      exact .path hformat document hdocument htext

/-- A plan with more workers than there can be breaks down as soon as the output file has been
created. -/
theorem Plan.brokeDown_of_maxWorkers_lt (conduct : Run.Conduct) (report : Report) {p : Plan}
    (h : p.prepare = .ok ()) {emptied : FileTree}
    (hwrite : t.write (.ofString p.configuration.output.path) [] = .ok emptied)
    (hcrowded : Run.maxWorkers < p.configuration.run.workerCount) :
    (p.execute conduct t report).brokeDown = true := by
  obtain ⟨choices, hrun⟩ := conduct.isReached (p.setup (p.corpus t) emptied conduct.writer)
  rcases Run.State.steps_launch_cases hrun with ⟨hroom, -⟩ | ⟨-, -, hlast⟩
  · exact absurd hroom (Nat.not_le.mpr hcrowded)
  · have hbroke : (conduct.run (p.setup (p.corpus t) emptied conduct.writer)).ending? =
        some .broke := by
      rw [hlast, Run.State.launch_of_lt hcrowded]
      rfl
    rw [execute, h]
    simp only [hwrite, conclude, hbroke]

/-- A request is rejected exactly if a source or the root for keys is missing or the settings make
no sense, and then every file is as it was. In every other case, however the run goes, no failure
is a rejection: neither of the whole extraction, be it before or after the output file has been
created, nor of a document. A command that breaks down has no failure; it does so only after the
output file has been created, and always if there are more workers than there can be. -/
theorem extract_rejects_iff (conduct : Run.Conduct) (t : FileTree) (report : Report)
    (c : Configuration) (options : ExtractOptions) :
    ((∃ failure, (extract conduct t report c options).failure = some failure ∧
        failure.IsRejection) ↔ ¬ Accepts t c options) ∧
      (∀ failure, (extract conduct t report c options).failure = some failure →
        failure.IsRejection → (extract conduct t report c options).tree = t) ∧
      (Accepts t c options →
        (∀ failure, (extract conduct t report c options).failure = some failure →
          failure.MayFollowCreation) ∧
        (∀ document detail, extractedFrom t (c.withOptions options).extraction document ≠
          .failed (.badSettings detail))) ∧
      ((extract conduct t report c options).brokeDown = true →
        (extract conduct t report c options).failure = none ∧ Accepts t c options ∧
        ∃ p emptied, Plan.check t c options = .ok p ∧ p.MayBreakDown conduct t report ∧
          t.write (.ofString (c.withOptions options).output.path) [] = .ok emptied) ∧
      (∀ emptied, Accepts t c options →
        t.write (.ofString (c.withOptions options).output.path) [] = .ok emptied →
        Run.maxWorkers < (c.withOptions options).run.workerCount →
        (extract conduct t report c options).brokeDown = true) := by
  by_cases haccepts : Accepts t c options
  · obtain ⟨p, hcheck, hconfiguration, hprepared, hextract⟩ :=
      extract_of_accepts conduct report haccepts
    have houtcome := p.outcome_of_execute (t := t) conduct report hprepared
    -- once a request is accepted, no failure refuses it any more
    have hfollows : ∀ failure, (extract conduct t report c options).failure = some failure →
        failure.MayFollowCreation := by
      rw [hextract]
      intro failure hfails
      rcases houtcome with ⟨-, hfollows⟩ | ⟨-, hnone, -, -⟩
      · exact hfollows failure hfails
      · cases hnone.symm.trans hfails
    refine ⟨iff_of_false ?_ (not_not_intro haccepts), ?_, fun _ => ⟨hfollows, fun document =>
      extractedFrom_ne_badSettings haccepts.configuration.extraction t document⟩, ?_, ?_⟩
    · rintro ⟨failure, hfails, hrejection⟩
      exact (hfollows failure hfails).not_isRejection hrejection
    · exact fun failure hfails hrejection =>
        absurd hrejection (hfollows failure hfails).not_isRejection
    · rw [hextract, ← hconfiguration]
      intro hbroke
      rcases houtcome with ⟨hnot, -⟩ | ⟨-, hnone, hreason, emptied, hwrite⟩
      · cases hnot.symm.trans hbroke
      · exact ⟨hnone, haccepts, p, emptied, hcheck, hreason, hwrite⟩
    · rw [hextract, ← hconfiguration]
      exact fun emptied _ hwrite hcrowded =>
        p.brokeDown_of_maxWorkers_lt conduct report hprepared hwrite hcrowded
  · obtain ⟨failure, hextract, hrejected⟩ : ∃ failure, extract conduct t report c options =
        { tree := t, failure := some failure } ∧ failure.IsRejection := by
      rcases Plan.check_cases t c options with ⟨_, -, -, hyes⟩ | ⟨failure, hcheck, hrejected, -⟩
      · exact absurd hyes haccepts
      · exact ⟨failure, by rw [extract, hcheck], hrejected⟩
    rw [hextract]
    exact ⟨iff_of_true ⟨failure, rfl, hrejected⟩ haccepts, fun _ _ _ => rfl,
      fun hyes => absurd hyes haccepts, fun hbroke => Bool.noConfusion hbroke,
      fun _ hyes => absurd hyes haccepts⟩

end Command

end DocSentences
