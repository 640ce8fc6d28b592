import DocSentences.Proofs.Document.PathOrder
import DocSentences.Run.Tally
import Mathlib

/-!
# Counting in any order

Rows and documents are counted one after the other, in the order in which the documents in flight
happen to go on. A tally knows of its events how many there were, which keys and which paths; so the
summaries of the same events in two orders are the same, except for the spelling of paths that are
equal as paths.
-/

namespace DocSentences.Run

/-- Something that is counted. -/
inductive Event
  | rowWritten (key : String)
  | documentDone
  | documentFailed (path : Path)
  deriving DecidableEq, Repr

namespace Event

/-- The key of the row that was written, if it was one. -/
def key? : Event → Option String
  | rowWritten key => some key
  | documentDone | documentFailed _ => none

/-- The path of the document that failed, if one did. -/
def failedPath? : Event → Option Path
  | documentFailed path => some path
  | rowWritten _ | documentDone => none

/-- Whether a document ended, well or not. -/
def endsDocument : Event → Bool
  | documentDone | documentFailed _ => true
  | rowWritten _ => false

end Event

/-- Counts an event. -/
def Tally.count (t : Tally) : Event → Tally
  | .rowWritten key => t.recordWritten key
  | .documentDone => t.recordSuccess
  | .documentFailed path => t.recordFailure path

/-- The tally of a corpus of so many documents after some events. -/
def Tally.after (total : Nat) (events : List Event) : Tally :=
  events.foldl count { total := total }

/-! ## What a tally knows -/

/-- The tally has counted these events, the latest first. -/
structure Tally.HasCounted (total : Nat) (past : List Event) (t : Tally) : Prop where
  total : t.total = total
  completed : t.completed = past.countP Event.endsDocument
  succeeded : t.completed = t.failed + past.count .documentDone
  failed : t.failed = t.failedPaths.length
  failedPaths : t.failedPaths = past.filterMap Event.failedPath?
  recordsWritten : t.recordsWritten = (past.filterMap Event.key?).length
  keysNodup : t.keys.Nodup
  keys : ∀ key, key ∈ t.keys ↔ key ∈ past.filterMap Event.key?

namespace Tally.HasCounted

variable {total : Nat} {past : List Event} {t : Tally}

theorem nil (total : Nat) : HasCounted total [] { total := total } where
  total := rfl
  completed := rfl
  succeeded := rfl
  failed := rfl
  failedPaths := rfl
  recordsWritten := rfl
  keysNodup := List.nodup_nil
  keys _ := Iff.rfl

/-- Counting a row adds it to what was counted. -/
theorem recordWritten (h : t.HasCounted total past) (key : String) :
    (t.recordWritten key).HasCounted total (.rowWritten key :: past) where
  total := h.total
  completed := by
    rw [List.countP_cons_of_neg (by simp [Event.endsDocument])]
    exact h.completed
  succeeded := by
    rw [List.count_cons_of_ne (by simp)]
    exact h.succeeded
  failed := h.failed
  failedPaths := h.failedPaths
  recordsWritten := congrArg (· + 1) h.recordsWritten
  keysNodup := by
    by_cases hknown : key ∈ t.keys <;> simp [Tally.recordWritten, hknown, h.keysNodup]
  keys other := by
    have hkeys : (Event.rowWritten key :: past).filterMap Event.key? =
        key :: past.filterMap Event.key? := rfl
    rw [hkeys, List.mem_cons, ← h.keys other]
    by_cases hknown : key ∈ t.keys
    · simpa [Tally.recordWritten, hknown] using fun hother => hother ▸ hknown
    · simp [Tally.recordWritten, hknown]

theorem recordSuccess (h : t.HasCounted total past) :
    t.recordSuccess.HasCounted total (.documentDone :: past) where
  total := h.total
  completed := by
    rw [List.countP_cons_of_pos rfl]
    exact congrArg (· + 1) h.completed
  succeeded := by
    rw [List.count_cons_self]
    exact congrArg (· + 1) h.succeeded
  failed := h.failed
  failedPaths := h.failedPaths
  recordsWritten := h.recordsWritten
  keysNodup := h.keysNodup
  keys := h.keys

theorem recordFailure (h : t.HasCounted total past) (path : Path) :
    (t.recordFailure path).HasCounted total (.documentFailed path :: past) where
  total := h.total
  completed := by
    rw [List.countP_cons_of_pos rfl]
    exact congrArg (· + 1) h.completed
  succeeded := by
    have hended : t.completed + 1 = t.failed + 1 + past.count .documentDone := by
      rw [h.succeeded]
      omega
    rw [List.count_cons_of_ne (by simp)]
    exact hended
  failed := congrArg (· + 1) h.failed
  failedPaths := congrArg (path :: ·) h.failedPaths
  recordsWritten := h.recordsWritten
  keysNodup := h.keysNodup
  keys := h.keys

/-- Counting one more event. -/
theorem count (h : t.HasCounted total past) (event : Event) :
    (t.count event).HasCounted total (event :: past) := by
  cases event with
  | rowWritten key => exact h.recordWritten key
  | documentDone => exact h.recordSuccess
  | documentFailed path => exact h.recordFailure path

/-- Counting one event after the other. -/
theorem foldl_count (h : t.HasCounted total past) (events : List Event) :
    (events.foldl Tally.count t).HasCounted total (events.reverse ++ past) := by
  induction events generalizing t past with
  | nil => exact h
  | cons event rest ih => simpa using ih (h.count event)

theorem after (total : Nat) (events : List Event) :
    (Tally.after total events).HasCounted total events.reverse := by
  simpa [Tally.after] using (nil total).foldl_count events

end Tally.HasCounted

/-! ## What a summary says -/

/-- The summary says of these events, and of no others, what there is to say. -/
structure Summary.Counts (total skipped elapsed : Nat) (events : List Event) (s : Summary) :
    Prop where
  total : s.total = total
  skipped : s.skipped = skipped
  elapsed : s.elapsedMilliseconds = elapsed
  completed : s.completed = events.countP Event.endsDocument
  failed : s.failed = s.failedPaths.length
  failed_le : s.failed ≤ s.completed
  succeeded : s.succeeded = events.count .documentDone
  recordsWritten : s.recordsWritten = (events.filterMap Event.key?).length
  distinctKeys : s.distinctKeys = (events.filterMap Event.key?).toFinset.card
  distinctKeys_le : s.distinctKeys ≤ s.recordsWritten
  sorted : s.failedPaths.Pairwise (Path.le · · = true)
  failedPaths : s.failedPaths.Perm (events.filterMap Event.failedPath?)

/-- Two summaries are the same, where paths are compared component by component. -/
structure Summary.SameAs (s other : Summary) : Prop where
  counts : { s with failedPaths := [] } = { other with failedPaths := [] }
  failedPaths : s.failedPaths.map Path.components = other.failedPaths.map Path.components

/-- A summary says what its tally has counted, in whatever order that came. -/
theorem Tally.HasCounted.summary_counts {total : Nat} {events past : List Event} {t : Tally}
    (h : t.HasCounted total past) (hpast : past.Perm events) (skipped elapsed : Nat) :
    (t.summary skipped elapsed).Counts total skipped elapsed events := by
  have hkeys : (past.filterMap Event.key?).Perm (events.filterMap Event.key?) :=
    hpast.filterMap Event.key?
  have hdistinct : t.keys.length = (events.filterMap Event.key?).toFinset.card := by
    -- the keys are kept without repetition, so their number is that of the set
    have hset : t.keys.toFinset = (past.filterMap Event.key?).toFinset := by
      ext key
      simpa using h.keys key
    rw [← List.toFinset_eq_of_perm _ _ hkeys, ← hset, List.toFinset_card_of_nodup h.keysNodup]
  constructor
  case total => exact h.total
  case skipped => rfl
  case elapsed => rfl
  case completed => exact h.completed.trans (hpast.countP_eq _)
  case failed => simpa [Tally.summary] using h.failed
  case failed_le => exact Nat.le.intro h.succeeded.symm
  case succeeded => exact (Nat.sub_eq_of_eq_add' h.succeeded).trans (hpast.count_eq _)
  case recordsWritten => exact h.recordsWritten.trans hkeys.length_eq
  case distinctKeys => exact hdistinct
  case distinctKeys_le =>
    have hle := List.toFinset_card_le (events.filterMap Event.key?)
    rwa [← hdistinct, ← hkeys.length_eq, ← h.recordsWritten] at hle
  case sorted => exact Path.pairwise_sort _
  case failedPaths =>
    calc (t.failedPaths.reverse.mergeSort Path.le).Perm t.failedPaths.reverse :=
          List.mergeSort_perm _ _
      _ |>.Perm t.failedPaths := List.reverse_perm _
      _ |>.Perm (events.filterMap Event.failedPath?) :=
          h.failedPaths ▸ hpast.filterMap Event.failedPath?

/-- What there is to say of some events leaves nothing open but the spelling of paths. -/
theorem Summary.Counts.sameAs {total skipped elapsed : Nat} {events : List Event}
    {s other : Summary} (h : s.Counts total skipped elapsed events)
    (hother : other.Counts total skipped elapsed events) : s.SameAs other where
  counts := by
    have hpaths := h.failedPaths.trans hother.failedPaths.symm
    rw [Summary.mk.injEq]
    exact ⟨h.total.trans hother.total.symm, h.completed.trans hother.completed.symm,
      h.failed.trans (hpaths.length_eq.trans hother.failed.symm),
      h.skipped.trans hother.skipped.symm, h.recordsWritten.trans hother.recordsWritten.symm,
      h.distinctKeys.trans hother.distinctKeys.symm, rfl, h.elapsed.trans hother.elapsed.symm⟩
  failedPaths := Path.map_components_eq_of_sorted (h.failedPaths.trans hother.failedPaths.symm)
    h.sorted hother.sorted

/-- The summaries of the same events in two orders are the same, and each says of the events what
there is to say. -/
theorem Summary.sameAs_of_perm (total skipped elapsed : Nat) {events other : List Event}
    (h : events.Perm other) :
    ((Tally.after total events).summary skipped elapsed).SameAs
        ((Tally.after total other).summary skipped elapsed) ∧
      ((Tally.after total events).summary skipped elapsed).Counts total skipped elapsed events ∧
      ((Tally.after total other).summary skipped elapsed).Counts total skipped elapsed other := by
  have hevents := Tally.HasCounted.after total events
  have hother := Tally.HasCounted.after total other
  have hcounts := hevents.summary_counts (List.reverse_perm events) skipped elapsed
  have hsame := hother.summary_counts ((List.reverse_perm other).trans h.symm) skipped elapsed
  exact ⟨hcounts.sameAs hsame, hcounts,
    hother.summary_counts (List.reverse_perm other) skipped elapsed⟩

/-- Two documents that fail with paths that differ in spelling only, and a key that is written
twice. -/
def mixedEvents : List Event :=
  [.documentFailed (.ofString "b//A.java"), .rowWritten "K", .documentDone, .rowWritten "K",
    .documentFailed (.ofString "b/A.java"), .documentFailed (.ofString "a/A.java")]

theorem Summary.sameAs_reverse_mixedEvents :
    mixedEvents.Perm mixedEvents.reverse ∧
      ((Tally.after 4 mixedEvents).summary 1 7).failedPaths =
        [.ofString "a/A.java", .ofString "b//A.java", .ofString "b/A.java"] ∧
      ((Tally.after 4 mixedEvents.reverse).summary 1 7).failedPaths =
        [.ofString "a/A.java", .ofString "b/A.java", .ofString "b//A.java"] ∧
      ((Tally.after 4 mixedEvents).summary 1 7).SameAs
        ((Tally.after 4 mixedEvents.reverse).summary 1 7) ∧
      ((Tally.after 4 mixedEvents).summary 1 7).Counts 4 1 7 mixedEvents := by
  have hperm := (List.reverse_perm mixedEvents).symm
  obtain ⟨hsame, hcounts, -⟩ := Summary.sameAs_of_perm 4 1 7 hperm
  exact ⟨hperm, by cbv, by cbv, hsame, hcounts⟩

end DocSentences.Run
