import DocSentences.Run.Time
import DocSentences.Toml.Reading
import DocSentences.Toml.Writing

/-!
# Settings of a run

How many documents are processed at the same time, how long a run waits for documents that have been
started once it is to end, and whether links are followed in search of documents.
-/

namespace DocSentences.Run

/-- The choices that a run depends on. -/
structure Settings where
  /-- How many documents are in flight at most. -/
  workerCount : Nat
  /-- How long documents in flight are waited for, in seconds. -/
  drainTimeoutSecs : Nat := 30
  followLinks : Bool := false
  deriving DecidableEq, Repr

/-- How many workers there can be at most: their permits are counted in numbers of 64 bits, three of
which are kept for other purposes, which leaves `2 ^ 61 - 1`. -/
def maxWorkers : Nat := 2305843009213693951

/-- Why some settings are refused. -/
inductive SettingsFault
  | noWorkers
  | noDrainTimeout
  deriving DecidableEq, Repr

/-- What is wrong with some settings, in words. -/
def SettingsFault.message : SettingsFault → String
  | .noWorkers => "worker_count must be at least 1"
  | .noDrainTimeout => "drain_timeout_secs must be at least 1"

namespace Settings

/-- The settings if nothing is chosen: as many workers as the machine can run at once. -/
def default (available : Nat) : Settings := { workerCount := available }

/-- The first reason to refuse some settings, if there is one. -/
def fault? (s : Settings) : Option SettingsFault :=
  if s.workerCount = 0 then some .noWorkers
  else if s.drainTimeoutSecs = 0 then some .noDrainTimeout
  else none

/-- How long documents in flight are waited for, in nanoseconds. -/
def drainTimeout (s : Settings) : Nat := s.drainTimeoutSecs * second

/-- The settings by name, in the order in which they are written. -/
def toFields (s : Settings) : List (String × Toml.Scalar) :=
  [("worker_count", .integer s.workerCount), ("drain_timeout_secs", .integer s.drainTimeoutSecs),
    ("follow_links", .boolean s.followLinks)]

/-- Reads settings; those that are not given keep their defaults. -/
def ofValue? (available : Nat) (value : Toml.Value) : Option Settings := do
  let field ← value.fields?
  let default := default available
  return {
    workerCount := ← Toml.Value.fieldOr? (field 0 "worker_count") (·.natural?) default.workerCount
    drainTimeoutSecs :=
      ← Toml.Value.fieldOr? (field 1 "drain_timeout_secs") (·.natural?) default.drainTimeoutSecs
    followLinks := ← Toml.Value.fieldOr? (field 2 "follow_links") (·.boolean?) default.followLinks }

/-- The text of a file with nothing but these settings. -/
def text? (s : Settings) : Option (List Char) := Toml.writeFields? s.toFields

/-- Reads the text of a file with nothing but such settings. -/
def ofText? (available : Nat) (text : List Char) : Option Settings :=
  (Toml.read text).bind (ofValue? available)

end Settings

end DocSentences.Run
