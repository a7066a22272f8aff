import LocalNet.Text

/-!
# The log

A log keeps the records whose level reaches its threshold. `Log.setLevel` sets the threshold to a
named level. Which names there are is up to the log: it brings its own reading of them, in which a
name of no level stands for `off`.
-/

namespace LocalNet

/-- How grave a record is. -/
inductive Log.Level where
  /-- Every step. -/
  | trace
  /-- Details for the search of errors. -/
  | debug
  /-- Changes that were made. -/
  | info
  /-- Something unusual. -/
  | warning
  /-- A failure. -/
  | error
  /-- A failure that stops everything. -/
  | critical
  /-- A threshold that no record reaches. -/
  | off
deriving DecidableEq

namespace Log.Level

/-- The rank of a level: graver levels have higher ranks. -/
def rank : Level → Nat
  | .trace => 0
  | .debug => 1
  | .info => 2
  | .warning => 3
  | .error => 4
  | .critical => 5
  | .off => 6

/-- The name of a level. -/
def name : Level → String
  | .trace => "trace"
  | .debug => "debug"
  | .info => "info"
  | .warning => "warning"
  | .error => "error"
  | .critical => "critical"
  | .off => "off"

/-- The names of the usual reading, with their levels. -/
def usualNames : List (Text × Level) :=
  [.trace, .debug, .info, .warning, .error, .critical, .off].map
      (fun level => (Text.ofString (name level), level))
    ++ [(Text.ofString "warn", .warning), (Text.ofString "err", .error)]

/-- The usual reading of names. -/
def ofUsualName (t : Text) : Level :=
  (usualNames.lookup t).getD .off

end Log.Level

/-- A log: how it reads the names of levels, its threshold and the records that it has kept, oldest
first. -/
structure Log where
  /-- The level that a name stands for; `off` if it is the name of none. -/
  levelOf : Text → Log.Level := Log.Level.ofUsualName
  /-- The lowest level that is kept. -/
  threshold : Log.Level := .info
  /-- The records. -/
  records : List (Log.Level × Text) := []

namespace Log

/-- The name of the log. -/
def name : String := "hostnet"

/-- Adds a record if its level reaches the threshold. -/
def record (level : Level) (message : Text) (log : Log) : Log :=
  if log.threshold.rank ≤ level.rank then
    { log with records := log.records ++ [(level, message)] }
  else log

/-- Sets the threshold to the level that a name stands for. The level `off` counts only if it is
asked for by its own name, since every unknown name stands for it. The answer says whether the name
is known. -/
def setLevel (name : Text) (log : Log) : Bool × Log :=
  let level := log.levelOf name
  if level = .off ∧ name ≠ Text.ofString "off" then (false, log)
  else (true, { log with threshold := level })

variable {log : Log} {name : Text}

theorem setLevel_of_known (h : log.levelOf name ≠ .off ∨ name = Text.ofString "off") :
    log.setLevel name = (true, { log with threshold := log.levelOf name }) := by
  refine if_neg fun hunknown => ?_
  exact h.elim (absurd hunknown.1) (absurd · hunknown.2)

theorem setLevel_of_unknown (h : ¬ (log.levelOf name ≠ .off ∨ name = Text.ofString "off")) :
    log.setLevel name = (false, log) := by
  rw [not_or, Decidable.not_not] at h
  exact if_pos h

end Log

end LocalNet
