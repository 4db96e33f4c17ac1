/-!
# Conformance.Settings

The tunable parameters, in three sections, with their defaults.
-/

namespace Conformance

/-- How invariants are checked. -/
structure Checking where
  /-- the number of trials of a declaration that does not state its own -/
  defaultTrials : Int := 100
  /-- the master seed; one is drawn if there is none -/
  seed : Option Int := none
  /-- whether a falsified tuple is searched for the part that is to blame -/
  localizeFailures : Bool := true
  /-- how often each leaf is redrawn in that search -/
  localizationAttempts : Nat := 8
  /-- whether a failure is raised where it is declared -/
  failFast : Bool := false
deriving Repr, Inhabited

/-- The bounds of generated values. -/
structure Sampling where
  maxStringLength : Nat := 16
  nothingProbability : Float := 0.5
  numberMin : Float := -1000000.0
  numberMax : Float := 1000000.0
  /-- how often a number that is out of range is drawn again before the draw is
  given up; no section states it -/
  patience : Nat := 4096
deriving Repr, Inhabited

/-- Which events are written, and how. -/
structure Logging where
  level : String := "WARNING"
  format : String := "console"
deriving Repr, Inhabited, DecidableEq

/-- All parameters. -/
structure Settings where
  checking : Checking := {}
  sampling : Sampling := {}
  logging : Logging := {}
deriving Repr, Inhabited

end Conformance
