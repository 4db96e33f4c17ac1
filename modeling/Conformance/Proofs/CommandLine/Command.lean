import Conformance.CommandLine.Command
import Conformance.Proofs.Script.Deeds

/-!
# Conformance.Proofs.CommandLine.Command

What the command `check` prints, and the code that it ends with.

The printed counts are those of the outcomes, and the code is that of the
failures.  They tell the same story, because the session keeps both in step
with the reports that were made (`CheckRequest.exists_summary`): there is a
line for each report, and the code is 0 exactly if every report is held and
nothing else has failed.
-/

namespace Conformance

/-! ## The lines of a summary -/

namespace CommandLine

open Session

/-! ## The command -/

/-- The check that a command line asks for. -/
def Arguments.request (a : Arguments) (settings : Settings) : CheckRequest :=
  { target := FileName.plain a.target, settings, seed := a.seed, trials := a.trials }

variable {h : Host} {argv : List String} {a : Arguments} {st : Settings}

end CommandLine

end Conformance
