import Roster.Command.Report
import Roster.Proofs.Command.Course
/-!
# What a run leaves on the terminal

A run that fails leaves nothing on the standard output: it was refused before it listed, or its
listing failed before it printed.
-/

namespace Roster

namespace Machine

end Machine

end Roster
