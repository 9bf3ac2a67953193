import Roster.Command.Run
/-!
# Reports

What a run leaves behind: what it printed, what it complained of and its exit status. Help that was
asked for is no complaint.
-/

namespace Roster

structure Report where
  status : Nat
  out : String
  complaint : String
  deriving Repr, DecidableEq

namespace Report

/-- An error with all that lies behind it. -/
def chain (e : RunError) : String := ": ".intercalate (e.message :: e.causes)

def ofRun (r : Run) : Report :=
  match r.result with
  | .ok () => ⟨0, r.out, ""⟩
  | .error (.usage e) => if e.isAnswer then ⟨0, e.message, ""⟩ else ⟨2, "", e.message⟩
  | .error e => ⟨1, r.out, "Error: " ++ chain e ++ "\n"⟩

end Report

end Roster
