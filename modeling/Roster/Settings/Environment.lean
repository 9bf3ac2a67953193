/-!
# Environment variables
-/

namespace Roster

/-- The values of the variables that are set. -/
abbrev Environment := String → Option String

namespace Environment

def empty : Environment := fun _ => none

/-- Sets a variable, or unsets it. -/
def set (env : Environment) (name : String) (value : Option String) : Environment :=
  fun n => if n = name then value else env n

theorem set_self (env : Environment) (name : String) (value : Option String) :
    env.set name value name = value := by simp [set]

theorem set_of_ne (env : Environment) {name other : String} (h : other ≠ name)
    (value : Option String) : env.set name value other = env other := by simp [set, h]

end Environment

end Roster
