/-!
# JSON values

An object keeps its members in the order in which their names first came, each name once, with the
value given last.
-/

namespace Roster

/-- A number is an integer when it was written as one and fits in 64 bits, signed or unsigned;
every other number is a double. -/
inductive Json.Number where
  | int (value : Int)
  | real (value : Float)

inductive Json where
  | null
  | bool (value : Bool)
  | number (value : Json.Number)
  | string (value : String)
  | array (items : List Json)
  | object (members : List (String × Json))

instance : Inhabited Json := ⟨.null⟩

namespace Json

/-- Sets a member: in place when the name is already there, else at the end. -/
def put (name : String) (value : Json) : List (String × Json) → List (String × Json)
  | [] => [(name, value)]
  | (n, v) :: rest => if n = name then (n, value) :: rest else (n, v) :: put name value rest

/-- The value of a member. -/
def find? (name : String) : List (String × Json) → Option Json
  | [] => none
  | (n, v) :: rest => if n = name then some v else find? name rest

theorem find?_put_self (name : String) (value : Json) (members : List (String × Json)) :
    find? name (put name value members) = some value := by
  induction members with
  | nil => simp [put, find?]
  | cons m rest ih => by_cases h : m.1 = name <;> simp [put, find?, h, ih]

theorem find?_put_of_ne {name other : String} (h : other ≠ name) (value : Json)
    (members : List (String × Json)) :
    find? other (put name value members) = find? other members := by
  induction members with
  | nil => simp [put, find?, h.symm]
  | cons m rest ih =>
    by_cases hm : m.1 = name
    · simp [put, find?, hm, h.symm]
    · simp [put, find?, hm, ih]

/-- The names after setting a member: the old ones in their order, then the new one if it is new. -/
theorem map_fst_put (name : String) (value : Json) (members : List (String × Json)) :
    (put name value members).map Prod.fst =
      if name ∈ members.map Prod.fst then members.map Prod.fst
      else members.map Prod.fst ++ [name] := by
  induction members with
  | nil => simp [put]
  | cons m rest ih =>
    by_cases hm : m.1 = name
    · simp [put, hm]
    · have hne : name ≠ m.1 := fun h => hm h.symm
      simp only [put, hm, if_false, List.map_cons, ih, List.mem_cons, hne, false_or]
      split <;> simp

end Json

end Roster
