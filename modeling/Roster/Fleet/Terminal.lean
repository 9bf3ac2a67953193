import Roster.Fleet.Row
/-!
# What a terminal can draw

Console and dumb terminals draw no symbols, so words take their place.
-/

namespace Roster.Terminal

/-- Whether symbols can be drawn, from the name of the terminal if it has one. -/
def drawsSymbols (term : Option String) : Bool := term ≠ some "linux" && term ≠ some "dumb"

/-- A symbol or the word that stands for it. -/
def icon (term : Option String) (symbol word : String) : String :=
  if drawsSymbols term then symbol else word

/-- The labels of rows on a terminal. -/
def labels (term : Option String) : Labels := ⟨icon term "✔" "(current)", "Hosted by the service"⟩

end Roster.Terminal
