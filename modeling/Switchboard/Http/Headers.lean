import Switchboard.Text.LowerCase

/-!
# Headers

The headers of a request or a response, in order. The letter case of a name does not count: names
are kept in lower case, and whatever name is asked for is put into lower case first. A name may have
several values.
-/

namespace Switchboard

/-- Header names in lower case with their values, in order. -/
structure Headers where
  entries : List (String × String) := []
  deriving DecidableEq, Repr, Inhabited

namespace Headers

/-- No headers. -/
def empty : Headers := {}

/-- The headers of a list of names in any letter case. -/
def ofList (pairs : List (String × String)) : Headers :=
  ⟨pairs.map fun (name, value) => (Text.lowerCase name, value)⟩

/-- The values of a name, in order. -/
def getAll (h : Headers) (name : String) : List String :=
  (h.entries.filter fun entry => entry.1 == Text.lowerCase name).map (·.2)

/-- The first value of a name. -/
def get? (h : Headers) (name : String) : Option String :=
  (h.entries.find? fun entry => entry.1 == Text.lowerCase name).map (·.2)

/-- Adds a value of a name at the end. -/
def insert (h : Headers) (name value : String) : Headers :=
  ⟨h.entries ++ [(Text.lowerCase name, value)]⟩

/-- Drops every value of a name. -/
def erase (h : Headers) (name : String) : Headers :=
  ⟨h.entries.filter fun entry => entry.1 != Text.lowerCase name⟩

/-- Makes a value the only one of its name, and the last header. -/
def replace (h : Headers) (name value : String) : Headers := (h.erase name).insert name value

end Headers

end Switchboard
