import Switchboard.Server.Service

/-!
# Serving several APIs

An `Assembly` collects the APIs of the modules of a server. Each module has one API; registering a
module again replaces it in its place. Type parsers may be registered at any time before the
services are made, and all services share them.
-/

namespace Switchboard

/-- The API of a module. -/
structure Registration (σ : Type) where
  handlers : Handlers σ
  definition : Definition
  mount : Mount

/-- The APIs of a server that is being put together. -/
structure Assembly (σ : Type) where
  settings : Settings
  parsers : Registry := {}
  apis : Entries (Registration σ) := []

namespace Assembly

variable {σ : Type}

/-- Registers a type parser. -/
def registerParser (a : Assembly σ) (names : List String) (parser : TypeParser) : Assembly σ :=
  { a with parsers := a.parsers.register names parser }

/-- Registers the API of a module. It is served under the given prefix or else under the name of
the module. -/
def register (a : Assembly σ) (module : String) (handlers : Handlers σ) (definition : Definition)
    (prefixPath : Option String) : Assembly σ :=
  let mount := Mount.ofSettings (prefixPath.getD module) a.settings
  { a with apis := Entries.set a.apis module ⟨handlers, definition, mount⟩ }

/-- Registers the API of a module whose definition is in a file. -/
def registerFile (a : Assembly σ) (module : String) (handlers : Handlers σ)
    (loaded : Except DefinitionError Definition) (prefixPath : Option String) :
    Except BootError (Assembly σ) :=
  match loaded with
  | .ok definition => .ok (a.register module handlers definition prefixPath)
  | .error cause => .error (.definition module cause)

/-- The names of the modules, in the order of their first registration. -/
def modules (a : Assembly σ) : List String := Entries.keys a.apis

/-- The services of all modules, or the error of the first one that cannot be served. -/
def build (a : Assembly σ) : Except BootError (List (Service σ)) :=
  a.apis.mapM fun (_, api) => Service.bind api.definition api.handlers a.parsers api.mount

/-- One router for all modules. -/
def router (a : Assembly σ) : Except BootError (Router σ) :=
  a.build.map fun services => Router.composite (services.map Service.route)

end Assembly

end Switchboard
