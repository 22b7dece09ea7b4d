import ApiManual.Settings

/-!
# Commands

What can be asked of the program on a command line.
-/

namespace ApiManual

/-- Where the manual that is served comes from. -/
inductive Origin where
  | document (path : String)
  | sources (folder : String)
deriving DecidableEq, Repr

inductive Command where
  /-- Write a file of standard settings. -/
  | init (force : Bool)
  /-- Read sources and publish the manual. -/
  | build (folder : String) (overrides : Settings.Overrides)
  /-- Read sources and report the warnings. -/
  | check (folder : String)
  /-- Answer requests from the recorded exchanges of a manual. -/
  | serve (origin : Origin) (host : Option String) (port : Option Nat)
deriving DecidableEq, Repr

/-- A command and the settings file it goes by. -/
structure Invocation where
  settingsPath : String
  command : Command
deriving DecidableEq, Repr

/-- What the program is told by the machine and not by its user: the folder for passing files, and a
host and a port to listen at. -/
structure Surroundings where
  scratch : String
  host : Option String
  port : Option String
deriving DecidableEq, Repr

/-- How a command ends. -/
inductive Ending where
  | success
  | failure
  /-- The command line asks for nothing that the program can do. -/
  | misuse
deriving DecidableEq, Repr

def Ending.code : Ending → Nat
  | .success => 0
  | .failure => 1
  | .misuse => 2

end ApiManual
