import LinkFacts.Files.Tree
import LinkFacts.Settings.Configuration
import LinkFacts.Settings.Document
import LinkFacts.Settings.Environment

/-!
# Loading the configuration

The file of the user, a file that is asked for, and the environment are laid over each other in this
order.  The file of the user may be missing; the other one must be there, and its name tells in
which format it is written.

Where the file of the user lies is told by the environment alone.  A system may have another home on
file for the account of the user, which takes the place of a missing one in the environment; here
there is no file of the user then.
-/

namespace LinkFacts
namespace Settings

/-- Why there is no configuration. -/
inductive Fault where
  /-- A source is missing, unreadable, or holds something wrong. -/
  | unloadable
  /-- The name of a file tells no known format. -/
  | unknownFormat (path : String)
  deriving DecidableEq, Repr

namespace Fault

/-- The wording of a fault. -/
def message : Fault → String
  | unloadable => "could not load configuration"
  | unknownFormat path => "unsupported config format: " ++ path

/-- Trying again never helps. -/
def isRetryable (_ : Fault) : Bool := false

end Fault

/-- What the program finds around it. -/
structure Surroundings where
  /-- The files. -/
  reader : Files.Reader
  /-- The variables of the environment. -/
  environment : List (String × String)

/-- A path below a directory. -/
def joinPath (directory name : String) : String :=
  if directory.toList.getLast? = some '/' then directory ++ name else directory ++ "/" ++ name

/-- The variable that holds the directory of the user. -/
def homeVariable : String := "HOME"

/-- The variable that holds the directory for the configuration of the user. -/
def configHomeVariable : String := "XDG_CONFIG_HOME"

/-- The directory for the configuration of the user; a relative one does not count.  There is none if
it is not given and the home is missing or empty: the home that a system has on file for the account
of the user is not asked for. -/
def configHome? (environment : List (String × String)) : Option String :=
  match (environment.lookup configHomeVariable).filter Files.isAbsolute with
  | some path => some path
  | none =>
    ((environment.lookup homeVariable).filter (!·.isEmpty)).map fun home => joinPath home ".config"

/-- The configuration file of the user.  Below a relative home its path is relative, and then it is
looked for in the current directory only, not in the directories above it. -/
def userFile? (environment : List (String × String)) : Option String :=
  (configHome? environment).map fun directory =>
    joinPath (joinPath directory "srcfacts") "config.toml"

/-- The formats of configuration files. -/
inductive Format where
  | toml
  | yaml
  | json
  deriving DecidableEq, Repr

/-- The part of a file name after its last point, if something stands before that point. -/
def extension (path : String) : List Char :=
  let name := (((path.toList).splitOn '/').getLast?).getD []
  let tail := (name.reverse.takeWhile (· != '.')).reverse
  if tail.length + 1 < name.length then tail else []

/-- The format that the name of a file tells. -/
def formatOf? (path : String) : Option Format :=
  match String.ofList ((extension path).map Text.lowerAscii) with
  | "toml" => some .toml
  | "yaml" => some .yaml
  | "yml" => some .yaml
  | "json" => some .json
  | _ => none

/-- The settings of a document. -/
def Format.layer? : Format → String → Option Layer
  | toml => tomlLayer?
  | yaml => yamlLayer?
  | json => jsonLayer?

/-- The settings of a file that is there. -/
def fileLayer (format : Format) (reader : Files.Reader) (path : String) : Except Fault Layer :=
  match (Files.readText reader path).toOption.bind format.layer? with
  | some layer => .ok layer
  | none => .error .unloadable

/-- There is a file at a path. -/
def isFile (reader : Files.Reader) (path : String) : Bool := (reader path).isOk

/-- The settings of the user. -/
def userLayer (surroundings : Surroundings) : Except Fault Layer :=
  match userFile? surroundings.environment with
  | none => .ok []
  | some path =>
    if isFile surroundings.reader path then fileLayer .toml surroundings.reader path else .ok []

/-- The settings of the file that is asked for. -/
def askedLayer (surroundings : Surroundings) : Option String → Except Fault Layer
  | none => .ok []
  | some path =>
    if isFile surroundings.reader path then
      match formatOf? path with
      | some format => fileLayer format surroundings.reader path
      | none => .error (.unknownFormat path)
    else .error .unloadable

/-- The settings of all sources, laid over each other. -/
def layers (surroundings : Surroundings) (path : Option String) : Except Fault Layer := do
  let asked ← askedLayer surroundings path
  let user ← userLayer surroundings
  return (Environment.layer surroundings.environment).over (asked.over user)

/-- Loads the configuration; `path` is the file that is asked for. -/
def load (surroundings : Surroundings) (path : Option String) : Except Fault Configuration :=
  match layers surroundings path with
  | .error fault => .error fault
  | .ok layer =>
    match layer.configuration? with
    | some configuration => .ok configuration
    | none => .error .unloadable

end Settings
end LinkFacts
