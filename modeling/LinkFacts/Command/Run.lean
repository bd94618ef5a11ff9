import LinkFacts.Command.Arguments
import LinkFacts.Component.Page
import LinkFacts.Settings.Load

/-!
# Running the program

The facts of every link on the command line are mounted onto an element of a page, through one
cache.  Then the elements are printed, one in a line, and how many different links there were.
-/

namespace LinkFacts
namespace Command

open Settings (Configuration Surroundings)

/-- What a run of the program leaves behind. -/
structure Outcome where
  /-- The exit code. -/
  exit : Nat
  /-- What was printed. -/
  output : String
  deriving DecidableEq, Repr

namespace Outcome

/-- The outcome of a wrong usage. -/
def usage : Outcome := ⟨2, ""⟩

/-- The outcome of any other failure. -/
def failure : Outcome := ⟨1, ""⟩

/-- The outcome of a run that succeeds. -/
def success (output : String) : Outcome := ⟨0, output⟩

end Outcome

/-- The name of the program. -/
def programName : String := "srcfacts"

/-- The version of the program. -/
def programVersion : String := "0.1.0-beta"

/-- What is printed when the version is asked for. -/
def versionText : String := programName ++ " " ++ programVersion ++ "\n"

/-- What is printed when help is asked for. -/
def helpText : String :=
  "\n".intercalate
    ["Mount repository facts onto source links, fetching each repository once",
      "",
      "Usage: srcfacts [OPTIONS] <HREFS>...",
      "",
      "Arguments:",
      "  <HREFS>...  Links to mount; duplicates share one fetch",
      "",
      "Options:",
      "  -c, --config <CONFIG>      Config file (TOML, YAML or JSON)",
      "  -f, --fixtures <FIXTURES>  JSON file mapping repository links to their facts " ++
        "(overrides the config)",
      "  -v, --verbose...           Log more; repeat for even more (overridden by RUST_LOG)",
      "  -h, --help                 Print help",
      "  -V, --version              Print version",
      ""]

/-- Mounts the facts of every link of a page onto the link's element. -/
def mountAll (page : Page) : List String → List Mount × Page
  | [] => ([], page)
  | href :: rest =>
    let place := page.elements.length
    let mounted := (page.addElement href).mount place (.ofHref href)
    let others := mountAll mounted.2 rest
    (mounted.1 :: others.1, others.2)

/-- Drives mounts to their ends, one after the other. -/
def collectAll (page : Page) : List Mount → Page
  | [] => page
  | mount :: rest => collectAll (page.collect mount).2 rest

/-- The page of a configuration, with its facts mounted. -/
def mountPage (page : Page) (hrefs : List String) : Page :=
  let mounted := mountAll page hrefs
  collectAll mounted.2 mounted.1

/-- The line of an element. -/
def anchorLine (anchor : Anchor) : String :=
  anchor.href ++ "\t" ++ (if anchor.isDone then "done" else "-") ++ "\t" ++
    anchor.facts?.getD "" ++ "\n"

/-- How many different links there were. -/
def distinctLinks (page : Page) : Nat :=
  ((page.store.caches[Page.cache]?).map List.length).getD 0

/-- The last line. -/
def countLine (count : Nat) : String := toString count ++ " distinct link(s) requested\n"

/-- What is printed of a page. -/
def report (page : Page) : String :=
  String.join (page.elements.map fun element => anchorLine element.anchor) ++
    countLine (distinctLinks page)

/-- The file with the facts of repositories; the command line wins. -/
def fixturesPath? (arguments : Arguments) (configuration : Configuration) : Option String :=
  arguments.fixtures.or configuration.fixtures

/-- The page that a configuration describes, before anything is mounted. -/
def preparePage? (reader : Files.Reader) (arguments : Arguments) (configuration : Configuration) :
    Option Page := do
  let path ← fixturesPath? arguments configuration
  let fixture ← (Fixture.ofFile reader path).toOption
  let template ← (Render.compile (configuration.template.getD Render.standardText)).toOption
  return ⟨.start (.fixture fixture) configuration.effectiveTimeout, [], template,
    configuration.baseUrl⟩

/-- Mounts the links of the command line and prints them. -/
def execute (surroundings : Surroundings) (arguments : Arguments) : Outcome :=
  match Settings.load surroundings arguments.config with
  | .error _ => .failure
  | .ok configuration =>
    match preparePage? surroundings.reader arguments configuration with
    | none => .failure
    | some page => .success (report (mountPage page arguments.hrefs))

/-- Runs the program. -/
def run (surroundings : Surroundings) (arguments : List String) : Outcome :=
  match request? arguments with
  | none => .usage
  | some .version => .success versionText
  | some .help => .success helpText
  | some (.run arguments) => execute surroundings arguments

/-- The configuration files that a run looks at. -/
def settingsPaths (environment : List (String × String)) (arguments : Arguments) : List String :=
  (Settings.userFile? environment).toList ++ arguments.config.toList

/-- The other files that a run looks at, once the configuration files are known. -/
def factsPaths (surroundings : Surroundings) (arguments : Arguments) : List String :=
  match Settings.load surroundings arguments.config with
  | .error _ => []
  | .ok configuration => (fixturesPath? arguments configuration).toList

end Command
end LinkFacts
