import LinkFacts.Command.Run

/-!
# The program

Reads the files that a run looks at and the variables of the environment, and prints the outcome.
-/

namespace LinkFacts
namespace Command

/-- Reads a file as bytes. -/
def readFile (path : String) : IO (Except FileFault (List Nat)) := do
  try
    let bytes ← IO.FS.readBinFile path
    return .ok (bytes.toList.map UInt8.toNat)
  catch _ => return .error .notFound

/-- What the files at some paths hold. -/
def readFiles (paths : List String) :
    IO (List (String × Except FileFault (List Nat))) :=
  paths.mapM fun path => return (path, ← readFile path)

/-- A reader of files that were read before. -/
def readerOf (files : List (String × Except FileFault (List Nat))) : Files.Reader := fun path =>
  (files.lookup path).getD (.error .notFound)

/-- A variable of the environment from its name, an equals sign and its content. -/
def variableOf? (text : List Char) : Option (String × String) :=
  let name := text.takeWhile (· != '=')
  if name.length < text.length then
    some (String.ofList name, String.ofList (text.drop (name.length + 1)))
  else none

/-- The variables of the environment. -/
def readVariables : IO (List (String × String)) := do
  match ← readFile "/proc/self/environ" with
  | .error _ => return []
  | .ok bytes =>
    return (bytes.splitOn 0).filterMap fun text => variableOf? (Text.decodeUtf8Lossy text)

/-- What a run with some arguments finds around it. -/
def readSurroundings (arguments : Arguments) : IO Settings.Surroundings := do
  let environment ← readVariables
  let files ← readFiles (settingsPaths environment arguments)
  let known : Settings.Surroundings := ⟨readerOf files, environment⟩
  let others ← readFiles (factsPaths known arguments)
  return ⟨readerOf (files ++ others), environment⟩

end Command
end LinkFacts

open LinkFacts in
/-- Runs the program and prints its outcome. -/
def main (arguments : List String) : IO UInt32 := do
  let surroundings ←
    match Command.request? arguments with
    | some (.run request) => Command.readSurroundings request
    | _ => pure ⟨fun _ => .error .notFound, []⟩
  let outcome := Command.run surroundings arguments
  IO.print outcome.output
  return outcome.exit.toUInt32
