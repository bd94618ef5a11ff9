/-!
# Arguments of the command line

Options may stand between the links, up to a double dash.  An option with a value takes the rest of
its argument or the next argument, which may not look like an option itself.  Asking for the version
or for help ends the reading; what comes later does not count, what came before has to be right.
-/

namespace LinkFacts
namespace Command

/-- What a run of the program is asked to do. -/
structure Arguments where
  /-- The configuration file. -/
  config : Option String
  /-- The file with the facts of repositories. -/
  fixtures : Option String
  /-- The targets of the links, in order. -/
  hrefs : List String
  deriving DecidableEq, Repr

/-- What the command line asks for. -/
inductive Request where
  | run (arguments : Arguments)
  | version
  | help
  deriving DecidableEq, Repr

/-- An option that has a value. -/
inductive Setting where
  | config
  | fixtures
  deriving DecidableEq, Repr

namespace Arguments

/-- No arguments. -/
def empty : Arguments := ⟨none, none, []⟩

/-- Adds the target of a link. -/
def addHref (arguments : Arguments) (href : String) : Arguments :=
  { arguments with hrefs := arguments.hrefs ++ [href] }

/-- Gives an option its value, which is a path and not empty; nothing is given twice. -/
def set (arguments : Arguments) (setting : Setting) (value : String) : Option Arguments :=
  if value.isEmpty then none
  else
    match setting with
    | .config =>
      if arguments.config.isSome then none else some { arguments with config := some value }
    | .fixtures =>
      if arguments.fixtures.isSome then none else some { arguments with fixtures := some value }

/-- The request of all arguments together; at least one link is needed. -/
def finish (arguments : Arguments) : Option Request :=
  if arguments.hrefs.isEmpty then none else some (.run arguments)

end Arguments

/-- What an argument is. -/
inductive Parsed where
  /-- It ends the options. -/
  | separator
  /-- It is the target of a link. -/
  | href
  /-- It is complete and changes nothing but how much is logged. -/
  | verbose
  /-- An option with its value. -/
  | given (setting : Setting) (value : String)
  /-- An option whose value is the next argument. -/
  | awaiting (setting : Setting)
  | version
  | help
  /-- There is no such option. -/
  | unknown
  deriving DecidableEq, Repr

/-- What letters after a single dash are. -/
def parseLetters : List Char → Parsed
  | [] => .verbose
  | 'v' :: rest => parseLetters rest
  | 'V' :: _ => .version
  | 'h' :: _ => .help
  | 'c' :: rest => valueOf .config rest
  | 'f' :: rest => valueOf .fixtures rest
  | _ => .unknown
where
  /-- An option whose value may follow its letter. -/
  valueOf (setting : Setting) : List Char → Parsed
    | [] => .awaiting setting
    | '=' :: value => .given setting (String.ofList value)
    | value => .given setting (String.ofList value)

/-- What a word after two dashes is. -/
def parseWord (word : List Char) : Parsed :=
  let name := word.takeWhile (· != '=')
  let value? := if name.length < word.length then some (word.drop (name.length + 1)) else none
  match String.ofList name, value? with
  | "config", some value => .given .config (String.ofList value)
  | "config", none => .awaiting .config
  | "fixtures", some value => .given .fixtures (String.ofList value)
  | "fixtures", none => .awaiting .fixtures
  | "verbose", none => .verbose
  | "version", none => .version
  | "help", none => .help
  | _, _ => .unknown

/-- What an argument is, before the options are ended. -/
def parseArgument (argument : String) : Parsed :=
  match argument.toList with
  | ['-', '-'] => .separator
  | '-' :: '-' :: word => parseWord word
  | ['-'] => .href
  | '-' :: letters => parseLetters letters
  | _ => .href

/-- Reads arguments; none where the usage is wrong. -/
def readArguments (arguments : Arguments) : List String → Option Request
  | [] => arguments.finish
  | argument :: rest =>
    match parseArgument argument with
    | .separator => (rest.foldl Arguments.addHref arguments).finish
    | .href => readArguments (arguments.addHref argument) rest
    | .verbose => readArguments arguments rest
    | .version => some .version
    | .help => some .help
    | .unknown => none
    | .given setting value =>
      (arguments.set setting value).bind fun changed => readArguments changed rest
    | .awaiting setting =>
      match rest with
      | [] => none
      | value :: rest' =>
        if parseArgument value = .href then
          (arguments.set setting value).bind fun changed => readArguments changed rest'
        else none

/-- What a command line asks for; none where the usage is wrong. -/
def request? (arguments : List String) : Option Request := readArguments .empty arguments

end Command
end LinkFacts
