/-!
# Command lines

A command line gives options of the program, then a command, then options of the command. An option
has a long name, perhaps a letter, and perhaps a value, which follows it or is attached to it.
Letters may share a dash, the last of them with its value. An option is given at most once, unless
it is repeatable.

## Main definitions

* `Command`: what the program is asked to do
* `OptionSpec`: an option that may be given
* `readOptions`: the options given, and the arguments behind them
* `CommandLine.parse`: the request of a command line
-/

namespace DomainFlow

/-- **What the program is asked to do.** -/
inductive Command
  | create (directory : Option String)
  | analyze (paths : List String) (directory format : Option String)
  | chains (paths : List String) (start : Option String)
  | statistics (paths : List String)
  deriving DecidableEq

/-- **Why no command is run.** -/
inductive Halt
  /-- The command line does not make sense. -/
  | usage
  | version
  | help
  deriving DecidableEq

/-! ## Options -/

/-- What an option takes. -/
inductive OptionKind
  /-- Nothing. -/
  | flag
  /-- Nothing; the option ends the run. -/
  | halt (reason : Halt)
  /-- A text, which may be empty. -/
  | text
  /-- A path, which may not be empty. -/
  | path
  /-- A path each time the option is given. -/
  | paths
  deriving DecidableEq

/-- **An option that may be given.** -/
structure OptionSpec where
  name : String
  letter : Option Char
  kind : OptionKind
  deriving DecidableEq

namespace OptionSpec

/-- Whether an option takes a value. -/
def takesValue (spec : OptionSpec) : Bool :=
  match spec.kind with
  | .flag | .halt _ => false
  | .text | .path | .paths => true

/-- Whether a value is accepted. -/
def accepts (spec : OptionSpec) (value : String) : Bool := spec.kind = .text || value ≠ ""

end OptionSpec

/-- The options given so far, with their values; a flag has none. -/
abbrev Given := List (String × Option String)

namespace Given

/-- The value of an option that is given once. -/
def value? (given : Given) (name : String) : Option String := (given.lookup name).join

/-- The values of an option, in order. -/
def values (given : Given) (name : String) : List String :=
  given.filterMap fun (n, value) => if n = name then value else none

/-- Adds an option without a value. -/
def addFlag (given : Given) (spec : OptionSpec) : Except Halt Given :=
  match spec.kind with
  | .halt reason => .error reason
  | _ => if (given.lookup spec.name).isSome then .error .usage else .ok (given ++ [(spec.name, none)])

/-- Adds an option with its value. -/
def addValue (given : Given) (spec : OptionSpec) (value : String) : Except Halt Given :=
  if !spec.accepts value then .error .usage
  else if spec.kind ≠ .paths ∧ (given.lookup spec.name).isSome then .error .usage
  else .ok (given ++ [(spec.name, some value)])

end Given

/-- Whether an argument is read as an option and not as a value. -/
def looksLikeOption (argument : String) : Bool :=
  argument.toList.head? = some '-' && argument ≠ "-"

/-- Reads a long option, without its dashes. Where a value is still missing, the option is
returned. -/
def readLong (specs : List OptionSpec) (given : Given) (option : List Char) :
    Except Halt (Given × Option OptionSpec) :=
  let name := String.ofList (option.takeWhile (· ≠ '='))
  match specs.find? (·.name = name) with
  | none => .error .usage
  | some spec =>
    match option.dropWhile (· ≠ '=') with
    | [] =>
      if spec.takesValue then .ok (given, some spec)
      else (given.addFlag spec).map fun given => (given, none)
    | _ :: value =>
      if spec.takesValue then
        (given.addValue spec (String.ofList value)).map fun given => (given, none)
      else .error .usage

/-- Reads the letters behind a dash. What follows a letter with a value is that value, without an
equals sign in front. -/
def readLetters (specs : List OptionSpec) (given : Given) :
    List Char → Except Halt (Given × Option OptionSpec)
  | [] => .ok (given, none)
  | letter :: rest =>
    match specs.find? (·.letter = some letter) with
    | none => .error .usage
    | some spec =>
      if spec.takesValue then
        match rest with
        | [] => .ok (given, some spec)
        | '=' :: value => (given.addValue spec (String.ofList value)).map fun given => (given, none)
        | value => (given.addValue spec (String.ofList value)).map fun given => (given, none)
      else
        match given.addFlag spec with
        | .ok given => readLetters specs given rest
        | .error halt => .error halt

/-- Reads an argument that looks like an option. -/
def readOption (specs : List OptionSpec) (given : Given) (argument : String) :
    Except Halt (Given × Option OptionSpec) :=
  match argument.toList with
  | '-' :: '-' :: option => readLong specs given option
  | '-' :: letters => readLetters specs given letters
  | _ => .error .usage

/-- **The options at the front of a command line**, and the arguments from the first one on that is
no option. -/
def readOptions (specs : List OptionSpec) : Given → List String →
    Except Halt (Given × List String)
  | given, [] => .ok (given, [])
  | given, argument :: rest =>
    if looksLikeOption argument ∧ argument ≠ "--" then
      match readOption specs given argument, rest with
      | .error halt, _ => .error halt
      | .ok (given, none), rest => readOptions specs given rest
      | .ok (_, some _), [] => .error .usage
      | .ok (given, some spec), value :: rest =>
        if looksLikeOption value then .error .usage
        else
          match given.addValue spec value with
          | .ok given => readOptions specs given rest
          | .error halt => .error halt
    else .ok (given, argument :: rest)

/-! ## Requests -/

/-- The option that asks for help. -/
def helpOption : OptionSpec := ⟨"help", some 'h', .halt .help⟩

/-- The options of the program. -/
def programOptions : List OptionSpec := [
  ⟨"config", some 'c', .path⟩,
  ⟨"verbose", some 'v', .flag⟩,
  ⟨"version", some 'V', .halt .version⟩,
  helpOption]

/-- The option that gives paths of facts. -/
def factsOption : OptionSpec := ⟨"facts", some 'f', .paths⟩

/-- The options of a command, and the command that given options make. -/
def commandOf? : String → Option (List OptionSpec × (Given → Command))
  | "init" => some ([⟨"path", some 'p', .path⟩], fun given => .create (given.value? "path"))
  | "analyze" => some (
    [factsOption, ⟨"output", some 'o', .path⟩, ⟨"format", none, .text⟩],
    fun given => .analyze (given.values "facts") (given.value? "output") (given.value? "format"))
  | "chains" => some (
    [factsOption, ⟨"entry", some 'e', .text⟩],
    fun given => .chains (given.values "facts") (given.value? "entry"))
  | "stats" => some ([factsOption], fun given => .statistics (given.values "facts"))
  | _ => none

/-- **What a command line asks for**: a command, and where its settings are. -/
structure CommandLine where
  settingsPath : Option String
  command : Command
  deriving DecidableEq

namespace CommandLine

/-- **The request of a command line.** Behind the options of the command nothing may follow but two
dashes that end them. -/
def parse (arguments : List String) : Except Halt CommandLine := do
  let (given, rest) ← readOptions programOptions [] arguments
  match rest with
  | [] => .error .usage
  | "help" :: _ => .error .help
  | name :: arguments =>
    match commandOf? name with
    | none => .error .usage
    | some (specs, command) => do
      let (commandGiven, rest) ← readOptions (helpOption :: specs) [] arguments
      if rest = [] ∨ rest = ["--"] then .ok ⟨given.value? "config", command commandGiven⟩
      else .error .usage

end CommandLine

end DomainFlow
