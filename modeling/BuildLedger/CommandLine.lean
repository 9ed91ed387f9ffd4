import BuildLedger.Command

/-!
# The command line

A command line names a command, gives it options by name and a file by position, and has two
switches that may stand before and after the command. An option's value follows it or stands behind
an equals sign; it is never empty and does not look like an option. No switch and no option stands
twice in one place. Behind two hyphens everything is a file. Words count from left to right, so of a
misuse and a question for help the first one decides.
-/
namespace BuildLedger

namespace CommandLine

def programName : String := "buildinfo"

def versionNumber : String := "0.1.0"

/-! ## Words -/

/-- What one word of a command line looks like. -/
inductive Word where
  /-- Two hyphens: no options follow. -/
  | escape
  | long (name : String) (value : Option String)
  | short (letters : List Char)
  | plain (text : String)
deriving Repr, DecidableEq

def Word.ofText (text : String) : Word :=
  match text.toList with
  | ['-', '-'] => .escape
  | '-' :: '-' :: rest =>
      let name := rest.takeWhile (· != '=')
      .long (String.ofList name) (match rest.drop name.length with
        | _ :: value => some (String.ofList value)
        | [] => none)
  | '-' :: first :: rest => .short (first :: rest)
  | _ => .plain text

/-! ## Scopes -/

/-- What may stand in one part of a command line, besides the switches. -/
structure Scope where
  /-- Options with a value. -/
  options : List String
  takesFile : Bool

/-- What was found in a scope. -/
structure Taken where
  json : Bool := false
  verbose : Bool := false
  values : List (String × String) := []
  file : Option String := none
deriving Repr, DecidableEq

/-- Why the words of a command line are not read to their end. -/
inductive Stop where
  | misuse
  | help
  | version
deriving Repr, DecidableEq

namespace Taken

/-- Turn a switch on that is not on yet. -/
def switch (taken : Taken) (letter : Char) : Except Stop Taken :=
  match letter with
  | 'j' => if taken.json then .error .misuse else .ok { taken with json := true }
  | 'v' => if taken.verbose then .error .misuse else .ok { taken with verbose := true }
  | 'h' => .error .help
  | 'V' => .error .version
  | _ => .error .misuse

def switches (taken : Taken) : List Char → Except Stop Taken
  | [] => .ok taken
  | letter :: rest =>
      match taken.switch letter with
      | .ok later => later.switches rest
      | .error stop => .error stop

/-- Take the value of an option that has none yet. -/
def put (taken : Taken) (name value : String) : Except Stop Taken :=
  if value.isEmpty || (taken.values.lookup name).isSome then .error .misuse
  else .ok { taken with values := taken.values ++ [(name, value)] }

/-- Take the file, if the scope has one and it was not given yet. -/
def putFile (taken : Taken) (scope : Scope) (file : String) : Except Stop Taken :=
  if scope.takesFile && taken.file.isNone && !file.isEmpty then .ok { taken with file := some file }
  else .error .misuse

end Taken

/-- The letter of a switch with a long name. -/
def switchLetter? (name : String) : Option Char :=
  [("json", 'j'), ("verbose", 'v'), ("help", 'h'), ("version", 'V')].lookup name

/-- Take an option with a long name; `next` is the word after it. The second part of the result says
whether that word was taken too. -/
def takeLong (scope : Scope) (taken : Taken) (name : String) (value : Option String)
    (next : Option String) : Except Stop (Taken × Bool) :=
  match switchLetter? name, value, next with
  | some letter, none, _ => (taken.switch letter).map ((·, false))
  | some _, some _, _ => .error .misuse
  | none, some value, _ =>
      if scope.options.contains name then (taken.put name value).map ((·, false))
      else .error .misuse
  | none, none, some next =>
      match Word.ofText next with
      | .plain value =>
          if scope.options.contains name then (taken.put name value).map ((·, true))
          else .error .misuse
      | _ => .error .misuse
  | none, none, none => .error .misuse

/-- Read the words of a scope. -/
def readWords (scope : Scope) (escaped : Bool) (taken : Taken) : List String → Except Stop Taken
  | [] => .ok taken
  | word :: rest =>
      if escaped then
        match taken.putFile scope word with
        | .ok later => readWords scope true later rest
        | .error stop => .error stop
      else
        match Word.ofText word with
        | .escape => readWords scope true taken rest
        | .plain text =>
            match taken.putFile scope text with
            | .ok later => readWords scope false later rest
            | .error stop => .error stop
        | .short letters =>
            match taken.switches letters with
            | .ok later => readWords scope false later rest
            | .error stop => .error stop
        | .long name value =>
            match takeLong scope taken name value rest.head?, rest with
            | .error stop, _ => .error stop
            | .ok (later, true), _ :: behind => readWords scope false later behind
            | .ok (later, _), left => readWords scope false later left
termination_by words => words.length

/-! ## Commands -/

/-- Paths that stand in for options that are not given. -/
structure Environment where
  settings : Option String := none
  propsFile : Option String := none
deriving Repr, DecidableEq

/-- What a command line asks for. -/
inductive Invocation where
  | run (command : Command) (json : Bool)
  | help
  /-- The version of the program or of one of its commands. -/
  | version (name : String)
  | misuse
deriving Repr, DecidableEq

def commandNames : List String := ["publish", "validate", "show", "help"]

def scopeOf (command : String) : Scope :=
  if command == "publish" then ⟨["plan", "config", "props-file"], false⟩
  else if command == "validate" then ⟨["config"], false⟩
  else ⟨[], true⟩

/-- The value of an option, or the one that stands in for it; that one must not be empty either. -/
def valueOr (taken : Taken) (name : String) (standIn : Option String) :
    Except Stop (Option String) :=
  match taken.values.lookup name, standIn with
  | some value, _ => .ok (some value)
  | none, some "" => .error .misuse
  | none, other => .ok other

/-- The command with what was found for it; what it needs must be there. -/
def commandOf (environment : Environment) (name : String) (taken : Taken) :
    Except Stop Command :=
  if name == "publish" then do
    let settings ← valueOr taken "config" environment.settings
    let propsFile ← valueOr taken "props-file" environment.propsFile
    match taken.values.lookup "plan" with
    | some plan => return .publish plan settings propsFile
    | none => throw .misuse
  else if name == "validate" then do
    match ← valueOr taken "config" environment.settings with
    | some settings => return .validate settings
    | none => throw .misuse
  else
    match taken.file with
    | some file => .ok (.showRecord file)
    | none => .error .misuse

/-- What a stop means inside a command, or outside of all. -/
def Stop.invocation (command : Option String) : Stop → Invocation
  | .misuse => .misuse
  | .help => .help
  | .version => .version (match command with
      | some name => programName ++ "-" ++ name
      | none => programName)

/-- The words after a command's name. -/
def readCommand (environment : Environment) (name : String) (json : Bool) (words : List String) :
    Invocation :=
  match readWords (scopeOf name) false {} words with
  | .error stop => stop.invocation (some name)
  | .ok taken =>
      match commandOf environment name taken with
      | .ok command => .run command (json || taken.json)
      | .error stop => stop.invocation (some name)

/-- A question for help names at most one command. -/
def readHelp : List String → Invocation
  | [] => .help
  | [name] => if commandNames.contains name then .help else .misuse
  | _ => .misuse

/-- The words up to a command's name are switches. -/
def readTop (environment : Environment) (taken : Taken) : List String → Invocation
  | [] => .misuse
  | word :: rest =>
      match Word.ofText word with
      | .escape => .misuse
      | .plain name =>
          if name == "help" then readHelp rest
          else if commandNames.contains name then readCommand environment name taken.json rest
          else .misuse
      | .short letters =>
          match taken.switches letters with
          | .ok later => readTop environment later rest
          | .error stop => stop.invocation none
      | .long name value =>
          match takeLong ⟨[], false⟩ taken name value none with
          | .ok (later, _) => readTop environment later rest
          | .error stop => stop.invocation none

def read (environment : Environment) (arguments : List String) : Invocation :=
  readTop environment {} arguments

/-! ## Running -/

/-- How the program ends. -/
structure Ending where
  code : Nat
  output : String := ""
  errors : String := ""
deriving Repr, DecidableEq

def usage : String :=
  "Usage: buildinfo [-j] [-v] publish --plan <PLAN> [--config <CONFIG>] [--props-file <FILE>]\n" ++
  "       buildinfo [-j] [-v] validate --config <CONFIG>\n" ++
  "       buildinfo [-j] [-v] show <FILE>\n"

/-- A printed command as the end of the program. -/
def Ending.ofPrinted (printed : Command.Printed) : Ending :=
  match printed.result with
  | .ok () => { code := 0, output := printed.text }
  | .error fault =>
      { code := 1, output := printed.text, errors := "error: " ++ fault.message ++ "\n" }

variable {State : Type}

def Invocation.perform (invocation : Invocation) (repository : Repository State)
    (world : World State) : Ending × World State :=
  match invocation with
  | .run command json =>
      let (printed, later) := command.run json repository world
      (.ofPrinted printed, later)
  | .help => ({ code := 0, output := usage }, world)
  | .version name => ({ code := 0, output := name ++ " " ++ versionNumber ++ "\n" }, world)
  | .misuse => ({ code := 2, errors := usage }, world)

end CommandLine

end BuildLedger
