/-! # The command line

    What the arguments ask for.  Options come before or after the command,
    each at most once at either place; after two dashes everything is an
    argument of the command.  Names are never abbreviated. -/

namespace PluginHost

/-- What the program can do. -/
inductive Command where
  /-- Load the enabled plugins and say what has to be installed. -/
  | check
  /-- List the available plugins. -/
  | list
  /-- Load the enabled plugins and show what they registered. -/
  | registry (json : Bool)
  /-- Show the completed settings of a plugin. -/
  | settings (plugin : String)
  /-- Show the settings template of a plugin. -/
  | init (plugin : String)
deriving DecidableEq, Repr

/-- A command, and the options that hold for every command. -/
structure Invocation where
  command    : Command
  config     : Option String := none
  pluginsDir : Option String := none
deriving DecidableEq, Repr

/-- Why the arguments make no sense. -/
inductive UsageError where
  | missingCommand
  | unknownCommand (argument : String)
  | unexpectedArgument (argument : String)
  | missingValue (option : String)
  | repeatedOption (option : String)
  | missingName
deriving DecidableEq, Repr

/-- The message for a fault in the arguments. -/
def UsageError.message : UsageError → String
  | .missingCommand => "a command is missing"
  | .unknownCommand argument => "unknown command '" ++ argument ++ "'"
  | .unexpectedArgument argument => "unexpected argument '" ++ argument ++ "'"
  | .missingValue option => "option '" ++ option ++ "' needs a value"
  | .repeatedOption option => "option '" ++ option ++ "' is given more than once"
  | .missingName => "the name of a plugin is missing"

/-- What the arguments ask for: something to do, or the usage. -/
inductive Request where
  | run (invocation : Invocation)
  | usage
deriving DecidableEq, Repr

/-- How the program is used. -/
def usageText : String :=
  "Validate plugins and inspect the extensions they register\n\n"
    ++ "Usage: nbplugins [OPTIONS] <COMMAND>\n\n"
    ++ "Commands:\n"
    ++ "  check          Validate and initialize every enabled plugin\n"
    ++ "  list           List available plugins and whether they are enabled\n"
    ++ "  registry       Load the enabled plugins and print the resulting registry\n"
    ++ "  settings NAME  Print a plugin's settings with defaults applied\n"
    ++ "  init NAME      Print a settings template for a plugin\n\n"
    ++ "Options:\n"
    ++ "  -c, --config PATH       Configuration file\n"
    ++ "      --plugins-dir PATH  Directory holding manifest-declared plugins\n"
    ++ "      --json              Print the registry as JSON\n"

namespace CommandLine

/-! ## Arguments -/

/-- The options that take a path. -/
inductive PathOption where
  | config | pluginsDir
deriving DecidableEq, Repr

/-- How messages name an option. -/
def PathOption.name : PathOption → String
  | .config => "--config"
  | .pluginsDir => "--plugins-dir"

/-- An argument by its form. -/
inductive Argument where
  /-- An option whose value is the next argument. -/
  | option (which : PathOption)
  /-- An option with its value. -/
  | valued (which : PathOption) (value : String)
  | json
  | help
  /-- Two dashes: no more options. -/
  | endOfOptions
  | unknown (text : String)
  | plain (text : String)
deriving DecidableEq, Repr

/-- An argument that starts with two dashes. -/
def longArgument (text : String) (l : List Char) : Argument :=
  let name := String.ofList (l.takeWhile (· != '='))
  let value := l.dropWhile (· != '=')
  let option (which : PathOption) : Argument :=
    match value with
    | [] => .option which
    | _ :: rest => .valued which (String.ofList rest)
  if name = "config" then option .config
  else if name = "plugins-dir" then option .pluginsDir
  else if name = "json" ∧ value = [] then .json
  else if name = "help" ∧ value = [] then .help
  else .unknown text

/-- Classify an argument.  A dash alone is no option. -/
def classify (text : String) : Argument :=
  match text.toList with
  | ['-', '-'] => .endOfOptions
  | '-' :: '-' :: rest => longArgument text rest
  | ['-'] => .plain text
  | ['-', 'c'] => .option .config
  | '-' :: 'c' :: '=' :: rest => .valued .config (String.ofList rest)
  | '-' :: 'c' :: rest => .valued .config (String.ofList rest)
  | '-' :: 'h' :: _ => .help
  | '-' :: _ => .unknown text
  | _ => .plain text

/-! ## Options -/

/-- The options given at one place. -/
structure Options where
  config     : Option String := none
  pluginsDir : Option String := none

/-- The value of an option that was given. -/
def Options.get? (o : Options) : PathOption → Option String
  | .config => o.config
  | .pluginsDir => o.pluginsDir

/-- Give an option, which must not be given yet, a value that is not empty. -/
def Options.set (o : Options) (which : PathOption) (value : String) :
    Except UsageError Options :=
  if value.isEmpty then .error (.missingValue which.name)
  else if (o.get? which).isSome then .error (.repeatedOption which.name)
  else
    match which with
    | .config => .ok { o with config := some value }
    | .pluginsDir => .ok { o with pluginsDir := some value }

/-! ## Arguments of a command -/

/-- What is known of a command while its arguments are read. -/
structure Partial where
  options : Options := {}
  json    : Bool := false
  name    : Option String := none

/-- The commands by name, before their arguments are known. -/
inductive Verb where
  | check | list | registry | settings | init
deriving DecidableEq, Repr

/-- The command of a name. -/
def Verb.ofName (text : String) : Option Verb :=
  if text = "check" then some .check
  else if text = "list" then some .list
  else if text = "registry" then some .registry
  else if text = "settings" then some .settings
  else if text = "init" then some .init
  else none

/-- Take an argument that is no option: only some commands have one. -/
def takePlain (verb : Verb) (p : Partial) (text : String) : Except UsageError Partial :=
  if (verb = .settings ∨ verb = .init) ∧ p.name.isNone then .ok { p with name := some text }
  else .error (.unexpectedArgument text)

/-- Take the arguments after two dashes. -/
def takeRest (verb : Verb) (p : Partial) (arguments : List String) : Except UsageError Partial :=
  arguments.foldlM (takePlain verb) p

/-- Take the arguments of a command; `none` when the usage is asked for. -/
def takeArguments (verb : Verb) (p : Partial) : List String → Except UsageError (Option Partial)
  | [] => .ok (some p)
  | text :: rest =>
    match classify text with
    | .plain text => do takeArguments verb (← takePlain verb p text) rest
    | .valued which value => do
      takeArguments verb { p with options := ← p.options.set which value } rest
    | .option which =>
      match rest with
      | [] => .error (.missingValue which.name)
      | value :: rest =>
        -- What looks like an option is never taken for a value.
        match classify value with
        | .plain value => do
          takeArguments verb { p with options := ← p.options.set which value } rest
        | _ => .error (.missingValue which.name)
    | .json =>
      if verb = .registry then
        if p.json then .error (.repeatedOption "--json")
        else takeArguments verb { p with json := true } rest
      else .error (.unexpectedArgument text)
    | .help => .ok none
    | .endOfOptions => do pure (some (← takeRest verb p rest))
    | .unknown text => .error (.unexpectedArgument text)

/-- The command, once its arguments are known. -/
def command (verb : Verb) (p : Partial) : Except UsageError Command :=
  match verb with
  | .check => .ok .check
  | .list => .ok .list
  | .registry => .ok (.registry p.json)
  | .settings => (p.name.map (.ok ∘ .settings)).getD (.error .missingName)
  | .init => (p.name.map (.ok ∘ .init)).getD (.error .missingName)

/-- The request for a command with its arguments.  Options after the command
    win over those before it. -/
def requestFor (outer : Options) (verb : Verb) (arguments : List String) :
    Except UsageError Request := do
  match ← takeArguments verb {} arguments with
  | none => pure .usage
  | some p =>
    pure (.run
      { command := ← command verb p
        config := p.options.config <|> outer.config
        pluginsDir := p.options.pluginsDir <|> outer.pluginsDir })

/-- The request for help on what the names name.  Only the program itself has
    commands, so a second name names nothing. -/
def helpFor : List String → Except UsageError Request
  | [] => .ok .usage
  | name :: more =>
    if name = "help" ∨ (Verb.ofName name).isSome then
      match more with
      | [] => .ok .usage
      | next :: _ => .error (.unknownCommand next)
    else .error (.unknownCommand name)

/-! ## All arguments -/

/-- Read the options before the command, and then the command. -/
def parseFrom (outer : Options) : List String → Except UsageError Request
  | [] => .error .missingCommand
  | text :: rest =>
    match classify text with
    | .plain text =>
      match Verb.ofName text with
      | some verb => requestFor outer verb rest
      | none => if text = "help" then helpFor rest else .error (.unknownCommand text)
    | .valued which value => do parseFrom (← outer.set which value) rest
    | .option which =>
      match rest with
      | [] => .error (.missingValue which.name)
      | value :: rest =>
        match classify value with
        | .plain value => do parseFrom (← outer.set which value) rest
        | _ => .error (.missingValue which.name)
    | .help => .ok .usage
    | .json => .error (.unexpectedArgument text)
    | .endOfOptions => .error .missingCommand
    | .unknown text => .error (.unexpectedArgument text)

/-- What the arguments ask for. -/
def parse (arguments : List String) : Except UsageError Request := parseFrom {} arguments

end CommandLine

end PluginHost
