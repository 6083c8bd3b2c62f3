import ClusterClient.Text

namespace ClusterClient.CommandLine

/-- How much is logged. Nothing is, unless asked for. -/
inductive LogLevel where
  | off
  | error
  | warn
  | info
  | debug
  | trace
  deriving DecidableEq, Repr

def LogLevel.ofName? : String → Option LogLevel
  | "off" => some .off
  | "error" => some .error
  | "warn" => some .warn
  | "info" => some .info
  | "debug" => some .debug
  | "trace" => some .trace
  | _ => none

/-- What stands before the command. -/
structure Settings where
  server : Option String := none
  token : Option String := none
  namespaceName : Option String := none
  logLevel : Option LogLevel := none
  deriving DecidableEq, Repr

/-- A flag before the command. Each takes a value. -/
inductive Setting where
  | server
  | token
  | namespaceName
  | logLevel
  deriving DecidableEq, Repr

namespace Setting

def ofName? : String → Option Setting
  | "server" => some server
  | "token" => some token
  | "namespace" => some namespaceName
  | "log-level" => some logLevel
  | _ => none

def ofLetter? : Char → Option Setting
  | 's' => some server
  | 'n' => some namespaceName
  | _ => none

end Setting

/-- A value where there was none; a second one is too many. -/
def once {α : Type} (value : α) : Option α → Option (Option α)
  | none => some (some value)
  | some _ => none

/-- Give a setting its value. Every setting is given once at most. -/
def Settings.set? (settings : Settings) (value : String) : Setting → Option Settings
  | .server => (once value settings.server).map fun server => { settings with server }
  | .token => (once value settings.token).map fun token => { settings with token }
  | .namespaceName =>
    (once value settings.namespaceName).map fun namespaceName => { settings with namespaceName }
  | .logLevel => do
    let level ← LogLevel.ofName? value
    (once level settings.logLevel).map fun logLevel => { settings with logLevel }

/-- What the program is asked to do. -/
inductive Command where
  | apiResources
  /-- Get one resource, or without a name the list of its kind. -/
  | get (kind : String) (name apiVersion : Option String)
  | delete (kind name : String) (apiVersion : Option String)
  | version
  deriving DecidableEq, Repr

/-- Why no command is carried out. -/
inductive Ending where
  | version
  | help
  | misuse
  deriving DecidableEq, Repr

/-- What one argument looks like. -/
inductive Word where
  /-- Two dashes: no flags come after them. -/
  | escape
  | long (name : String) (value : Option String)
  | short (letter : Char) (value : Option String)
  | plain (text : String)
  deriving DecidableEq, Repr

namespace Word

/-- What follows a letter is its value. An equals sign between them is left out. -/
def attached : List Char → Option String
  | [] => none
  | '=' :: rest => some (String.ofList rest)
  | rest => some (String.ofList rest)

/-- One dash alone is plain. -/
def ofText (text : String) : Word :=
  match text.toList with
  | ['-', '-'] => escape
  | '-' :: '-' :: rest =>
    let (name, value) := Text.cut '=' (String.ofList rest)
    long name value
  | '-' :: letter :: rest => short letter (attached rest)
  | _ => plain text

end Word

/-- The arguments of a command: what is plain, and the flag that some commands know. -/
structure Operands where
  plain : List String := []
  apiVersion : Option String := none
  deriving DecidableEq, Repr

namespace Operands

/-- Read what follows a command that takes `limit` plain arguments at most. `versioned` tells
whether it knows the flag, and `waiting` whether the flag is still without its value. -/
def read (limit : Nat) (versioned : Bool) (waiting : Bool) (operands : Operands) :
    List String → Except Ending Operands
  | [] => if waiting then .error .misuse else .ok operands
  | text :: rest =>
    let flag (value : Option String) : Except Ending Operands :=
      if versioned && operands.apiVersion.isNone then
        match value with
        | some value => read limit versioned false { operands with apiVersion := some value } rest
        | none => read limit versioned true operands rest
      else .error .misuse
    match Word.ofText text, waiting with
    | .plain value, true =>
      read limit versioned false { operands with apiVersion := some value } rest
    | _, true => .error .misuse
    | .plain value, false =>
      if operands.plain.length < limit then
        read limit versioned false { operands with plain := operands.plain ++ [value] } rest
      else .error .misuse
    | .escape, false =>
      if operands.plain.length + rest.length ≤ limit then
        .ok { operands with plain := operands.plain ++ rest }
      else .error .misuse
    | .long "api-version" value, false => flag value
    | .long "help" none, false => .error .help
    | .long _ _, false => .error .misuse
    | .short 'h' _, false => .error .help
    | .short _ _, false => .error .misuse

end Operands

/-- The command of a name with what follows it; none if there is no such command. -/
def Command.read? (name : String) (arguments : List String) : Option (Except Ending Command) :=
  let operands (limit : Nat) (versioned : Bool) := Operands.read limit versioned false {} arguments
  match name with
  | "api-resources" => some ((operands 0 false).map fun _ => .apiResources)
  | "get" => some <| (operands 2 true).bind fun given =>
    match given.plain with
    | kind :: rest => .ok (.get kind rest.head? given.apiVersion)
    | [] => .error .misuse
  | "delete" => some <| (operands 2 true).bind fun given =>
    match given.plain with
    | [kind, name] => .ok (.delete kind name given.apiVersion)
    | _ => .error .misuse
  | "version" => some ((operands 0 false).map fun _ => .version)
  | "help" => some (.error (if arguments.all topics.contains then .help else .misuse))
  | _ => none
where
  /-- What there is help for. -/
  topics : List String := ["api-resources", "get", "delete", "version", "help"]

/-- Read all arguments of the program. `waiting` is a setting still without its value. -/
def read (settings : Settings) (waiting : Option Setting) :
    List String → Except Ending (Settings × Command)
  | [] => .error .misuse
  | text :: rest =>
    let give (setting : Setting) (value : Option String) : Except Ending (Settings × Command) :=
      match value with
      | none => read settings (some setting) rest
      | some value =>
        match settings.set? value setting with
        | some settings => read settings none rest
        | none => .error .misuse
    match Word.ofText text, waiting with
    | .plain value, some setting => give setting (some value)
    | _, some _ => .error .misuse
    | .plain name, none =>
      match Command.read? name rest with
      | some command => command.map fun command => (settings, command)
      | none => .error .misuse
    | .escape, none => .error .misuse
    | .long "version" none, none => .error .version
    | .long "help" none, none => .error .help
    | .long name value, none => (Setting.ofName? name).elim (.error .misuse) (give · value)
    | .short 'V' _, none => .error .version
    | .short 'h' _, none => .error .help
    | .short letter value, none => (Setting.ofLetter? letter).elim (.error .misuse) (give · value)

/-- The settings and the command that some arguments give. -/
def ofArguments (arguments : List String) : Except Ending (Settings × Command) :=
  read {} none arguments

end ClusterClient.CommandLine
