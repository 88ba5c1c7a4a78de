import ControlPlane.Net.Address
import ControlPlane.Settings.File

/-!
# The command line

The arguments of the program and the settings that they ask for.  Options come
before the command they belong to.  An option takes its value from the rest of
its own argument or from the next argument, which must not look like an option.
A value of its own argument is checked at once; the next argument is checked
when another option follows, or at the end, after a command that stands behind
it.  Asking for help or for the version ends the reading at once.
-/

namespace ControlPlane.CommandLine

open Net

/-- Why the arguments name no command to run. -/
inductive Halt
  | help
  | version
  | usage
  deriving DecidableEq, Repr

/-- What an option does. -/
inductive Effect
  | halt (h : Halt)
  | flag
  /-- It takes a value that passes a test. -/
  | value (accepts : String → Bool)

/-- An option by its long name and, if it has one, its letter. -/
structure Choice where
  name : String
  letter : Option Char := none
  effect : Effect

/-- The options read so far. -/
structure Given where
  /-- The options with their values; flags have none. -/
  values : List (String × Option String) := []
  /-- An option whose value is not checked yet, and its value if it was read. -/
  pending : Option (Choice × Option String) := none

namespace Given

/-- The value of an option. -/
def value? (g : Given) (name : String) : Option String := (g.values.lookup name).join

/-- Was the flag given? -/
def hasFlag (g : Given) (name : String) : Bool := (g.values.lookup name).isSome

/-- Takes an option with its value, once. -/
def take (g : Given) (c : Choice) (value : Option String) : Except Halt Given :=
  let fits : Bool :=
    match c.effect, value with
    | .value accepts, some v => accepts v
    | .flag, none => true
    | _, _ => false
  if fits && (g.values.lookup c.name).isNone then
    .ok { g with values := (c.name, value) :: g.values }
  else .error .usage

/-- Checks the option that is pending. -/
def settle (g : Given) : Except Halt Given :=
  match g.pending with
  | none => .ok g
  | some (c, v) => { g with pending := none }.take c v

/-- Takes an option, with the value that stands in its own argument. -/
def choose (g : Given) (c : Choice) (value : Option String) : Except Halt Given := do
  let g ← g.settle
  match c.effect, value with
  | .halt h, none => .error h
  | .value _, none => .ok { g with pending := some (c, none) }
  | _, _ => g.take c value

end Given

/-- Reads `--name` or `--name=value`, without the hyphens. -/
def long (choices : List Choice) (g : Given) (cs : List Char) : Except Halt Given :=
  let name := String.ofList (cs.takeWhile (· != '='))
  let value :=
    match cs.dropWhile (· != '=') with
    | [] => none
    | _ :: v => some (String.ofList v)
  match choices.find? fun c => c.name == name with
  | none => .error .usage
  | some c => g.choose c value

/-- Reads letters behind one hyphen; the rest behind the letter of an option
that takes a value is the value. -/
def letters (choices : List Choice) : Given → List Char → Except Halt Given
  | g, [] => .ok g
  | g, l :: rest =>
    match choices.find? fun c => c.letter == some l with
    | none => .error .usage
    | some c =>
      match c.effect, rest with
      | .value _, [] => g.choose c none
      | .value _, '=' :: v => g.choose c (some (String.ofList v))
      | .value _, v => g.choose c (some (String.ofList v))
      | _, _ => do letters choices (← g.choose c none) rest

/-- Reads options up to the first argument that is none, and hands that one
back with the arguments after it. -/
def options (choices : List Choice) :
    Given → List String → Except Halt (Given × Option (String × List String))
  | g, [] => .ok (g, none)
  | g, arg :: args =>
    match arg.toList with
    | ['-', '-'] => if args.isEmpty then .ok (g, none) else .error .usage
    | '-' :: '-' :: cs => do options choices (← long choices g cs) args
    | '-' :: c :: cs => do options choices (← letters choices g (c :: cs)) args
    | _ =>
      match g.pending with
      | some (c, none) => options choices { g with pending := some (c, some arg) } args
      | _ => .ok (g, some (arg, args))

/-! ## Commands -/

/-- What the program is asked to do. -/
inductive Command
  /-- Run the control plane. -/
  | serve (address : Option Address) (development noSafeMode : Bool)
  /-- Show the settings. -/
  | checkConfig
  /-- Show the version. -/
  | version
  deriving DecidableEq

/-- A command with the options before it. -/
structure Invocation where
  /-- The path of the settings file. -/
  config : Option String
  logLevel : Option String
  command : Command
  deriving DecidableEq

/-- The option that asks for help. -/
def helpChoice : Choice := { name := "help", letter := some 'h', effect := .halt .help }

/-- The options of the program. -/
def programChoices : List Choice :=
  [{ name := "config", letter := some 'c', effect := .value fun v => !v.isEmpty },
    { name := "log-level", letter := some 'l', effect := .value fun _ => true },
    { name := "version", letter := some 'V', effect := .halt .version },
    helpChoice]

/-- The options of the command that runs the control plane. -/
def serveChoices : List Choice :=
  [{ name := "admin-addr", effect := .value fun v => (Address.parse? v).isSome },
    { name := "dev", effect := .flag },
    { name := "no-safe-mode", effect := .flag },
    helpChoice]

/-- Reads the arguments of a command. -/
def arguments (choices : List Choice) (args : List String) : Except Halt Given := do
  let (g, rest) ← options choices {} args
  if rest.isSome then throw .usage else g.settle

/-- Reads a command by its name. -/
def command (name : String) (args : List String) : Except Halt Command :=
  match name with
  | "serve" => do
    let g ← arguments serveChoices args
    return .serve ((g.value? "admin-addr").bind Address.parse?) (g.hasFlag "dev")
      (g.hasFlag "no-safe-mode")
  | "check-config" => do let _ ← arguments [helpChoice] args; return .checkConfig
  | "version" => do let _ ← arguments [helpChoice] args; return .version
  | "help" =>
    match args with
    | [] => .error .help
    | [topic] =>
      .error (if ["serve", "check-config", "version", "help"].contains topic then .help else .usage)
    | _ => .error .usage
  | _ => .error .usage

/-- Reads the arguments of the program, without its name. -/
def parse (args : List String) : Except Halt Invocation := do
  let (g, rest) ← options programChoices {} args
  match rest with
  | none =>
    let g ← g.settle
    throw (if g.values.isEmpty then .help else .usage)
  | some (name, args) =>
    let command ← command name args
    let g ← g.settle
    return { config := g.value? "config", logLevel := g.value? "log-level", command }

/-! ## Effective settings -/

/-- The settings before options change them: those of the file, or the profile
that the command asks for. -/
def Invocation.base (i : Invocation) (files : Files) : Except Error Settings :=
  match i.config, i.command with
  | some path, _ => Settings.ofFile files path
  | none, .serve _ true _ => .ok .development
  | none, _ => .ok {}

/-- The settings with what the options change. -/
def Invocation.apply (i : Invocation) (s : Settings) : Settings :=
  let s :=
    match i.logLevel with
    | some logLevel => { s with observability := { s.observability with logLevel } }
    | none => s
  match i.command with
  | .serve address _ noSafeMode =>
    { s with
      admin := { s.admin with address := address.getD s.admin.address }
      safeMode := { s.safeMode with enabled := s.safeMode.enabled && !noSafeMode } }
  | _ => s

/-- The settings that the arguments ask for, if they can be used. -/
def Invocation.settings (i : Invocation) (files : Files) : Except Error Settings := do
  let s := i.apply (← i.base files)
  s.validate
  return s

end ControlPlane.CommandLine
