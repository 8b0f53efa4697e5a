import RegistrySync.Text.Blank
import RegistrySync.Text.Cut

/-!
Arguments of the program.

Three options take a value, which may be the next argument, or follow an equals sign, or stand
directly behind the letter of a short option. An option waits for its value until something else
comes; only then is it known to be missing, or the option to be repeated. What is not known at all
is refused before that.
-/

namespace RegistrySync.CommandLine

open Text

/-- Options with a value. -/
inductive Setting where
  | config
  | dockerHost
  | apiVersion
  deriving DecidableEq, Repr

/-- Options without one. -/
inductive Switch where
  | verbose
  | help
  | version
  deriving DecidableEq, Repr

/-- Why the arguments do not make a program run. -/
inductive Refusal where
  | missingArgument
  | unknownArgument
  /-- An option is given twice. -/
  | conflict
  /-- An option lacks its value. -/
  | missingValue
  /-- A switch is given a value. -/
  | surplusValue
  | helpWanted
  | versionWanted
  deriving DecidableEq, Repr

/-- What is gathered so far. -/
structure Gathered where
  config : Option String
  dockerHost : Option String
  apiVersion : Option String
  verbose : Bool
  /-- The option met last, with its value once that has come. -/
  pending : Option (Setting × Option String)
  deriving DecidableEq, Repr

structure Arguments where
  config : String
  dockerHost : Option String
  apiVersion : Option String
  verbose : Bool
  deriving DecidableEq, Repr

namespace Gathered

def none : Gathered := ⟨.none, .none, .none, false, .none⟩

/-- Gives an option its value, once. -/
def put (g : Gathered) (s : Setting) (value : String) : Except Refusal Gathered :=
  match s with
  | .config => if g.config.isSome then .error .conflict else .ok { g with config := value }
  | .dockerHost =>
    if g.dockerHost.isSome then .error .conflict else .ok { g with dockerHost := value }
  | .apiVersion =>
    if g.apiVersion.isSome then .error .conflict else .ok { g with apiVersion := value }

/-- Settles the option met last. -/
def settle (g : Gathered) : Except Refusal Gathered :=
  match g.pending with
  | .none => .ok g
  | some (_, .none) => .error .missingValue
  | some (s, some value) => { g with pending := .none }.put s value

/-- Meets a switch. -/
def flip (g : Gathered) (s : Switch) : Except Refusal Gathered := do
  let g ← g.settle
  match s with
  | .verbose => if g.verbose then throw .conflict else return { g with verbose := true }
  | .help => throw .helpWanted
  | .version => throw .versionWanted

/-- Meets an option with its value, or waits for that. -/
def meet (g : Gathered) (s : Setting) (value : Option String) : Except Refusal Gathered := do
  let g ← g.settle
  match value with
  | some v => g.put s v
  | .none => return { g with pending := some (s, .none) }

/-- Meets an argument that is no option: the value that is waited for. -/
def take (g : Gathered) (value : String) : Except Refusal Gathered :=
  match g.pending with
  | some (s, .none) => .ok { g with pending := some (s, some value) }
  | _ => .error .unknownArgument

end Gathered

/-- What an option name stands for. -/
def longOption : String → Option (Setting ⊕ Switch)
  | "config" => some (.inl .config)
  | "docker-host" => some (.inl .dockerHost)
  | "api-version" => some (.inl .apiVersion)
  | "verbose" => some (.inr .verbose)
  | "help" => some (.inr .help)
  | "version" => some (.inr .version)
  | _ => none

def shortOption : Char → Option (Setting ⊕ Switch)
  | 'c' => some (.inl .config)
  | 'v' => some (.inr .verbose)
  | 'h' => some (.inr .help)
  | 'V' => some (.inr .version)
  | _ => none

/-- An argument behind two dashes. -/
def readLong (g : Gathered) (cs : List Char) : Except Refusal Gathered :=
  let (name, value) := match cutFirst '=' cs with
    | some (name, value) => (name, some (String.ofList value))
    | none => (cs, none)
  match longOption (String.ofList name), value with
  | none, _ => .error .unknownArgument
  | some (.inl s), value => g.meet s value
  | some (.inr _), some _ => .error .surplusValue
  | some (.inr s), none => g.flip s

/-- The value that stands directly behind a short option. -/
def attached : List Char → Option String
  | [] => none
  | '=' :: cs => some (String.ofList cs)
  | cs => some (String.ofList cs)

/-- Letters behind one dash: switches, and an option with what is left as its value. -/
def readShort (g : Gathered) : List Char → Except Refusal Gathered
  | [] => .ok g
  | c :: cs =>
    match shortOption c with
    | none => .error .unknownArgument
    | some (.inl s) => g.meet s (attached cs)
    | some (.inr s) => do
      let g ← g.flip s
      readShort g cs

/-- Arguments one by one; behind two dashes alone nothing may follow. -/
def gather (g : Gathered) : List String → Except Refusal Gathered
  | [] => g.settle
  | a :: rest => do
    match a.toList with
    | ['-', '-'] => if rest.isEmpty then g.settle else throw .unknownArgument
    | '-' :: '-' :: cs => gather (← readLong g cs) rest
    | '-' :: c :: cs => gather (← readShort g (c :: cs)) rest
    | _ => gather (← g.take a) rest

/-- The arguments behind the name of the program. -/
def Arguments.parse (args : List String) : Except Refusal Arguments := do
  let g ← gather .none args
  match g.config with
  | none => throw .missingArgument
  | some config => return ⟨config, g.dockerHost, g.apiVersion, g.verbose⟩

/-! The environment. -/

/-- Values that switch on. -/
def isEnabled (value : String) : Bool :=
  ["1", "true", "yes", "on"].contains
    (String.ofList ((trimBy isBlank value.toList).map Char.toLower))

/-- The variables that are looked at. -/
def hostVariable : String := "DOCKER_HOST"
def versionVariable : String := "DOCKER_API_VERSION"
def verboseVariable : String := "SYNCER_VERBOSE"

def environmentVariables : List String := [hostVariable, versionVariable, verboseVariable]

/-- Fills in what is not given from variables of the environment that are not blank. -/
def Arguments.withEnvironment (a : Arguments) (lookup : String → Option String) : Arguments where
  config := a.config
  dockerHost := a.dockerHost <|> (lookup hostVariable).filter (!onlyBlanks ·)
  apiVersion := a.apiVersion <|> (lookup versionVariable).filter (!onlyBlanks ·)
  verbose := a.verbose || (lookup verboseVariable).any isEnabled

/-! Values that make no sense. -/

inductive Violation where
  | blankConfig
  | blankHost
  | badVersion (version : String)
  deriving DecidableEq, Repr

def Violation.message : Violation → String
  | .blankConfig => "Config file path cannot be empty"
  | .blankHost => "Docker host cannot be empty"
  | .badVersion v => "Invalid API version '" ++ v ++ "', expected e.g. 1.41"

/-- Two numbers with a point between them. -/
def isVersion (cs : List Char) : Bool :=
  let parts := pieces '.' cs
  parts.length == 2 && parts.all fun p => !p.isEmpty && p.all Char.isDigit

def versionViolation (version : String) : Option Violation :=
  let cs := trimStartBy (· == 'v') version.toList
  if isVersion cs then none else some (.badVersion (String.ofList cs))

def Arguments.violation (a : Arguments) : Option Violation :=
  if onlyBlanks a.config then some .blankConfig
  else if a.dockerHost.any onlyBlanks then some .blankHost
  else a.apiVersion.bind versionViolation

end RegistrySync.CommandLine
