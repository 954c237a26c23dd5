import Typescribe.Job
import Typescribe.Settings.Yaml

/-! The command line: options with a value, switches, and what they ask for. -/
namespace Typescribe.CommandLine

/-- Options that take a value. -/
inductive ValueOption where
  | model
  | docs
  | templates
  | config
  | types
  | out
  deriving DecidableEq, Repr

inductive Switch where
  | noDocs
  | camelCase
  | allowUnresolved
  | verbose
  deriving DecidableEq, Repr

inductive Meaning where
  | value (option : ValueOption)
  | switch (switch : Switch)
  | help
  | version
  deriving DecidableEq, Repr

/-- What the words behind two hyphens mean. -/
def words : List (String × Meaning) :=
  [("model", .value .model), ("docs", .value .docs), ("templates", .value .templates),
    ("config", .value .config), ("types", .value .types), ("out", .value .out),
    ("no-docs", .switch .noDocs), ("camel-case", .switch .camelCase),
    ("allow-unresolved", .switch .allowUnresolved), ("verbose", .switch .verbose), ("help", .help),
    ("version", .version)]

/-- What the letters behind one hyphen mean. -/
def letters : List (Char × Meaning) :=
  [('m', .value .model), ('d', .value .docs), ('t', .value .templates), ('c', .value .config),
    ('o', .value .out), ('v', .switch .verbose), ('h', .help), ('V', .version)]

/-- What is wrong with a command line. -/
inductive Fault where
  | unknownOption (text : String)
  | strayArgument (text : String)
  | missingValue (option : ValueOption)
  | emptyPath (option : ValueOption)
  | unwantedValue (text : String)
  | repeated (text : String)
  | missingOption (option : ValueOption)
  deriving DecidableEq, Repr

def ValueOption.name (option : ValueOption) : String :=
  "--" ++ ((words.find? fun w => w.2 = .value option).map Prod.fst).getD ""

def Switch.name (switch : Switch) : String :=
  "--" ++ ((words.find? fun w => w.2 = .switch switch).map Prod.fst).getD ""

def Fault.message : Fault → String
  | .unknownOption text => "unknown option " ++ text
  | .strayArgument text => "unexpected argument " ++ text
  | .missingValue option => "a value is required for " ++ option.name
  | .emptyPath option => "the path given for " ++ option.name ++ " is empty"
  | .unwantedValue text => "unexpected value in " ++ text
  | .repeated text => text ++ " is given more than once"
  | .missingOption option => option.name ++ " is required"

/-- Why the arguments are not read to their end. -/
inductive Stop where
  | help
  | version
  | fault (fault : Fault)
  deriving DecidableEq, Repr

/-- What has been given so far, in order. -/
structure Arguments where
  values : List (ValueOption × String)
  switches : List Switch
  deriving DecidableEq, Repr

namespace Arguments

def empty : Arguments := ⟨[], []⟩

def valuesOf (a : Arguments) (option : ValueOption) : List String :=
  a.values.filterMap fun v => if v.1 = option then some v.2 else none

def value? (a : Arguments) (option : ValueOption) : Option String :=
  (a.valuesOf option).head?

def has (a : Arguments) (switch : Switch) : Bool :=
  a.switches.contains switch

/-- Options that may be given more than once. -/
def isRepeatable (option : ValueOption) : Bool :=
  option = .docs || option = .types

/-- All values but names of types are paths, which are not empty. -/
def addValue (a : Arguments) (option : ValueOption) (value : String) : Except Stop Arguments :=
  if value.isEmpty && option != .types then .error (.fault (.emptyPath option))
  else if !isRepeatable option && (a.value? option).isSome then
    .error (.fault (.repeated option.name))
  else .ok { a with values := a.values ++ [(option, value)] }

def addSwitch (a : Arguments) (switch : Switch) : Except Stop Arguments :=
  if a.has switch then .error (.fault (.repeated switch.name))
  else .ok { a with switches := a.switches ++ [switch] }

/-- Letters behind one hyphen. An option takes the rest of them as its value, without an equals sign
in front, or else waits for the next argument. -/
def readLetters (a : Arguments) : List Char → Except Stop (Arguments × Option ValueOption)
  | [] => .ok (a, none)
  | c :: cs =>
    match letters.lookup c with
    | none => .error (.fault (.unknownOption (String.ofList ['-', c])))
    | some .help => .error .help
    | some .version => .error .version
    | some (.switch s) => do
      let a ← a.addSwitch s
      a.readLetters cs
    | some (.value option) => do
      match cs with
      | [] => return (a, some option)
      | '=' :: value => return (← a.addValue option (String.ofList value), none)
      | value => return (← a.addValue option (String.ofList value), none)

/-- A word behind two hyphens, with a value behind an equals sign if there is one. -/
def readWord (a : Arguments) (cs : List Char) : Except Stop (Arguments × Option ValueOption) :=
  let (word, value) :=
    match Text.splitFirst '=' cs with
    | some (word, value) => (String.ofList word, some (String.ofList value))
    | none => (String.ofList cs, none)
  match words.lookup word, value with
  | none, _ => .error (.fault (.unknownOption ("--" ++ word)))
  | some (.value option), some value => do
    return (← a.addValue option value, none)
  | some (.value option), none => .ok (a, some option)
  | some _, some _ => .error (.fault (.unwantedValue ("--" ++ String.ofList cs)))
  | some (.switch s), none => do
    return (← a.addSwitch s, none)
  | some .help, none => .error .help
  | some .version, none => .error .version

/-- An argument that is an option: everything that starts with a hyphen, and a lone hyphen is
none. -/
def isOption (text : String) : Bool :=
  match text.toList with
  | '-' :: _ :: _ => true
  | _ => false

/-- Reads the arguments in order; `waiting` is an option whose value comes next. -/
def readAll (a : Arguments) (waiting : Option ValueOption) : List String → Except Stop Arguments
  | [] =>
    match waiting with
    | some option => .error (.fault (.missingValue option))
    | none => .ok a
  | text :: texts =>
    match waiting with
    | some option =>
      if isOption text then .error (.fault (.missingValue option))
      else do
        let a ← a.addValue option text
        a.readAll none texts
    | none =>
      match text.toList with
      | ['-', '-'] =>
        match texts with
        | [] => .ok a
        | stray :: _ => .error (.fault (.strayArgument stray))
      | '-' :: '-' :: word => do
        let (a, waiting) ← a.readWord word
        a.readAll waiting texts
      | '-' :: c :: cs => do
        let (a, waiting) ← a.readLetters (c :: cs)
        a.readAll waiting texts
      | _ => .error (.fault (.strayArgument text))

end Arguments

/-- What a command line asks for. -/
structure Options where
  model : String
  documentation : List String
  templates : Option String
  settings : Option String
  types : List String
  directory : String
  undocumented : Bool
  camelCase : Bool
  allowUnresolved : Bool
  verbose : Bool
  deriving DecidableEq, Repr

namespace Options

def required (a : Arguments) (option : ValueOption) : Except Stop String :=
  match a.value? option with
  | some value => .ok value
  | none => .error (.fault (.missingOption option))

def parse (arguments : List String) : Except Stop Options := do
  let a ← Arguments.empty.readAll none arguments
  return {
    model := ← required a .model
    documentation := a.valuesOf .docs
    templates := a.value? .templates
    settings := a.value? .config
    types := a.valuesOf .types
    directory := ← required a .out
    undocumented := a.has .noDocs
    camelCase := a.has .camelCase
    allowUnresolved := a.has .allowUnresolved
    verbose := a.has .verbose }

/-- Switches win over the settings of a file. -/
def override (o : Options) (s : Settings) : Settings :=
  { s with
    documented := s.documented && !o.undocumented
    naming := if o.camelCase then .camelCase else s.naming
    unresolved := if o.allowUnresolved then .any else s.unresolved }

variable {m : Type → Type} [Monad m]

def readSettings (fs : FileSystem m) : Option String → ExceptT Failure m Settings
  | none => return {}
  | some path => do
    let text ← Job.within (.readingSettings path) (Job.readFile fs path)
    Job.within (.parsingSettings path) (Job.lift (Settings.readYaml text))

/-- The settings come first, and then the job. -/
def run (o : Options) (fs : FileSystem m) : ExceptT Failure m Fragments := do
  let settings ← readSettings fs o.settings
  let job : Job := ⟨o.model, o.documentation, o.templates, o.types, o.override settings⟩
  job.run fs o.directory

end Options

/-- How a run of the program ends. -/
inductive Outcome where
  | done (options : Options) (fragments : Fragments)
  | help
  | version
  | misused (fault : Fault)
  | failed (failure : Failure)
  deriving DecidableEq, Repr

def Outcome.exitCode : Outcome → Nat
  | .failed _ => 1
  | .misused _ => 2
  | _ => 0

/-- Runs the program on its arguments. -/
def run {m : Type → Type} [Monad m] (fs : FileSystem m) (arguments : List String) : m Outcome := do
  match Options.parse arguments with
  | .error .help => return .help
  | .error .version => return .version
  | .error (.fault fault) => return .misused fault
  | .ok options =>
    match ← (options.run fs).run with
    | .ok fragments => return .done options fragments
    | .error failure => return .failed failure

end Typescribe.CommandLine
