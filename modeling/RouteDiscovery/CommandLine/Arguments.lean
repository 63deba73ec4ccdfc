/-
# Arguments of the command line

Options with a value (`--target ADDRESS` or `--target=ADDRESS`) and flags.  What starts with a
dash is never the value of the option before it, except for a lone dash.

A value is looked at when the next known option or flag comes, or at the end: it must be there,
the option must not have been given before, and the value must have the right form, in this
order.  An unknown argument, a value attached to a flag and an argument that belongs to nothing
are reported at once.
-/
import RouteDiscovery.Address.Ipv6
import RouteDiscovery.CommandLine.Duration

namespace RouteDiscovery.CommandLine

/-- The options that take a value. -/
inductive Opt where
  | config
  | logLevel
  | target
  | interval
deriving DecidableEq, Repr

/-- The flags. -/
inductive Flag where
  | once
  | help
  | version
deriving DecidableEq, Repr

def Opt.name : Opt → String
  | config => "config"
  | logLevel => "log-level"
  | target => "target"
  | interval => "interval"

def Flag.name : Flag → String
  | once => "once"
  | help => "help"
  | version => "version"

def Opt.ofName? (name : String) : Option Opt :=
  [config, logLevel, target, interval].find? fun o => o.name == name

def Flag.ofName? (name : String) : Option Flag :=
  [once, help, version].find? fun f => f.name == name

def Flag.ofLetter? : Char → Option Flag
  | 'h' => some help
  | 'V' => some version
  | _ => none

/-- Why the arguments do not lead to a run. -/
inductive Stop where
  | help
  | version
  | unknown (argument : String)
  | missingValue (opt : Opt)
  | emptyValue (opt : Opt)
  | invalidValue (opt : Opt) (value : String)
  | repeated (name : String)
  | unexpectedValue (flag : Flag) (value : String)
deriving DecidableEq, Repr

/-- What the arguments say. -/
structure Arguments where
  config : String := "aodvv2.yaml"
  logLevel : String := "info"
  /-- The node to look for. -/
  target : Option Ipv6 := none
  interval : Option Duration := none
  /-- Whether one request is enough. -/
  once : Bool := false
deriving DecidableEq, Repr

namespace Arguments

/-- The arguments with an option set to a written value. -/
def set? (a : Arguments) (value : String) : Opt → Except Stop Arguments
  | .config =>
    if value.isEmpty then .error (.emptyValue .config) else .ok { a with config := value }
  | .logLevel => .ok { a with logLevel := value }
  | .target =>
    match Ipv6.ofString? value with
    | some target => .ok { a with target := some target }
    | none => .error (.invalidValue .target value)
  | .interval =>
    match Duration.ofString? value with
    | some interval => .ok { a with interval := some interval }
    | none => .error (.invalidValue .interval value)

end Arguments

/-- The state of reading arguments. -/
structure Reading where
  arguments : Arguments := {}
  given : List Opt := []
  /-- The option that is not looked at yet, with its value. -/
  pending : Option (Opt × Option String) := none

namespace Reading

def set (r : Reading) (o : Opt) : Option String → Except Stop Reading
  | none => .error (.missingValue o)
  | some value => do
    if r.given.contains o then throw (.repeated o.name)
    return { r with arguments := ← r.arguments.set? value o, given := o :: r.given }

/-- Looks at the option that is not looked at yet. -/
def settle (r : Reading) : Except Stop Reading :=
  match r.pending with
  | none => .ok r
  | some (o, value) => { r with pending := none }.set o value

def takeFlag (r : Reading) (f : Flag) : Except Stop Reading := do
  let r ← r.settle
  match f with
  | .help => throw .help
  | .version => throw .version
  | .once =>
    if r.arguments.once then throw (.repeated f.name)
    return { r with arguments := { r.arguments with once := true } }

/-- Takes an argument that starts with two dashes: its name, and the value after its equals
sign. -/
def takeLong (r : Reading) (argument name : String) (value : Option String) :
    Except Stop Reading := do
  match Opt.ofName? name, Flag.ofName? name, value with
  | some o, _, some value => (← r.settle).set o (some value)
  | some o, _, none => return { ← r.settle with pending := some (o, none) }
  | none, some f, some value => throw (.unexpectedValue f value)
  | none, some f, none => r.takeFlag f
  | none, none, _ => throw (.unknown argument)

/-- Takes letters after a dash. -/
def takeLetters (r : Reading) (argument : String) : List Char → Except Stop Reading
  | [] => .ok r
  | c :: cs =>
    match Flag.ofLetter? c with
    | none => .error (.unknown argument)
    | some f => do (← r.takeFlag f).takeLetters argument cs

/-- Takes an argument that is no option: the value of the option before it. -/
def takeValue (r : Reading) (argument : String) : Except Stop Reading :=
  match r.pending with
  | some (o, none) => .ok { r with pending := some (o, some argument) }
  | _ => .error (.unknown argument)

/-- Splits an argument at its first equals sign. -/
def splitValue (s : List Char) : String × Option String :=
  (String.ofList (s.takeWhile (· ≠ '=')),
    match s.dropWhile (· ≠ '=') with
    | [] => none
    | _ :: value => some (String.ofList value))

def take (r : Reading) (argument : String) : Except Stop Reading :=
  match argument.toList with
  | '-' :: '-' :: s => r.takeLong argument (splitValue s).1 (splitValue s).2
  | '-' :: c :: s => r.takeLetters argument (c :: s)
  | _ => r.takeValue argument

/-- Takes arguments; nothing may follow a lone double dash. -/
def takeAll (r : Reading) : List String → Except Stop Reading
  | [] => r.settle
  | ["--"] => r.settle
  | "--" :: argument :: _ => .error (.unknown argument)
  | argument :: rest => do (← r.take argument).takeAll rest

end Reading

/-- What a list of arguments says. -/
def Arguments.ofList (arguments : List String) : Except Stop Arguments := do
  return (← ({} : Reading).takeAll arguments).arguments

end RouteDiscovery.CommandLine
