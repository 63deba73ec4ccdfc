/-
# Starting the node

From the command line, the environment and the configuration file to a node that is ready to
ask for routes, or to the end of the program with what it prints.
-/
import RouteDiscovery.CommandLine.Arguments
import RouteDiscovery.CommandLine.LogLevel
import RouteDiscovery.Log.Line
import RouteDiscovery.Node.Load

namespace RouteDiscovery.CommandLine

open Log Record

def programName : String := "aodvv2"

def versionText : String := programName ++ " 0.1.0"

def helpLines : List String := [
  "AODVv2 route request originator",
  "",
  "Usage: aodvv2 [OPTIONS]",
  "",
  "Options:",
  "      --config <CONFIG>        Path to the YAML configuration file [default: aodvv2.yaml]",
  "      --log-level <LOG_LEVEL>  Log level (trace, debug, info, warn, error) [default: info]",
  "      --target <TARGET>        Node to discover a route to (overrides the configuration file)",
  "      --interval <INTERVAL>    Route request interval, e.g. 10s " ++
    "(overrides the configuration file)",
  "      --once                   Send a single route request and exit",
  "  -h, --help                   Print help",
  "  -V, --version                Print version"]

/-- How the program ends. -/
structure Exit where
  code : Nat
  /-- The lines for the user. -/
  output : List String := []
  errors : List String := []
deriving DecidableEq, Repr

/-- The exit code of arguments that cannot be understood. -/
def usageErrorCode : Nat := 2

/-- What is wrong with the arguments. -/
def Stop.problem : Stop → String
  | help | version => ""
  | unknown argument => "unexpected argument '" ++ argument ++ "' found"
  | missingValue o | emptyValue o => "a value is required for '--" ++ o.name ++ "'"
  | invalidValue o value => "invalid value '" ++ value ++ "' for '--" ++ o.name ++ "'"
  | repeated name => "the argument '--" ++ name ++ "' cannot be used multiple times"
  | unexpectedValue f value => "unexpected value '" ++ value ++ "' for '--" ++ f.name ++ "'"

/-- The end of the program for a reason in the arguments. -/
def Stop.exit : Stop → Exit
  | help => { code := 0, output := helpLines }
  | version => { code := 0, output := [versionText] }
  | other => { code := usageErrorCode, errors := ["error: " ++ other.problem] }

/-- The wording of a level that cannot be understood. -/
def levelErrorText : LevelError → String
  | .unknown =>
    "error parsing level filter: expected one of \"off\", \"error\", \"warn\", \"info\", " ++
      "\"debug\", \"trace\", or a number 0-5"
  | .malformed => "invalid filter directive"

/-- The end of the program for a level that cannot be understood. -/
def levelExit (e : LevelError) : Exit :=
  let causes := match e with
    | .unknown => ["", "Caused by:", "    " ++ levelErrorText e]
    | .malformed => []
  { code := 1, errors := ("Error: " ++ levelErrorText e) :: causes }

/-- The end of the program when there is no node to look for. -/
def noTargetExit : Exit :=
  { code := 1,
    errors := ["Error: no request target configured (use --target or request_target)"] }

/-- A node that is ready to ask for routes. -/
structure Ready where
  config : NodeConfig
  target : Ipv6
  once : Bool
deriving DecidableEq, Repr

/-- What starting gives. -/
structure Startup where
  style : LineStyle
  log : List Event := []
  /-- The end of the program, or a node. -/
  result : Except Exit Ready

/-- The lines of the log, all with the same time. -/
def Startup.logLines (s : Startup) (time : String) : List String :=
  s.log.map (s.style.lineText time)

/-- The configuration with what the arguments say on top. -/
def Arguments.override (a : Arguments) (c : NodeConfig) : NodeConfig :=
  { c with
    requestTarget := a.target.or c.requestTarget
    requestIntervalSecs := match a.interval with
      | some d => d.seconds.toUInt64
      | none => c.requestIntervalSecs }

/-- The node of a configuration, if there is a node to look for. -/
def Arguments.ready (a : Arguments) (c : NodeConfig) : Except Exit Ready :=
  match c.requestTarget with
  | none => .error noTargetExit
  | some target => .ok { config := c, target, once := a.once }

/-- What the arguments lead to: what they say and the level of the log, or the end. -/
def readArguments (arguments : List String) : Except Exit (Arguments × Filter) :=
  match Arguments.ofList arguments with
  | .error stop => .error stop.exit
  | .ok a =>
    match Filter.ofString a.logLevel with
    | .error e => .error (levelExit e)
    | .ok filter => .ok (a, filter)

/-- The file that starting looks at. -/
def configPath? (arguments : List String) : Option String :=
  (readArguments arguments).toOption.map (·.1.config)

variable {v : Type} [Source v]

/-- Starts the node; `file` tells what is at a path. -/
def start (reader : DocumentReader v) (file : String → FileState) (env : Environment)
    (arguments : List String) : Startup :=
  let style := LineStyle.ofTerm programName (env.lookup "TERM")
  match readArguments arguments with
  | .error exit => { style, result := .error exit }
  | .ok (a, filter) =>
    let loaded := NodeConfig.load reader a.config (file a.config) env
    { style, log := filter.select loaded.events, result := a.ready (a.override loaded.answer) }

end RouteDiscovery.CommandLine
