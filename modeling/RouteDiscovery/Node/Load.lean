/-
# Loading the configuration

The configuration comes in layers: the defaults, a file, and variables of the environment.

* The file counts as a whole or not at all: only if all of it can be read and it has the
  section, its members replace the defaults, one by one.
* A variable replaces its member if it is set to a text of the member's form; any other text has
  no effect.

The reader of documents is a parameter.  Loading always succeeds and tells in the log what it did.
-/
import RouteDiscovery.Log.Outcome
import RouteDiscovery.Node.Config

namespace RouteDiscovery

open Log Record

/-- What is found at the path of the configuration file. -/
inductive FileState where
  /-- Nothing that can be opened. -/
  | missing
  /-- A file whose bytes are no text. -/
  | notText
  | text (content : String)
deriving DecidableEq, Repr

/-- What is found in a file with the given bytes: a text if they are well-formed UTF-8. -/
def FileState.ofBytes (bytes : ByteArray) : FileState :=
  match String.fromUTF8? bytes with
  | some content => text content
  | none => notText

/-- Variables with their values.  A variable whose value is no text counts as not set. -/
abbrev Environment := List (String × String)

/-- A reader of documents: the formats of the texts that it knows and the words for its errors. -/
structure DocumentReader (v : Type) where
  /-- The value that a text writes, or the reason why it writes none. -/
  parse : String → Except String v
  /-- The reason for a value of the wrong form. -/
  wrongForm : String

/-- What a configuration file contributes. -/
inductive FileLayer where
  /-- It could not be opened, or is no text. -/
  | notFound
  /-- It could not be read, for a reason. -/
  | unreadable (reason : String)
  | noSection
  | found (config : NodeConfig)
deriving DecidableEq, Repr

namespace FileLayer

variable {v : Type} [Source v]

/-- What a file contributes. -/
def ofFile (reader : DocumentReader v) : FileState → FileLayer
  | .missing | .notText => notFound
  | .text content =>
    match reader.parse content with
    | .error reason => unreadable reason
    | .ok value =>
      match NodeConfig.readDocument? value with
      | none => unreadable reader.wrongForm
      | some none => noSection
      | some (some config) => found config

/-- The configuration so far. -/
def config : FileLayer → NodeConfig
  | found config => config
  | _ => {}

/-- What the log says of the file. -/
def event (path : String) : FileLayer → Event
  | found _ => { level := .info, message := "Loaded configuration from " ++ Text.quoted path }
  | noSection =>
    { level := .warn,
      message := "No aodvv2 section in " ++ Text.quoted path ++ ", using defaults" }
  | unreadable reason =>
    { level := .warn,
      message := "Failed to parse config file " ++ Text.quoted path ++ ": " ++ reason ++
        ", using defaults" }
  | notFound =>
    { level := .warn,
      message := "Config file " ++ Text.quoted path ++ " not found, using defaults" }

end FileLayer

/-- A member that a variable of the environment can replace. -/
structure Override where
  name : String
  /-- What the log calls the member. -/
  label : String
  {α : Type}
  /-- The value that a text writes. -/
  parse : String → Option α
  shown : α → String
  set : NodeConfig → α → NodeConfig

namespace Override

/-- The number below a bound that a text writes. -/
def number? (bound : Nat) (text : String) : Option Nat := Text.bounded? 10 bound text.toList

def nodeAddr : Override where
  name := "AODV_NODE_ADDR"
  label := "Node address"
  parse := Ipv6.ofString?
  shown := Ipv6.text
  set c a := { c with nodeAddr := a }

def port : Override where
  name := "AODV_PORT"
  label := "Port"
  parse := number? 65536
  shown := toString
  set c n := { c with port := n.toUInt16 }

def requestTarget : Override where
  name := "AODV_TARGET"
  label := "Request target"
  parse := Ipv6.ofString?
  shown := Ipv6.text
  set c a := { c with requestTarget := some a }

def hopLimit : Override where
  name := "AODV_HOP_LIMIT"
  label := "Hop limit"
  parse := number? 256
  shown := toString
  set c n := { c with hopLimit := n.toUInt8 }

/-- The replaceable members in the order in which they are looked at. -/
def all : List Override := [nodeAddr, port, requestTarget, hopLimit]

/-- The event of a replaced member. -/
def event (o : Override) (value : o.α) : Event :=
  { level := .info, message := o.label ++ " overridden by environment: " ++ o.shown value }

/-- Replaces the member if its variable says so. -/
def apply (o : Override) (env : Environment) (c : NodeConfig) : Outcome NodeConfig Unit :=
  match (env.lookup o.name).bind o.parse with
  | none => { answer := (), state := c }
  | some value => { answer := (), state := o.set c value, events := [o.event value] }

/-- Goes through members one after another. -/
def applyAll : List Override → Environment → NodeConfig → Outcome NodeConfig Unit
  | [], _, c => { answer := (), state := c }
  | o :: rest, env, c =>
    let first := o.apply env c
    let later := applyAll rest env first.state
    { later with events := first.events ++ later.events }

end Override

namespace NodeConfig

/-- How the log shows the node to look for. -/
def targetText : Option Ipv6 → String
  | none => "None"
  | some a => "Some(" ++ a.text ++ ")"

/-- The event of the configuration that is in force. -/
def finalEvent (c : NodeConfig) : Event :=
  { level := .info,
    message := "Final node configuration: node_addr=" ++ c.nodeAddr.text ++ ", port=" ++
      toString c.port ++ ", target=" ++ targetText c.requestTarget ++ ", hop_limit=" ++
      toString c.hopLimit }

variable {v : Type} [Source v]

/-- Loads the configuration; the answer is the configuration in force. -/
def load (reader : DocumentReader v) (path : String) (file : FileState) (env : Environment) :
    Outcome Unit NodeConfig :=
  let layer := FileLayer.ofFile reader file
  let final := Override.applyAll Override.all env layer.config
  { answer := final.state, state := (),
    events := layer.event path :: final.events ++ [final.state.finalEvent] }

end NodeConfig

end RouteDiscovery
