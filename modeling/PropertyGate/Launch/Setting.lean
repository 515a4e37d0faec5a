import PropertyGate.Launch.Integer
import PropertyGate.Launch.SocketAddress
import PropertyGate.Patch.Pipeline
import PropertyGate.Service.Config
import PropertyGate.Text.Pieces

/-!
# Launch/Setting — what can be set when the program starts

A setting is given as an option on the command line or as a variable of the environment. `Settings`
are the values, first the standard ones; `Setting.assign` reads the text of a value and puts it in
its place.
-/

namespace PropertyGate

/-- **The settings of the program.** -/
structure Settings where
  host : String := "0.0.0.0"
  port : UInt16 := 8065
  definitions : Option String := none
  contentFlagging : Option String := none
  dispatch : DispatchMode := .concurrent
  maxFields : Nat := 100
  requesterHeader : String := "x-requester-id"
  corsOrigins : List String := ["*"]
  requestTimeoutSecs : Nat := 30
  tlsCert : Option String := none
  tlsKey : Option String := none
  metricsAddress : Option SocketAddress := none
  logJson : Bool := false
deriving DecidableEq, Inhabited

/-- The name of one setting. -/
inductive Setting where
  | host
  | port
  | definitions
  | contentFlagging
  | dispatch
  | maxFields
  | requesterHeader
  | corsOrigins
  | requestTimeoutSecs
  | tlsCert
  | tlsKey
  | metricsAddress
  | logJson
deriving DecidableEq, Repr

namespace Setting

/-- Every setting, in the order in which the program declares them. -/
def all : List Setting :=
  [.host, .port, .definitions, .contentFlagging, .dispatch, .maxFields, .requesterHeader,
    .corsOrigins, .requestTimeoutSecs, .tlsCert, .tlsKey, .metricsAddress, .logJson]

theorem mem_all (setting : Setting) : setting ∈ all := by cases setting <;> decide

/-- The name of the option, without the dashes. -/
def name : Setting → String
  | .host => "host"
  | .port => "port"
  | .definitions => "definitions"
  | .contentFlagging => "content-flagging"
  | .dispatch => "dispatch"
  | .maxFields => "max-fields-per-patch"
  | .requesterHeader => "requester-header"
  | .corsOrigins => "cors-origins"
  | .requestTimeoutSecs => "request-timeout-secs"
  | .tlsCert => "tls-cert"
  | .tlsKey => "tls-key"
  | .metricsAddress => "metrics-addr"
  | .logJson => "log-json"

/-- The variable of the environment. -/
def environmentName : Setting → String
  | .host => "POSTPROP_HOST"
  | .port => "POSTPROP_PORT"
  | .definitions => "POSTPROP_DEFINITIONS"
  | .contentFlagging => "POSTPROP_CONTENT_FLAGGING"
  | .dispatch => "POSTPROP_DISPATCH"
  | .maxFields => "POSTPROP_MAX_FIELDS"
  | .requesterHeader => "POSTPROP_REQUESTER_HEADER"
  | .corsOrigins => "POSTPROP_CORS_ORIGINS"
  | .requestTimeoutSecs => "POSTPROP_REQUEST_TIMEOUT_SECS"
  | .tlsCert => "POSTPROP_TLS_CERT"
  | .tlsKey => "POSTPROP_TLS_KEY"
  | .metricsAddress => "POSTPROP_METRICS_ADDR"
  | .logJson => "POSTPROP_LOG_JSON"

/-- The setting whose option has the name. -/
def ofName? (name : String) : Option Setting := all.find? (·.name == name)

/-- Whether the option takes a value; one that takes none is switched on by being there. -/
def takesValue (setting : Setting) : Bool := setting != .logJson

/-- Whether the option may come several times, each time adding to its values. -/
def repeats (setting : Setting) : Bool := setting == .corsOrigins

/-- The option, with its dashes. -/
def flag (setting : Setting) : String := "--" ++ setting.name

/-- What stands for the value of the option: a word in capitals, or nothing if it takes none. -/
def placeholder (setting : Setting) : String :=
  if setting.takesValue then
    " <" ++ setting.name.map (fun c => if c = '-' then '_' else c.toUpper) ++ ">"
  else ""

/-- How the option is written. -/
def usage (setting : Setting) : String := setting.flag ++ setting.placeholder

end Setting

/-! ## Values -/

/-- Why a text is no value of a setting. -/
inductive ValueFault where
  /-- A value is needed and the text is empty. -/
  | empty
  /-- The text is none of the values there are. -/
  | unlisted
  | integer (fault : IntegerFault)
  | notAPort (number : Int)
  | notAnAddress
deriving DecidableEq, Repr

/-- The reason that messages give, where they give one. -/
def ValueFault.reason? : ValueFault → Option String
  | .empty => none
  | .unlisted => none
  | .integer fault => some fault.message
  | .notAPort number => some (number.repr ++ " is not in 0..=65535")
  | .notAnAddress => some "invalid socket address syntax"

/-- Reads the name of a file. -/
def readFileName (text : String) : Except ValueFault (Option String) :=
  if text.isEmpty then .error .empty else .ok (some text)

def readPort (text : String) : Except ValueFault UInt16 :=
  match readSigned64 text with
  | .error fault => .error (.integer fault)
  | .ok number =>
    if 0 ≤ number ∧ number ≤ 65535 then .ok number.toNat.toUInt16 else .error (.notAPort number)

def readCount (text : String) : Except ValueFault Nat :=
  (readUnsigned64 text).mapError .integer

/-- Reads a word, which must be one of some. -/
def readWord {α : Type} (words : List (String × α)) (text : String) : Except ValueFault α :=
  match words.find? (·.1 == text) with
  | some (_, value) => .ok value
  | none => .error (if text.isEmpty then .empty else .unlisted)

def dispatchWords : List (String × DispatchMode) :=
  [DispatchMode.concurrent, DispatchMode.sequential].map fun mode => (mode.name, mode)

def switchWords : List (String × Bool) := [("true", true), ("false", false)]

/-- **Reads the text of a value and puts it in its place.** `further` tells that the setting has got
a value already, to which this one is added. -/
def Setting.assign (setting : Setting) (further : Bool) (text : String) (settings : Settings) :
    Except ValueFault Settings :=
  match setting with
  | .host => .ok { settings with host := text }
  | .port => (readPort text).map fun port => { settings with port }
  | .definitions => (readFileName text).map fun definitions => { settings with definitions }
  | .contentFlagging =>
    (readFileName text).map fun contentFlagging => { settings with contentFlagging }
  | .dispatch => (readWord dispatchWords text).map fun dispatch => { settings with dispatch }
  | .maxFields => (readCount text).map fun maxFields => { settings with maxFields }
  | .requesterHeader => .ok { settings with requesterHeader := text }
  | .corsOrigins =>
    let origins := Text.split ',' text
    .ok { settings with
      corsOrigins := if further then settings.corsOrigins ++ origins else origins }
  | .requestTimeoutSecs =>
    (readCount text).map fun requestTimeoutSecs => { settings with requestTimeoutSecs }
  | .tlsCert => (readFileName text).map fun tlsCert => { settings with tlsCert }
  | .tlsKey => (readFileName text).map fun tlsKey => { settings with tlsKey }
  | .metricsAddress =>
    match SocketAddress.ofText? text with
    | some address => .ok { settings with metricsAddress := some address }
    | none => .error .notAnAddress
  | .logJson => (readWord switchWords text).map fun logJson => { settings with logJson }

/-! ## What the settings ask for -/

namespace Settings

/-- The certificate and the key, where both are given. -/
def tls (settings : Settings) : Option TlsFiles :=
  match settings.tlsCert, settings.tlsKey with
  | some certificate, some key => some ⟨certificate, key⟩
  | _, _ => none

def networkConfig (settings : Settings) : NetworkConfig :=
  { host := settings.host
    port := settings.port
    tls := settings.tls
    corsOrigins := settings.corsOrigins
    requestTimeout := settings.requestTimeoutSecs * 1000
    requesterHeader := Text.lower settings.requesterHeader }

def pipelineConfig (settings : Settings) : PipelineConfig :=
  ⟨settings.dispatch, settings.maxFields⟩

end Settings

end PropertyGate
