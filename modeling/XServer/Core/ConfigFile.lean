import XServer.Core.ClusterConfig
import XServer.Lib.Search
import XServer.Lib.Table

/-!
# The configuration file

`core/Config.cpp`: the readers of one section each, `LoadClusterConfigFile`, which runs them
over a parsed document, and `SelectNodeConfig`. A reader that fails reports which rule the
document breaks and where; the text of the report is what the error code is found in.
-/

namespace XServer.Core.Config
open XServer.Lib XServer.Lib.Wire XServer.Net

/-! ## Documents -/

/-- A parsed document. The members of an object stand in the order of `std::map`. -/
inductive JsonValue where
  | null
  | boolean (value : Bool)
  | integer (value : Int64)
  | unsigned (value : UInt64)
  | float
  | string (value : Bytes)
  | array (elements : List JsonValue)
  | object (members : List (Bytes × JsonValue))

abbrev Members := List (Bytes × JsonValue)

/-! ## Paths of files -/

/-- One element of a path in `lexically_normal`: the names so far, last one first, and whether
a separator ends them. -/
def normalStep (isAbsolute : Bool) (names : List Bytes × Bool) (element : Bytes) : List Bytes × Bool :=
  if element = [] ∨ element = text "." then (names.1, true)
  else if element = text ".." then
    match names.1 with
    | [] => if isAbsolute then ([], true) else ([element], false)
    | last :: rest => if last = text ".." then (element :: last :: rest, false) else (rest, true)
  else (element :: names.1, false)

def isAbsolute (path : Bytes) : Bool := path.head? == some 47

def lexicallyNormal (path : Bytes) : Bytes :=
  if path = [] then []
  else
    let names := (path.splitOn 47).foldl (normalStep (isAbsolute path)) ([], false)
    let root := if isAbsolute path then text "/" else []
    if names.1 = [] then if isAbsolute path then root else text "."
    else
      root ++ (text "/").intercalate names.1.reverse ++
        if names.2 = true ∧ names.1.head? ≠ some (text "..") then text "/" else []

/-- `operator/` for a relative path. -/
def appendPath (base relative : Bytes) : Bytes :=
  if base.getLast? = some 47 then base ++ relative else base ++ text "/" ++ relative

def resolveConfigRelativePath (configBasePath rawPath : Bytes) : Bytes :=
  if isAbsolute rawPath then lexicallyNormal rawPath
  else if configBasePath = [] then lexicallyNormal rawPath
  else lexicallyNormal (appendPath configBasePath rawPath)

/-! ## Configurations -/

inductive LogLevel where
  | trace
  | debug
  | info
  | warn
  | error
  | fatal
  deriving DecidableEq, Repr

def parseLogLevel (value : Bytes) : Option LogLevel :=
  if value = text "Trace" then some .trace
  else if value = text "Debug" then some .debug
  else if value = text "Info" then some .info
  else if value = text "Warn" then some .warn
  else if value = text "Error" then some .error
  else if value = text "Fatal" then some .fatal
  else none

structure LoggingConfig where
  rootDir : Bytes := text "logs"
  minLevel : LogLevel := .info
  flushIntervalMs : UInt32 := 1000
  rotateDaily : Bool := true
  maxFileSizeMb : UInt32 := 64
  maxRetainedFiles : UInt32 := 10
  deriving DecidableEq, Repr

structure EndpointConfig where
  host : Bytes
  port : UInt16
  deriving DecidableEq, Repr

structure EnvConfig where
  id : Bytes
  environment : Bytes
  deriving DecidableEq, Repr

structure KcpConfig where
  mtu : UInt32 := 1200
  sndwnd : UInt32 := 128
  rcvwnd : UInt32 := 128
  nodelay : Bool := true
  intervalMs : UInt32 := 10
  fastResend : UInt32 := 2
  noCongestionWindow : Bool := false
  minRtoMs : UInt32 := 30
  deadLinkCount : UInt32 := 20
  streamMode : Bool := false
  deriving DecidableEq, Repr

structure ManagedConfig where
  assemblyName : Bytes := text "XServer.Managed.Framework"
  assemblyPath : Bytes := []
  runtimeConfigPath : Bytes := []
  searchAssemblyPaths : List Bytes := []
  deriving DecidableEq, Repr

structure GmConfig where
  innerNetworkListenEndpoint : EndpointConfig
  controlNetworkListenEndpoint : EndpointConfig
  deriving DecidableEq, Repr

structure GateConfig where
  innerNetworkListenEndpoint : EndpointConfig
  authNetworkListenEndpoint : EndpointConfig
  clientNetworkListenEndpoint : EndpointConfig
  deriving DecidableEq, Repr

structure GameConfig where
  innerNetworkListenEndpoint : EndpointConfig
  deriving DecidableEq, Repr

structure ClusterConfig where
  env : EnvConfig
  logging : LoggingConfig
  kcp : KcpConfig
  managed : ManagedConfig
  gm : GmConfig
  gates : Table Bytes GateConfig
  games : Table Bytes GameConfig

inductive NodeConfig where
  | gm (innerNetworkListenEndpoint controlNetworkListenEndpoint : EndpointConfig)
  | gate (innerNetworkListenEndpoint authNetworkListenEndpoint clientNetworkListenEndpoint : EndpointConfig)
  | game (innerNetworkListenEndpoint : EndpointConfig) (managed : ManagedConfig)
  deriving DecidableEq, Repr

/-! ## Reports -/

def joinPath (parent child : Bytes) : Bytes := if parent = [] then child else parent ++ text "." ++ child

/-- A rule that a document breaks, and where. -/
inductive Violation where
  | expectedObject (path : Bytes)
  | unknownField (field path : Bytes)
  | missingRequiredField (path : Bytes)
  | invalidNodeId (path nodeId : Bytes)
  | emptyCollection (path : Bytes)
  | invalidLogLevel (path : Bytes)
  | invalidEndpointPort (path : Bytes)
  | invalidString (path : Bytes)
  | emptyString (path : Bytes)
  | invalidBoolean (path : Bytes)
  | invalidUnsignedInteger (path : Bytes)
  | outOfRange (path : Bytes)
  | notPositive (path : Bytes)
  | invalidArray (path : Bytes)
  deriving DecidableEq, Repr

def Violation.message : Violation → Bytes
  | .expectedObject path => path ++ text " must be an object."
  | .unknownField field path => text "Unknown field '" ++ field ++ text "' at " ++ path ++ text "."
  | .missingRequiredField path => text "Missing required field '" ++ path ++ text "'."
  | .invalidNodeId path nodeId => path ++ text " has invalid nodeId '" ++ nodeId ++ text "'."
  | .emptyCollection path => path ++ text " must contain at least one instance."
  | .invalidLogLevel path => path ++ text " must be one of Trace, Debug, Info, Warn, Error, Fatal."
  | .invalidEndpointPort path => path ++ text " must be in the range 1-65535."
  | .invalidString path => path ++ text " must be a string."
  | .emptyString path => path ++ text " must not be empty."
  | .invalidBoolean path => path ++ text " must be a boolean."
  | .invalidUnsignedInteger path => path ++ text " must be an unsigned integer."
  | .outOfRange path => path ++ text " is out of range."
  | .notPositive path => path ++ text " must be greater than zero."
  | .invalidArray path => path ++ text " must be an array."

abbrev Reading (α : Type) := Except Violation α

/-! ## Single values -/

def expectObject (value : JsonValue) (path : Bytes) : Reading Members :=
  match value with
  | .object members => .ok members
  | _ => .error (.expectedObject path)

def rejectUnknownFields (members : Members) (allowedFields : List String) (path : Bytes) : Reading Unit :=
  match members.find? fun member => !(allowedFields.map text).contains member.1 with
  | some member => .error (.unknownField member.1 path)
  | none => .ok ()

def getRequiredMember (members : Members) (key : String) (path : Bytes) : Reading JsonValue :=
  match members.lookup (text key) with
  | some value => .ok value
  | none => .error (.missingRequiredField (joinPath path (text key)))

def parseString (value : JsonValue) (path : Bytes) : Reading Bytes :=
  match value with
  | .string value => .ok value
  | _ => .error (.invalidString path)

def parseNonEmptyString (value : JsonValue) (path : Bytes) : Reading Bytes := do
  let output ← parseString value path
  if output = [] then .error (.emptyString path) else .ok output

def parseBool (value : JsonValue) (path : Bytes) : Reading Bool :=
  match value with
  | .boolean value => .ok value
  | _ => .error (.invalidBoolean path)

/-- `ParseUnsignedInteger` into 32 bits. -/
def parseUnsignedInteger (value : JsonValue) (path : Bytes) : Reading UInt32 :=
  let bounded (parsedValue : Nat) : Reading UInt32 :=
    if parsedValue > 4294967295 then .error (.outOfRange path) else .ok (UInt32.ofNat parsedValue)
  match value with
  | .unsigned value => bounded value.toNat
  | .integer value => if value < 0 then .error (.invalidUnsignedInteger path) else bounded value.toInt.toNat
  | _ => .error (.invalidUnsignedInteger path)

/-- A member that may be left out: `TryGetMember`, then its parser. -/
def parseOptional {α : Type} (members : Members) (key : String) (path : Bytes) (parse : JsonValue → Bytes → Reading α)
    (unset : α) : Reading α :=
  match members.lookup (text key) with
  | some value => parse value (joinPath path (text key))
  | none => .ok unset

/-! ## Sections -/

def parseMinLevel (value : JsonValue) (levelPath : Bytes) : Reading LogLevel := do
  let levelName ← parseNonEmptyString value levelPath
  match parseLogLevel levelName with
  | some level => .ok level
  | none => .error (.invalidLogLevel levelPath)

/-- `ValidateLoggingConfig`, with the reports of `ValidateLoggingConfigAtPath`. -/
def validateLoggingConfigAtPath (config : LoggingConfig) (path : Bytes) : Reading Unit :=
  if config.rootDir = [] then .error (.emptyString (joinPath path (text "rootDir")))
  else if config.flushIntervalMs = 0 then .error (.notPositive (joinPath path (text "flushIntervalMs")))
  else if config.maxFileSizeMb = 0 then .error (.notPositive (joinPath path (text "maxFileSizeMB")))
  else if config.maxRetainedFiles = 0 then .error (.notPositive (joinPath path (text "maxRetainedFiles")))
  else .ok ()

def parseLoggingBlock (value : JsonValue) (baseConfig : LoggingConfig) (path : Bytes) : Reading LoggingConfig := do
  let members ← expectObject value path
  rejectUnknownFields members
    ["rootDir", "minLevel", "flushIntervalMs", "rotateDaily", "maxFileSizeMB", "maxRetainedFiles"] path
  let rootDir ← parseOptional members "rootDir" path parseString baseConfig.rootDir
  let minLevel ← parseOptional members "minLevel" path parseMinLevel baseConfig.minLevel
  let flushIntervalMs ← parseOptional members "flushIntervalMs" path parseUnsignedInteger baseConfig.flushIntervalMs
  let rotateDaily ← parseOptional members "rotateDaily" path parseBool baseConfig.rotateDaily
  let maxFileSizeMb ← parseOptional members "maxFileSizeMB" path parseUnsignedInteger baseConfig.maxFileSizeMb
  let maxRetainedFiles ← parseOptional members "maxRetainedFiles" path parseUnsignedInteger baseConfig.maxRetainedFiles
  let config : LoggingConfig :=
    { rootDir, minLevel, flushIntervalMs, rotateDaily, maxFileSizeMb, maxRetainedFiles }
  validateLoggingConfigAtPath config path
  return config

def parsePort (value : JsonValue) (path : Bytes) : Reading UInt16 := do
  let port ← parseUnsignedInteger value path
  if port = 0 ∨ port > 65535 then .error (.invalidEndpointPort path) else .ok port.toUInt16

def parseEndpointConfig (value : JsonValue) (path : Bytes) : Reading EndpointConfig := do
  let members ← expectObject value path
  rejectUnknownFields members ["host", "port"] path
  let hostValue ← getRequiredMember members "host" path
  let portValue ← getRequiredMember members "port" path
  let host ← parseNonEmptyString hostValue (joinPath path (text "host"))
  let port ← parsePort portValue (joinPath path (text "port"))
  return { host, port }

def parseListenEndpointContainer (value : JsonValue) (path : Bytes) : Reading EndpointConfig := do
  let members ← expectObject value path
  rejectUnknownFields members ["listenEndpoint"] path
  let endpointValue ← getRequiredMember members "listenEndpoint" path
  parseEndpointConfig endpointValue (joinPath path (text "listenEndpoint"))

def parseEnvConfig (value : JsonValue) (path : Bytes) : Reading EnvConfig := do
  let members ← expectObject value path
  rejectUnknownFields members ["id", "environment"] path
  let idValue ← getRequiredMember members "id" path
  let environmentValue ← getRequiredMember members "environment" path
  let id ← parseNonEmptyString idValue (joinPath path (text "id"))
  let environment ← parseNonEmptyString environmentValue (joinPath path (text "environment"))
  return { id, environment }

def validateKcpConfig (config : KcpConfig) (path : Bytes) : Reading Unit :=
  if config.mtu = 0 then .error (.notPositive (joinPath path (text "mtu")))
  else if config.sndwnd = 0 then .error (.notPositive (joinPath path (text "sndwnd")))
  else if config.rcvwnd = 0 then .error (.notPositive (joinPath path (text "rcvwnd")))
  else if config.intervalMs = 0 then .error (.notPositive (joinPath path (text "intervalMs")))
  else if config.minRtoMs = 0 then .error (.notPositive (joinPath path (text "minRtoMs")))
  else if config.deadLinkCount = 0 then .error (.notPositive (joinPath path (text "deadLinkCount")))
  else .ok ()

def parseKcpConfig (value : JsonValue) (output : KcpConfig) (path : Bytes) : Reading KcpConfig := do
  let members ← expectObject value path
  rejectUnknownFields members
    ["mtu", "sndwnd", "rcvwnd", "nodelay", "intervalMs", "fastResend", "noCongestionWindow", "minRtoMs",
      "deadLinkCount", "streamMode"] path
  let mtu ← parseOptional members "mtu" path parseUnsignedInteger output.mtu
  let sndwnd ← parseOptional members "sndwnd" path parseUnsignedInteger output.sndwnd
  let rcvwnd ← parseOptional members "rcvwnd" path parseUnsignedInteger output.rcvwnd
  let nodelay ← parseOptional members "nodelay" path parseBool output.nodelay
  let intervalMs ← parseOptional members "intervalMs" path parseUnsignedInteger output.intervalMs
  let fastResend ← parseOptional members "fastResend" path parseUnsignedInteger output.fastResend
  let noCongestionWindow ← parseOptional members "noCongestionWindow" path parseBool output.noCongestionWindow
  let minRtoMs ← parseOptional members "minRtoMs" path parseUnsignedInteger output.minRtoMs
  let deadLinkCount ← parseOptional members "deadLinkCount" path parseUnsignedInteger output.deadLinkCount
  let streamMode ← parseOptional members "streamMode" path parseBool output.streamMode
  let config : KcpConfig :=
    { mtu, sndwnd, rcvwnd, nodelay, intervalMs, fastResend, noCongestionWindow, minRtoMs, deadLinkCount, streamMode }
  validateKcpConfig config path
  return config

/-- `parse_asset_path`. -/
def parseAssetPath (configBasePath : Bytes) (value : JsonValue) (path : Bytes) : Reading Bytes := do
  let rawPath ← parseNonEmptyString value path
  return resolveConfigRelativePath configBasePath rawPath

/-- The entries of `searchAssemblyPaths` from an index on. -/
def parseSearchPaths (configBasePath path : Bytes) : Nat → List JsonValue → Reading (List Bytes)
  | _, [] => return []
  | index, value :: rest => do
    let entry ← parseAssetPath configBasePath value (joinPath path (text (toString index)))
    let entries ← parseSearchPaths configBasePath path (index + 1) rest
    return entry :: entries

def parseSearchAssemblyPaths (configBasePath : Bytes) (value : JsonValue) (path : Bytes) : Reading (List Bytes) :=
  match value with
  | .array elements => parseSearchPaths configBasePath path 0 elements
  | _ => .error (.invalidArray path)

def parseManagedConfig (value : JsonValue) (output : ManagedConfig) (configBasePath path : Bytes) :
    Reading ManagedConfig := do
  let members ← expectObject value path
  rejectUnknownFields members ["assemblyName", "assemblyPath", "runtimeConfigPath", "searchAssemblyPaths"] path
  let assemblyName ← parseOptional members "assemblyName" path parseNonEmptyString output.assemblyName
  let assemblyPath ← parseOptional members "assemblyPath" path (parseAssetPath configBasePath) output.assemblyPath
  let runtimeConfigPath ←
    parseOptional members "runtimeConfigPath" path (parseAssetPath configBasePath) output.runtimeConfigPath
  let searchAssemblyPaths ←
    parseOptional members "searchAssemblyPaths" path (parseSearchAssemblyPaths configBasePath) output.searchAssemblyPaths
  return { assemblyName, assemblyPath, runtimeConfigPath, searchAssemblyPaths }

def parseGmConfig (value : JsonValue) (path : Bytes) : Reading GmConfig := do
  let members ← expectObject value path
  rejectUnknownFields members ["innerNetwork", "controlNetwork"] path
  let innerNetwork ← getRequiredMember members "innerNetwork" path
  let controlNetwork ← getRequiredMember members "controlNetwork" path
  let innerNetworkListenEndpoint ← parseListenEndpointContainer innerNetwork (joinPath path (text "innerNetwork"))
  let controlNetworkListenEndpoint ← parseListenEndpointContainer controlNetwork (joinPath path (text "controlNetwork"))
  return { innerNetworkListenEndpoint, controlNetworkListenEndpoint }

def validateNodeIdKind (nodeId : Bytes) (expectedKind : ParsedNodeKind) (path : Bytes) : Reading Unit :=
  if parseNodeId nodeId = some expectedKind then .ok () else .error (.invalidNodeId path nodeId)

def parseGateConfig (value : JsonValue) (nodeId path : Bytes) : Reading GateConfig := do
  let members ← expectObject value path
  rejectUnknownFields members ["innerNetwork", "authNetwork", "clientNetwork"] path
  validateNodeIdKind nodeId .gate path
  let innerNetwork ← getRequiredMember members "innerNetwork" path
  let authNetwork ← getRequiredMember members "authNetwork" path
  let clientNetwork ← getRequiredMember members "clientNetwork" path
  let innerNetworkListenEndpoint ← parseListenEndpointContainer innerNetwork (joinPath path (text "innerNetwork"))
  let authNetworkListenEndpoint ← parseListenEndpointContainer authNetwork (joinPath path (text "authNetwork"))
  let clientNetworkListenEndpoint ← parseListenEndpointContainer clientNetwork (joinPath path (text "clientNetwork"))
  return { innerNetworkListenEndpoint, authNetworkListenEndpoint, clientNetworkListenEndpoint }

def parseGameConfig (value : JsonValue) (nodeId path : Bytes) : Reading GameConfig := do
  let members ← expectObject value path
  rejectUnknownFields members ["innerNetwork"] path
  validateNodeIdKind nodeId .game path
  let innerNetwork ← getRequiredMember members "innerNetwork" path
  let innerNetworkListenEndpoint ← parseListenEndpointContainer innerNetwork (joinPath path (text "innerNetwork"))
  return { innerNetworkListenEndpoint }

/-- The loop of a collection, from the nodes that are read already; `emplace` keeps what is there. -/
def parseNodes {α : Type} (parseNode : JsonValue → Bytes → Bytes → Reading α) (path : Bytes) :
    Table Bytes α → Members → Reading (Table Bytes α)
  | nodes, [] => .ok nodes
  | nodes, (key, value) :: rest => do
    let config ← parseNode value key (joinPath path key)
    parseNodes parseNode path (if nodes.contains key then nodes else nodes.insert key config) rest

/-- `ParseGateCollection` and `ParseGameCollection`. -/
def parseCollection {α : Type} (parseNode : JsonValue → Bytes → Bytes → Reading α) (value : JsonValue) (path : Bytes) :
    Reading (Table Bytes α) := do
  let members ← expectObject value path
  if members = [] then .error (.emptyCollection path) else parseNodes parseNode path ∅ members

def parseGateCollection (value : JsonValue) (path : Bytes) : Reading (Table Bytes GateConfig) :=
  parseCollection parseGateConfig value path

def parseGameCollection (value : JsonValue) (path : Bytes) : Reading (Table Bytes GameConfig) :=
  parseCollection parseGameConfig value path

/-- The whole document. -/
def parseClusterConfig (document : JsonValue) (configBasePath : Bytes) : Reading ClusterConfig := do
  let root := text "root"
  let members ← expectObject document root
  rejectUnknownFields members ["env", "logging", "kcp", "managed", "gm", "gate", "game"] root
  let env ← getRequiredMember members "env" root
  let logging ← getRequiredMember members "logging" root
  let kcp ← getRequiredMember members "kcp" root
  let managed ← getRequiredMember members "managed" root
  let gm ← getRequiredMember members "gm" root
  let gate ← getRequiredMember members "gate" root
  let game ← getRequiredMember members "game" root
  let env ← parseEnvConfig env (text "env")
  let logging ← parseLoggingBlock logging {} (text "logging")
  let kcp ← parseKcpConfig kcp {} (text "kcp")
  let managed ← parseManagedConfig managed {} configBasePath (text "managed")
  let gm ← parseGmConfig gm (text "gm")
  let gates ← parseGateCollection gate (text "gate")
  let games ← parseGameCollection game (text "game")
  return { env, logging, kcp, managed, gm, gates, games }

end XServer.Core.Config
