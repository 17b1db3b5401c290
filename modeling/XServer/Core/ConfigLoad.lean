import XServer.Core.ConfigFile

/-!
# Loading the configuration file

`core/Config.cpp`: the error codes, which `ClassifyConfigError` finds in the text of a report,
`LoadClusterConfigFile` and `SelectNodeConfig`.
-/

namespace XServer.Core.Config
open XServer.Lib XServer.Lib.Wire XServer.Net

inductive ConfigErrorCode where
  | none
  | invalidArgument
  | jsonLoadFailed
  | expectedObject
  | unknownField
  | missingRequiredField
  | invalidString
  | emptyString
  | invalidBoolean
  | invalidUnsignedInteger
  | valueOutOfRange
  | invalidLogLevel
  | invalidEndpointPort
  | invalidNodeId
  | missingInstance
  | emptyCollection
  | loggingConfigInvalid
  | unknown
  deriving DecidableEq, Repr

def configErrorMessage : ConfigErrorCode → Bytes
  | .none => text "No error."
  | .invalidArgument => text "Invalid config API argument."
  | .jsonLoadFailed => text "Failed to load JSON configuration file."
  | .expectedObject => text "Configuration value must be an object."
  | .unknownField => text "Configuration contains an unknown field."
  | .missingRequiredField => text "Configuration is missing a required field."
  | .invalidString => text "Configuration value must be a string."
  | .emptyString => text "Configuration string value must not be empty."
  | .invalidBoolean => text "Configuration value must be a boolean."
  | .invalidUnsignedInteger => text "Configuration value must be an unsigned integer."
  | .valueOutOfRange => text "Configuration value is out of range."
  | .invalidLogLevel => text "Configuration log level is invalid."
  | .invalidEndpointPort => text "Configuration endpoint port is invalid."
  | .invalidNodeId => text "Node ID is invalid."
  | .missingInstance => text "Selected node instance is missing."
  | .emptyCollection => text "Configuration collection must not be empty."
  | .loggingConfigInvalid => text "Logging configuration is invalid."
  | .unknown => text "Unknown configuration error."

/-! ## The code of a report -/

/-- `message.find(phrase) != npos`. -/
def contains (message : Bytes) (phrase : String) : Bool := (search (text phrase) message).isSome

def startsWith (message : Bytes) (phrase : String) : Bool := (text phrase).isPrefixOf message

def messageMentionsLoggingPath (message : Bytes) : Bool := contains message "logging."

def classifyConfigError (message : Bytes) : ConfigErrorCode :=
  if contains message "must be an object." then .expectedObject
  else if startsWith message "Unknown field '" then .unknownField
  else if startsWith message "Missing required field '" then .missingRequiredField
  else if contains message " has invalid nodeId '" ∨
      message = text "nodeId must be one of GM, Gate<index>, or Game<index>." then .invalidNodeId
  else if startsWith message "Missing gate instance for nodeId '" ∨
      startsWith message "Missing game instance for nodeId '" then .missingInstance
  else if contains message "must contain at least one instance." then .emptyCollection
  else if contains message "must be one of Trace, Debug, Info, Warn, Error, Fatal." then .invalidLogLevel
  else if contains message "must be in the range 1-65535." then .invalidEndpointPort
  else if messageMentionsLoggingPath message ∧
      (contains message "must not be empty." ∨ contains message "must be greater than zero.") then
    .loggingConfigInvalid
  else if contains message "must be a string." then .invalidString
  else if contains message "must not be empty." then .emptyString
  else if contains message "must be a boolean." then .invalidBoolean
  else if contains message "must be an unsigned integer." then .invalidUnsignedInteger
  else if contains message "is out of range." ∨ contains message "must be greater than zero." then .valueOutOfRange
  else .unknown

/-! ## Calls -/

/-- What a call leaves behind: its code, what the caller's output is afterwards, and the text. -/
structure Outcome (α : Type) where
  code : ConfigErrorCode
  output : α
  errorMessage : Bytes

/-- `SetConfigError`: a failure with its text, or with the text of its code. -/
def setConfigError {α : Type} (code : ConfigErrorCode) (message : Bytes) (output : α) : Outcome α :=
  { code, output, errorMessage := if message = [] then configErrorMessage code else message }

/-- `LoadClusterConfigFile` of the file that `TryLoadJsonFile` reads as `load`, in the directory
`configBasePath`; no output is a null pointer. -/
def loadClusterConfigFile (load : Except Bytes JsonValue) (configBasePath : Bytes) (output : Option ClusterConfig) :
    Outcome (Option ClusterConfig) :=
  if output.isNone then setConfigError .invalidArgument (text "Cluster config output must not be null.") output
  else
    match load with
    | .error detailError => setConfigError .jsonLoadFailed detailError output
    | .ok document =>
      match parseClusterConfig document configBasePath with
      | .error violation => setConfigError (classifyConfigError violation.message) violation.message output
      | .ok config => { code := .none, output := some config, errorMessage := [] }

/-- `SelectNodeConfig`; no output is a null pointer, and any other is reset before the node is looked up. -/
def selectNodeConfig (config : ClusterConfig) (nodeId : Bytes) (output : Option (Option NodeConfig)) :
    Outcome (Option (Option NodeConfig)) :=
  if output.isNone then setConfigError .invalidArgument (text "Node config output must not be null.") output
  else
    match parseNodeId nodeId with
    | none => setConfigError .invalidNodeId (text "nodeId must be one of GM, Gate<index>, or Game<index>.") (some none)
    | some .gm =>
      { code := .none
        output := some (some (.gm config.gm.innerNetworkListenEndpoint config.gm.controlNetworkListenEndpoint))
        errorMessage := [] }
    | some .gate =>
      match config.gates[nodeId]? with
      | none =>
        setConfigError .missingInstance (text "Missing gate instance for nodeId '" ++ nodeId ++ text "'.") (some none)
      | some gate =>
        { code := .none
          output := some (some
            (.gate gate.innerNetworkListenEndpoint gate.authNetworkListenEndpoint gate.clientNetworkListenEndpoint))
          errorMessage := [] }
    | some .game =>
      match config.games[nodeId]? with
      | none =>
        setConfigError .missingInstance (text "Missing game instance for nodeId '" ++ nodeId ++ text "'.") (some none)
      | some game =>
        { code := .none
          output := some (some (.game game.innerNetworkListenEndpoint config.managed))
          errorMessage := [] }

end XServer.Core.Config
