/-!
# Log settings

Logging is set up from environment variables, each with a default. Two variables may name the log
filter, and the one of this program goes first.
-/

namespace TrustRoot.Logging

structure Settings where
  serviceName : String := "trc"
  filter : String := "info"
  json : Bool := false
  targets : Bool := false
  deriving DecidableEq, Repr

def isOn (value : String) : Bool := value.toLower == "true" || value == "1"

def variableNames : List String :=
  ["TRC_SERVICE_NAME", "TRC_LOG_LEVEL", "RUST_LOG", "TRC_JSON_LOGS", "TRC_LOG_TARGETS"]

/-- The settings of an environment, which gives the values of variables. -/
def Settings.ofEnvironment (valueOf : String → Option String) : Settings :=
  let defaults : Settings := {}
  { serviceName := (valueOf "TRC_SERVICE_NAME").getD defaults.serviceName
    filter := ((valueOf "TRC_LOG_LEVEL").or (valueOf "RUST_LOG")).getD defaults.filter
    json := ((valueOf "TRC_JSON_LOGS").map isOn).getD defaults.json
    targets := ((valueOf "TRC_LOG_TARGETS").map isOn).getD defaults.targets }

def Settings.withFilter (settings : Settings) (filter : String) : Settings :=
  { settings with filter }

end TrustRoot.Logging
