import DropletClient.EventKind
import DropletClient.Text.Decimal

namespace DropletClient

/-!
# Settings

What a client has to know before it can talk to the provider, and what can be
wrong with it. Every fault names a setting, and its wording says where that
setting is made.
-/

/-- The names of the settings. -/
inductive Setting where
  | clientId
  | apiKey
  | endpoint
  | httpTimeout
  | nodeRunningTimeout
  | nodeSuspendedTimeout
  | nodeTerminatedTimeout
  | imageAvailableTimeout
  | pollInitialPeriod
  | pollMaxPeriod
  deriving Repr, DecidableEq

namespace Setting

/-- All settings, in the order in which they are checked. -/
def all : List Setting :=
  [.clientId, .apiKey, .endpoint, .httpTimeout, .nodeRunningTimeout,
    .nodeSuspendedTimeout, .nodeTerminatedTimeout, .imageAvailableTimeout,
    .pollInitialPeriod, .pollMaxPeriod]

/-- The key of a setting in a settings file. -/
def key : Setting → String
  | .clientId => "client_id"
  | .apiKey => "api_key"
  | .endpoint => "endpoint"
  | .httpTimeout => "http_timeout_secs"
  | .nodeRunningTimeout => "node_running_timeout_secs"
  | .nodeSuspendedTimeout => "node_suspended_timeout_secs"
  | .nodeTerminatedTimeout => "node_terminated_timeout_secs"
  | .imageAvailableTimeout => "image_available_timeout_secs"
  | .pollInitialPeriod => "poll_initial_period_ms"
  | .pollMaxPeriod => "poll_max_period_ms"

/-- What the names of the environment variables begin with. -/
def variableStart : String := "DIGITALOCEAN_"

/-- The environment variable of a setting. -/
def environmentName (setting : Setting) : String :=
  variableStart ++ String.ofList (setting.key.toList.map Char.toUpper)

/-- The name of a setting in messages. -/
def description : Setting → String
  | .clientId => "DigitalOcean client ID"
  | .apiKey => "DigitalOcean API key"
  | .endpoint => "API endpoint"
  | .httpTimeout => "HTTP timeout"
  | .nodeRunningTimeout => "node running timeout"
  | .nodeSuspendedTimeout => "node suspended timeout"
  | .nodeTerminatedTimeout => "node terminated timeout"
  | .imageAvailableTimeout => "image available timeout"
  | .pollInitialPeriod => "initial poll period"
  | .pollMaxPeriod => "maximum poll period"

/-- Where a setting is made. -/
def advice (setting : Setting) : String :=
  "set " ++ setting.environmentName ++ " or add " ++ setting.key ++
    " to [digitalocean] in dropship.toml"

end Setting

/--
What a client has to know; waits and the request timeout in seconds, periods in
milliseconds.
-/
structure Settings where
  clientId : String
  apiKey : String
  endpoint : String
  httpTimeout : Nat
  nodeRunningTimeout : Nat
  nodeSuspendedTimeout : Nat
  nodeTerminatedTimeout : Nat
  imageAvailableTimeout : Nat
  pollInitialPeriod : Nat
  pollMaxPeriod : Nat
  deriving Repr, DecidableEq

namespace Settings

/-- The address of the provider. -/
def defaultEndpoint : String := "https://api.digitalocean.com/v1"

/--
The settings with the given credentials and everything else at its default.
-/
def withCredentials (clientId apiKey : String) : Settings where
  clientId := clientId
  apiKey := apiKey
  endpoint := defaultEndpoint
  httpTimeout := 30
  nodeRunningTimeout := 1200
  nodeSuspendedTimeout := 120
  nodeTerminatedTimeout := 30
  imageAvailableTimeout := 1200
  pollInitialPeriod := 1000
  pollMaxPeriod := 10000

/-- The longest accepted wait, one week in seconds. -/
def longestWait : Nat := 604800

/--
What can be wrong with settings, or with the sources they are loaded from.
-/
inductive Fault where
  | blank (setting : Setting)
  | notPositive (setting : Setting)
  | waitTooLong (setting : Setting) (seconds : Nat)
  | periodsInverted (initial greatest : Nat)
  | unreadable (details : String)
  deriving Repr, DecidableEq

/-- The setting that a fault tells to change. -/
def Fault.setting? : Fault → Option Setting
  | .blank setting => some setting
  | .notPositive setting => some setting
  | .waitTooLong setting _ => some setting
  | .periodsInverted _ _ => some .pollMaxPeriod
  | .unreadable _ => none

/-- The wording of a fault. -/
def Fault.message : Fault → String
  | .blank setting =>
      "missing configuration field: missing " ++ setting.description ++ ": " ++
        setting.advice
  | .notPositive setting =>
      "invalid configuration value: " ++ setting.description ++
        " must be greater than zero: " ++ setting.advice
  | .waitTooLong setting seconds =>
      "invalid configuration value: " ++ setting.description ++ " of " ++
        Text.Decimal.ofNat seconds ++ " s exceeds the maximum of " ++
        Text.Decimal.ofNat longestWait ++ " s: " ++ setting.advice
  | .periodsInverted initial greatest =>
      "invalid configuration value: " ++
        Setting.pollInitialPeriod.description ++ " (" ++
        Text.Decimal.ofNat initial ++ " ms) exceeds the " ++
        Setting.pollMaxPeriod.description ++
        " (" ++ Text.Decimal.ofNat greatest ++ " ms): " ++
        Setting.pollMaxPeriod.advice
  | .unreadable details => "configuration parsing failed: " ++ details

end Settings

end DropletClient
