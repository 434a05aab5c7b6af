import SearchQL.Error
import SearchQL.Text.Blank
import SearchQL.Value.Basic

/-!
# Configuration — where the daemon is and how it is addressed

A configuration has eleven settings, each with a default that suits a daemon on
the same machine. It can be read from a value: an object whose fields are the
settings, fields of other names being ignored, or an array of the settings in
their order. A setting that is there must have its type; only the three that may
be absent accept null, and a number must be an integer of the setting's range.

Reading and validating are separate. `validate` refuses configurations that can
never connect, and the first of its three checks that fails is the one reported.
-/

namespace SearchQL

/-- How to reach the daemon. -/
structure Config where
  host : String := "127.0.0.1"
  port : UInt16 := 9306
  database : Option String := none
  username : String := ""
  password : Option String := none
  charset : String := "utf8"
  collation : Option String := none
  tablePrefix : String := ""
  maxConnections : UInt32 := 5
  connectTimeoutMs : UInt64 := 5000
  connectRetries : UInt64 := 5
deriving DecidableEq

namespace Config

/-! ## Reading -/

/-- The names of the settings, in their order. -/
def settingNames : List String :=
  ["host", "port", "database", "username", "password", "charset", "collation", "prefix",
   "max_connections", "connect_timeout_ms", "connect_retries"]

/-- A setting of the given name, or its default if there is none. -/
def setting? {α : Type} (name : String) (read? : Value → Option α) (default : α)
    (settings : List (String × Value)) : Option α :=
  match Fields.get? name settings with
  | some v => read? v
  | none => some default

/-- A text, or null for none. -/
def optionalText? : Value → Option (Option String)
  | .null => some none
  | .text s => some (some s)
  | _ => none

/-- A natural number below a bound. -/
def natBelow? (bound : Nat) : Value → Option Nat
  | .number (.integer n) => if 0 ≤ n ∧ n.toNat < bound then some n.toNat else none
  | _ => none

/-- The configuration that named settings make. -/
def ofSettings? (settings : List (String × Value)) : Option Config := do
  let defaults : Config := {}
  let host ← setting? "host" Value.text? defaults.host settings
  let port ← setting? "port" (natBelow? UInt16.size) defaults.port.toNat settings
  let database ← setting? "database" optionalText? none settings
  let username ← setting? "username" Value.text? defaults.username settings
  let password ← setting? "password" optionalText? none settings
  let charset ← setting? "charset" Value.text? defaults.charset settings
  let collation ← setting? "collation" optionalText? none settings
  let tablePrefix ← setting? "prefix" Value.text? defaults.tablePrefix settings
  let maxConnections ←
    setting? "max_connections" (natBelow? UInt32.size) defaults.maxConnections.toNat settings
  let connectTimeoutMs ←
    setting? "connect_timeout_ms" (natBelow? UInt64.size) defaults.connectTimeoutMs.toNat settings
  let connectRetries ←
    setting? "connect_retries" (natBelow? UInt64.size) defaults.connectRetries.toNat settings
  return {
    host
    port := .ofNat port
    database
    username
    password
    charset
    collation
    tablePrefix
    maxConnections := .ofNat maxConnections
    connectTimeoutMs := .ofNat connectTimeoutMs
    connectRetries := .ofNat connectRetries }

/-- The configuration that a value denotes. -/
def ofValue? : Value → Option Config
  | .object fields => ofSettings? fields
  | .array items =>
    if items.length ≤ settingNames.length then ofSettings? (settingNames.zip items) else none
  | _ => none

/-! ## Using -/

/-- The address of the daemon, without the password. -/
def dsn (c : Config) : String :=
  "mysql://" ++ (if c.username.isEmpty then "" else c.username ++ "@") ++ c.host ++ ":" ++
    toString c.port ++
    (match c.database with
      | some name => "/" ++ name
      | none => "")

/-- Refuses a configuration that can never connect. -/
def validate (c : Config) : Except Error Unit :=
  if Text.isBlankText c.host then .error (.request .blankHost)
  else if c.port = 0 then .error (.request .zeroPort)
  else if c.maxConnections = 0 then .error (.request .noConnections)
  else .ok ()

end Config

end SearchQL
