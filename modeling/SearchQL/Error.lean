import SearchQL.Feature

/-!
# Errors — causes first, wording second

An operation fails for one of six causes. Three of them are settled before
anything is sent: the feature is unknown to the daemon, a value cannot be
decoded, or the request is incomplete. A statement and its parameters can differ
in number. The daemon can reject a statement, and the connection can fail.

A cause is data: what could not be decoded and why, which row was out of line.
`Error.message` is the one place where it becomes a sentence.
-/

namespace SearchQL

/-- The two statements that write whole rows. -/
inductive WriteVerb where
  | insert
  | replace
deriving DecidableEq, Repr

/-- The keyword of a write. -/
def WriteVerb.keyword : WriteVerb → String
  | insert => "INSERT"
  | replace => "REPLACE"

/-- Why a value cannot be decoded. -/
inductive DecodeFault where
  | notInteger
  | notWord
  | badToken (token : String)
  | notMultiValue
  | notFloat
  | notCount
  | missingKey (key : String)
  | notDocument
  /-- A reason that the caller words. -/
  | stated (reason : String)
deriving DecidableEq, Repr

/-- The reason, as it follows the value. -/
def DecodeFault.message : DecodeFault → String
  | notInteger => "not an integer"
  | notWord => "not a 64-bit integer"
  | badToken token => "'" ++ token ++ "' is not an integer"
  | notMultiValue => "not a multi-value attribute"
  | notFloat => "not a float"
  | notCount => "COUNT(*) is not an unsigned integer"
  | missingKey key => "row has no '" ++ key ++ "' key"
  | notDocument => "invalid JSON"
  | stated reason => reason

/-- What a request or a configuration lacks. -/
inductive RequestFault where
  | noIndex
  | noRows (verb : WriteVerb)
  | unalignedRow (verb : WriteVerb) (row : Nat)
  | noAssignments
  | unknownCast (name : String)
  | unknownColumnType (name : String)
  | blankHost
  | zeroPort
  | noConnections
  /-- A fault that the caller words. -/
  | stated (text : String)
deriving DecidableEq, Repr

/-- The fault as text. -/
def RequestFault.message : RequestFault → String
  | noIndex => "query has no target index; call from()"
  | noRows verb => verb.keyword ++ " without values"
  | unalignedRow verb row =>
    verb.keyword ++ " row " ++ toString row ++ " does not have the same columns as row 0"
  | noAssignments => "UPDATE without values"
  | unknownCast name => "unknown cast '" ++ name ++ "'"
  | unknownColumnType name => "unknown column type '" ++ name ++ "'"
  | blankHost => "host must not be empty"
  | zeroPort => "port must be non-zero"
  | noConnections => "max_connections must be at least 1"
  | stated text => text

/-- Why an operation failed. -/
inductive Error where
  | unsupported (feature : Feature)
  | execution (reply : String)
  | connection (cause : String)
  | decode (value : String) (fault : DecodeFault)
  | request (fault : RequestFault)
  | bindingMismatch (placeholders bindings : Nat)
deriving DecidableEq, Repr

namespace Error

/-- An error as a sentence. -/
def message : Error → String
  | unsupported feature => "This database driver does not support " ++ feature.description ++ "."
  | execution reply => "Statement rejected by search daemon: " ++ reply
  | connection cause => "Connection error: " ++ cause
  | decode value fault => "Cannot decode '" ++ value ++ "': " ++ fault.message
  | request fault => "Invalid configuration: " ++ fault.message
  | bindingMismatch placeholders bindings =>
    "Statement has " ++ toString placeholders ++ " placeholders but " ++ toString bindings ++
      " bindings"

/-- Whether an error says that the daemon lacks a feature. -/
def isUnsupported : Error → Bool
  | unsupported _ => true
  | _ => false

end Error

end SearchQL
