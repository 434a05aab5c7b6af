import SearchQL.Value.Token

/-!
# Reading values — documents as a machine with a stack

The second half of reading a document: tokens become a value. The machine keeps
the containers that are open, innermost first, and what may come next; every
token is one step. The height of the stack is the depth of nesting, so the limit
on the depth is a test in the one place where a container is opened.

Of several fields of an object with one name the last one stays.
-/

namespace SearchQL

/-- A container that is still open. -/
inductive Frame where
  /-- An array, with its items so far, the last one first. -/
  | items (done : List Value)
  /-- An object, with its fields so far and the name whose value comes next. -/
  | fields (done : Fields Value) (name : String)

/-- What may come next. -/
inductive Expectation where
  | value
  | firstItem
  | firstField
  | field
  | colon
  /-- A value is complete: a separator, a closing bracket or the end of the document. -/
  | after (v : Value)

namespace Value

/-- The greatest number of containers that may be open at once. -/
def depthLimit : Nat := 127

/-- Opens a container inside the open ones. -/
def openFrame? (frame : Frame) (next : Expectation) (stack : List Frame) :
    Option (List Frame × Expectation) :=
  if stack.length < depthLimit then some (frame :: stack, next) else none

/-- The step of a token that begins a value. -/
def begin? (stack : List Frame) : Token → Option (List Frame × Expectation)
  | .word v => some (stack, .after v)
  | .text s => some (stack, .after (.text s))
  | .openArray => openFrame? (.items []) .firstItem stack
  | .openObject => openFrame? (.fields [] "") .firstField stack
  | _ => none

/-- One step of the machine. -/
def step? : List Frame → Expectation → Token → Option (List Frame × Expectation)
  | stack, .value, token => begin? stack token
  | .items _ :: stack, .firstItem, .closeArray => some (stack, .after (.array []))
  | stack, .firstItem, token => begin? stack token
  | .fields _ _ :: stack, .firstField, .closeObject => some (stack, .after (.object []))
  | .fields done _ :: stack, .firstField, .text name => some (.fields done name :: stack, .colon)
  | .fields done _ :: stack, .field, .text name => some (.fields done name :: stack, .colon)
  | stack, .colon, .colon => some (stack, .value)
  | .items done :: stack, .after v, .comma => some (.items (v :: done) :: stack, .value)
  | .items done :: stack, .after v, .closeArray =>
    some (stack, .after (.array (v :: done).reverse))
  | .fields done name :: stack, .after v, .comma =>
    some (.fields (done.insert name v) name :: stack, .field)
  | .fields done name :: stack, .after v, .closeObject =>
    some (stack, .after (.object (done.insert name v)))
  | _, _, _ => none

/-- Runs the machine to the end of the tokens. The document is one value with nothing left open. -/
def run? (stack : List Frame) (next : Expectation) : List Token → Option Value
  | [] =>
    match stack, next with
    | [], .after v => some v
    | _, _ => none
  | token :: rest =>
    match step? stack next token with
    | some (stack, next) => run? stack next rest
    | none => none

/-- The value that a document text denotes. -/
def read? (document : String) : Option Value :=
  (Token.ofDocument? document).bind (run? [] .value)

end Value

end SearchQL
