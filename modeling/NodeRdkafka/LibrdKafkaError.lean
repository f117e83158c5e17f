import NodeRdkafka.Errors

namespace NodeRdkafka

/-- What the library passes to LibrdKafkaError.create: a bare code, a plain
object of native code, or an Error instance. -/
inductive ErrorSource
  | number (code : ErrorCode)
  | object (e : ErrorObject)
  | error (e : JsError)
  deriving DecidableEq

structure LibrdKafkaError where
  message : String
  code : ErrorCode
  errno : ErrorCode
  origin : String
  isFatal : Option Bool := none
  isRetriable : Option Bool := none
  isTxnRequiresAbort : Option Bool := none
  deriving DecidableEq

namespace LibrdKafkaError

def originOfCode (code : ErrorCode) : String :=
  if ErrorCode.errEnd ≤ code then "local" else "kafka"

/-- String.prototype.split with the separator ": ", where `part` holds the
characters since the last separator in reverse. -/
def splitChars : List Char → List Char → List (List Char)
  | ':' :: ' ' :: rest, part => part.reverse :: splitChars rest []
  | c :: rest, part => splitChars rest (c :: part)
  | [], part => [part.reverse]

def split (message : String) : List String := (splitChars message.toList []).map String.ofList

section Decode
variable (err2str : ErrorCode → String) (toLowerCase : String → String)

/-- The origin and the text of an Error instance, taken from its message. -/
def parseMessage (message : String) : String × String :=
  match split message with
  | origin :: msg :: _ => (toLowerCase origin, toLowerCase msg)
  | _ => ("unknown", toLowerCase message)

/-- The texts that are decoded as a wrong state whatever code they carry. -/
def isDisconnected (message : String) : Bool :=
  let msg := (parseMessage toLowerCase message).2
  msg = "consumer is disconnected" ∨ msg = "producer is disconnected"

def create : ErrorSource → LibrdKafkaError
  | .number e => { message := err2str e, code := e, errno := e, origin := originOfCode e }
  | .object e =>
    { message := e.message, code := e.code, errno := e.code, origin := originOfCode e.code,
      isFatal := e.isFatal, isRetriable := e.isRetriable,
      isTxnRequiresAbort := e.isTxnRequiresAbort }
  | .error e =>
    let (origin, msg) := parseMessage toLowerCase e.message
    if isDisconnected toLowerCase e.message then
      { message := msg, code := ErrorCode.errState, errno := ErrorCode.errState, origin := "local",
        isFatal := e.isFatal, isRetriable := e.isRetriable,
        isTxnRequiresAbort := e.isTxnRequiresAbort }
    else
      { message := msg, code := e.code.getD (-1), errno := e.code.getD (-1), origin := origin,
        isFatal := e.isFatal, isRetriable := e.isRetriable,
        isTxnRequiresAbort := e.isTxnRequiresAbort }

/-- On every branch the two numeric fields are set together. -/
theorem create_errno (e : ErrorSource) :
    (create err2str toLowerCase e).errno = (create err2str toLowerCase e).code := by
  cases e with
  | number | object => rfl
  | error e =>
    simp only [create]
    split <;> rfl

theorem create_error_code (e : JsError) :
    (create err2str toLowerCase (.error e)).code =
      if isDisconnected toLowerCase e.message then ErrorCode.errState
      else e.code.getD ErrorCode.errUnknown := by
  simp only [create]
  split <;> rfl

end Decode

/-- A LibrdKafkaError is itself an Error instance, so it can be decoded again. -/
def toJsError (e : LibrdKafkaError) : JsError :=
  { message := e.message, code := some e.code, isFatal := e.isFatal, isRetriable := e.isRetriable,
    isTxnRequiresAbort := e.isTxnRequiresAbort }

end LibrdKafkaError

/-- String.prototype.toLowerCase on ASCII text. -/
def asciiLowerCase (text : String) : String := String.ofList (text.toList.map Char.toLower)

end NodeRdkafka
