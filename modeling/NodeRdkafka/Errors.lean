import NodeRdkafka.ErrorCode
import NodeRdkafka.JsValue

namespace NodeRdkafka

/-- The plain object that native code builds for an error. The three flags
are present only on transactional errors. -/
structure ErrorObject where
  message : String
  code : ErrorCode
  isFatal : Option Bool := none
  isRetriable : Option Bool := none
  isTxnRequiresAbort : Option Bool := none
  deriving DecidableEq

/-- A JavaScript Error instance, with the own properties the library reads. -/
structure JsError where
  message : String
  code : Option ErrorCode := none
  isFatal : Option Bool := none
  isRetriable : Option Bool := none
  isTxnRequiresAbort : Option Bool := none
  deriving DecidableEq

def rdKafkaError (err : ErrorCode) (errstr : String) : ErrorObject :=
  { message := errstr, code := err }

def rdKafkaTxnError (err : ErrorCode) (errstr : String)
    (isFatal isRetriable isTxnRequiresAbort : Option Bool) : ErrorObject :=
  { rdKafkaError err errstr with
    isFatal := isFatal, isRetriable := isRetriable, isTxnRequiresAbort := isTxnRequiresAbort }

/-- Nan::Error of a C string: a fresh Error instance that carries the text
and nothing else. -/
def nanError (message : String) : JsError := { message := cString message }

/-- The result record of native calls. A flag is none when the constructor
that built the baton left the member uninitialised. -/
structure Baton (δ : Type) where
  mData : Option δ := none
  mErrstr : String := ""
  mErr : ErrorCode
  mIsFatal : Option Bool := none
  mIsRetriable : Option Bool := none
  mIsTxnRequiresAbort : Option Bool := none

namespace Baton
variable {δ : Type}

def ofCode (code : ErrorCode) : Baton δ := { mErr := code }

def ofErrstr (code : ErrorCode) (errstr : String) : Baton δ := { mErr := code, mErrstr := errstr }

def ofData (data : δ) : Baton δ := { mErr := ErrorCode.errNoError, mData := some data }

def ofTxn (code : ErrorCode) (errstr : String) (isFatal isRetriable isTxnRequiresAbort : Bool) :
    Baton δ :=
  { mErr := code, mErrstr := errstr, mIsFatal := some isFatal, mIsRetriable := some isRetriable,
    mIsTxnRequiresAbort := some isTxnRequiresAbort }

def err (b : Baton δ) : ErrorCode := b.mErr

section Text
variable (err2str : ErrorCode → String)

def toObject (b : Baton δ) : ErrorObject :=
  if b.mErrstr.isEmpty then rdKafkaError b.mErr (err2str b.mErr) else rdKafkaError b.mErr b.mErrstr

def errstr (b : Baton δ) : String :=
  if b.mErrstr.isEmpty then err2str b.mErr else b.mErrstr

end Text

def toTxnObject (b : Baton δ) : ErrorObject :=
  rdKafkaTxnError b.mErr b.mErrstr b.mIsFatal b.mIsRetriable b.mIsTxnRequiresAbort

/-- The encoded object has the code and the text of the baton. -/
theorem toObject_eq (err2str : ErrorCode → String) (b : Baton δ) :
    b.toObject err2str = rdKafkaError b.err (b.errstr err2str) := by
  unfold toObject errstr err
  split <;> rfl

@[simp] theorem toObject_code (err2str : ErrorCode → String) (b : Baton δ) :
    (b.toObject err2str).code = b.err := by
  rw [toObject_eq]; rfl

end Baton
end NodeRdkafka
