import NodeRdkafka.KafkaConsumer
import NodeRdkafka.LibrdKafkaError

namespace NodeRdkafka

/-- The transactional methods of a producer. -/
inductive TransactionCall
  | initTransactions
  | beginTransaction
  | sendOffsetsToTransaction
  | commitTransaction
  | abortTransaction
  deriving DecidableEq

namespace Producer

/-- What the five operations share: the answer of librdkafka to the call that
a connected producer makes. -/
def transactional (connected : Bool) (answer : Option RdError) : Baton Unit :=
  if connected then KafkaConsumer.rdkafkaErrorToBaton answer else .ofCode ErrorCode.errState

def initTransactions (connected : Bool) (answer : Option RdError) : Baton Unit := transactional connected answer

def beginTransaction (connected : Bool) (answer : Option RdError) : Baton Unit := transactional connected answer

def commitTransaction (connected : Bool) (answer : Option RdError) : Baton Unit := transactional connected answer

def abortTransaction (connected : Bool) (answer : Option RdError) : Baton Unit := transactional connected answer

/-- With a consumer that has a client. -/
def sendOffsetsToTransaction (connected : Bool) (answer : Option RdError) : Baton Unit :=
  transactional connected answer

end Producer

namespace TransactionCall
variable (err2str : ErrorCode → String) (toLowerCase : String → String)

def execute : TransactionCall → Bool → Option RdError → Baton Unit
  | initTransactions => Producer.initTransactions
  | beginTransaction => Producer.beginTransaction
  | sendOffsetsToTransaction => Producer.sendOffsetsToTransaction
  | commitTransaction => Producer.commitTransaction
  | abortTransaction => Producer.abortTransaction

/-- HandleErrorCallback of the five workers. -/
def handleErrorCallback (b : Baton Unit) : TransactionCall → ErrorObject
  | initTransactions => b.toTxnObject
  | beginTransaction => b.toObject err2str
  | sendOffsetsToTransaction => b.toTxnObject
  | commitTransaction => b.toTxnObject
  | abortTransaction => b.toTxnObject

/-- What the callback of the application gets: none for null. -/
def callback (call : TransactionCall) (connected : Bool) (answer : Option RdError) : Option LibrdKafkaError :=
  let b := call.execute connected answer
  if b.err = ErrorCode.errNoError then none
  else some (.create err2str toLowerCase (.object (call.handleErrorCallback err2str b)))

end TransactionCall

/-- The failure of an operation. The one that comes before the call of
librdkafka has no text and no flag set. -/
def transactionFailure (connected : Bool) (answer : Option RdError) : Option RdError :=
  if connected then answer else some { code := ErrorCode.errState, str := "" }

/-- An error of the library that says all there is to say of a failure. -/
structure LibrdKafkaError.Reports (err2str : ErrorCode → String) (e : LibrdKafkaError) (failure : RdError) :
    Prop where
  code : e.code = failure.code
  message : e.message = if failure.str = "" then err2str failure.code else failure.str
  nonempty : e.message ≠ ""
  isFatal : e.isFatal = some failure.isFatal
  isRetriable : e.isRetriable = some failure.isRetriable
  isTxnRequiresAbort : e.isTxnRequiresAbort = some failure.txnRequiresAbort

namespace TransactionCall
variable {err2str : ErrorCode → String} {toLowerCase : String → String} {call : TransactionCall}
variable {connected : Bool} {answer : Option RdError} {failure : RdError}

theorem execute_eq (call : TransactionCall) (connected : Bool) (answer : Option RdError) :
    call.execute connected answer = Producer.transactional connected answer := by
  cases call <;> rfl

/-- All but one pass on the flags of the baton. -/
theorem handleErrorCallback_txn (other : call ≠ .beginTransaction) (b : Baton Unit) :
    call.handleErrorCallback err2str b = b.toTxnObject := by
  cases call with
  | beginTransaction => exact absurd rfl other
  | _ => rfl

theorem transactional_err (failed : transactionFailure connected answer = some failure) :
    (Producer.transactional connected answer).err = failure.code := by
  cases connected with
  | false =>
    cases Option.some.inj failed
    rfl
  | true =>
    have same : answer = some failure := failed
    rw [same]
    rfl

/-- A failure is reported by one error, with what the worker makes of the baton. -/
theorem callback_eq (failed : transactionFailure connected answer = some failure)
    (isError : failure.code ≠ ErrorCode.errNoError) :
    call.callback err2str toLowerCase connected answer =
      some (.create err2str toLowerCase
        (.object (call.handleErrorCallback err2str (Producer.transactional connected answer)))) := by
  have error : (Producer.transactional connected answer).err ≠ ErrorCode.errNoError := by
    rwa [transactional_err failed]
  simp only [callback, execute_eq, error, if_false]

/-- The worker of beginTransaction leaves the flags out. -/
theorem handleErrorCallback_begin (b : Baton Unit) :
    (TransactionCall.beginTransaction.handleErrorCallback err2str b).isFatal = none :=
  congrArg ErrorObject.isFatal (b.toObject_eq err2str)

/-- A producer that is not connected makes a baton with no flag set. -/
theorem handleErrorCallback_disconnected (call : TransactionCall) :
    (call.handleErrorCallback err2str (Producer.transactional false answer)).isFatal = none := by
  by_cases begins : call = .beginTransaction
  · rw [begins, handleErrorCallback_begin]
  · rw [handleErrorCallback_txn begins]
    rfl

/-- The text of the other four is that of librdkafka, also where it is empty. -/
theorem handleErrorCallback_text (err2str : ErrorCode → String) (other : call ≠ .beginTransaction)
    (failure : RdError) :
    (call.handleErrorCallback err2str (Producer.transactional true (some failure))).message = failure.str := by
  rw [handleErrorCallback_txn other]
  rfl

end TransactionCall

/-- The callback of a transactional method gets an error that says all of the
failure if and only if the method is not beginTransaction, librdkafka has been
called, and its error has a text. -/
theorem transaction_error_iff {err2str : ErrorCode → String} (toLowerCase : String → String)
    {call : TransactionCall} {connected : Bool} {answer : Option RdError} {failure : RdError}
    (failed : transactionFailure connected answer = some failure)
    (isError : failure.code ≠ ErrorCode.errNoError) :
    (∃ e, call.callback err2str toLowerCase connected answer = some e ∧ e.Reports err2str failure) ↔
      call ≠ .beginTransaction ∧ connected = true ∧ failure.str ≠ "" := by
  rw [TransactionCall.callback_eq failed isError]
  simp only [Option.some.injEq, exists_eq_left']
  constructor
  · intro reports
    -- the flags are there only if the worker passes them on and the baton has them
    have flags : (call.handleErrorCallback err2str (Producer.transactional connected answer)).isFatal ≠ none := by
      intro missing
      have flag := reports.isFatal
      simp only [LibrdKafkaError.create, missing] at flag
      cases flag
    have other : call ≠ .beginTransaction := by
      rintro rfl
      exact flags (TransactionCall.handleErrorCallback_begin _)
    have called : connected = true := by
      cases connected with
      | true => rfl
      | false => exact absurd (TransactionCall.handleErrorCallback_disconnected call) flags
    subst called
    have same : answer = some failure := failed
    subst same
    refine ⟨other, rfl, fun empty => ?_⟩
    have text := TransactionCall.handleErrorCallback_text err2str other failure
    exact reports.nonempty (text.trans empty)
  · rintro ⟨other, rfl, text⟩
    have same : answer = some failure := failed
    rw [TransactionCall.handleErrorCallback_txn other, same]
    exact ⟨rfl, (if_neg text).symm, text, rfl, rfl, rfl⟩

/-- A commit that librdkafka wants aborted. -/
theorem transaction_error_commit :
    ∃ e, TransactionCall.commitTransaction.callback (fun _ => "Local: Erroneous state") id true
        (some { code := ErrorCode.errState, str := "abort required", txnRequiresAbort := true }) = some e ∧
      e.Reports (fun _ => "Local: Erroneous state")
        { code := ErrorCode.errState, str := "abort required", txnRequiresAbort := true } :=
  (transaction_error_iff id rfl (by decide)).2 ⟨by decide, rfl, by decide⟩

/-- A fatal error of beginTransaction loses its flags; a commit on a producer
that is not connected reports no text. -/
theorem transaction_error_lost :
    (¬ ∃ e, TransactionCall.beginTransaction.callback (fun _ => "Local: Fatal error") id true
        (some { code := -150, str := "fenced", isFatal := true }) = some e ∧
      e.Reports (fun _ => "Local: Fatal error") { code := -150, str := "fenced", isFatal := true }) ∧
    ¬ ∃ e, TransactionCall.commitTransaction.callback (fun _ => "Local: Erroneous state") id false none = some e ∧
      e.Reports (fun _ => "Local: Erroneous state") { code := ErrorCode.errState, str := "" } := by
  constructor
  · rintro ⟨e, called, reports⟩
    cases Option.some.inj called
    cases reports.isFatal
  · rintro ⟨e, called, reports⟩
    cases Option.some.inj called
    exact reports.nonempty rfl

end NodeRdkafka
