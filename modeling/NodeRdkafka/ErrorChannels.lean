import NodeRdkafka.DeliveryReport
import NodeRdkafka.LibrdKafkaError

namespace NodeRdkafka

section Native
variable {δ : Type} (err2str : ErrorCode → String)

namespace ErrorAwareWorker

/-- The text that SetErrorBaton leaves with the worker. -/
def errorMessage (b : Baton δ) : String := cString (b.errstr err2str)

/-- The default, which flush uses. -/
def handleErrorCallback (b : Baton δ) : JsError := nanError (errorMessage err2str b)

end ErrorAwareWorker

def KafkaConsumerConnect.handleErrorCallback (b : Baton δ) : JsError :=
  nanError (ErrorAwareWorker.errorMessage err2str b)

def KafkaConsumerConsumeLoop.handleErrorCallback (b : Baton δ) : JsError :=
  nanError (ErrorAwareWorker.errorMessage err2str b)

/-- The second argument that EventDispatcher passes for an error event. -/
def EventDispatcher.errorArgument (err : ErrorCode) (fatal : Bool) : JsError :=
  { nanError (err2str err) with code := some err, isFatal := some fatal }

end Native

/-- A native error with the channel that carries it. The first two stand for
every worker whose error callback passes the object of its baton. -/
inductive NativeError (δ : Type)
  | worker (b : Baton δ)
  | txnWorker (b : Baton δ)
  | connectMetadata (b : Baton δ)
  | flush (b : Baton δ)
  | consumerConnect (b : Baton δ)
  | consumeLoop (b : Baton δ)
  | warning (err : ErrorCode)
  | eventError (err : ErrorCode) (fatal : Bool)
  | deliveryReport (message : Message) (includePayload : Bool)

namespace NativeError
variable {δ : Type}

def code : NativeError δ → ErrorCode
  | worker b | txnWorker b | connectMetadata b | flush b | consumerConnect b | consumeLoop b => b.err
  | warning err | eventError err _ => err
  | deliveryReport message _ => message.err

section Decode
variable (err2str : ErrorCode → String) (toLowerCase : String → String)

/-- What the library passes to LibrdKafkaError.create. Only connect wraps an
error twice, the one of its metadata request. -/
def source : NativeError δ → Option ErrorSource
  | worker b => some (.object (b.toObject err2str))
  | txnWorker b => some (.object b.toTxnObject)
  | connectMetadata b =>
    some (.error (LibrdKafkaError.create err2str toLowerCase (.object (b.toObject err2str))).toJsError)
  | flush b => some (.error (ErrorAwareWorker.handleErrorCallback err2str b))
  | consumerConnect b => some (.error (KafkaConsumerConnect.handleErrorCallback err2str b))
  | consumeLoop b => some (.error (KafkaConsumerConsumeLoop.handleErrorCallback err2str b))
  | warning err => some (.number err)
  | eventError err fatal => some (.error (EventDispatcher.errorArgument err2str err fatal))
  | deliveryReport message includePayload =>
    (DeliveryReport.ofMessage message includePayload).errorArgument.map .error

/-- The error that the user receives. -/
def received (e : NativeError δ) : Option LibrdKafkaError :=
  (e.source err2str toLowerCase).map (LibrdKafkaError.create err2str toLowerCase)

/-- An Error instance that has the code: it is replaced only where the text
is that of a wrong state. -/
def CodedKeeps (text : String) (err : ErrorCode) : Prop :=
  LibrdKafkaError.isDisconnected toLowerCase text = true → err = ErrorCode.errState

/-- An Error instance without the code: the text makes it a wrong state or
an unknown error. -/
def PlainKeeps (text : String) (err : ErrorCode) : Prop :=
  err = if LibrdKafkaError.isDisconnected toLowerCase text then ErrorCode.errState
        else ErrorCode.errUnknown

/-- The condition on the channel, the text and the code. -/
def KeepsCode : NativeError δ → Prop
  | worker _ | txnWorker _ | warning _ => True
  | connectMetadata b => CodedKeeps toLowerCase (b.errstr err2str) b.err
  | flush b | consumerConnect b | consumeLoop b =>
    PlainKeeps toLowerCase (cString (b.errstr err2str)) b.err
  | eventError err _ => CodedKeeps toLowerCase (cString (err2str err)) err
  | deliveryReport message _ => PlainKeeps toLowerCase (cString message.errstr) message.err

end Decode
end NativeError

namespace NativeError
variable {δ : Type}

section Kept
variable (err2str : ErrorCode → String) (toLowerCase : String → String)

theorem plain_kept_iff (text : String) (err : ErrorCode) :
    (LibrdKafkaError.create err2str toLowerCase (.error (nanError text))).code = err ↔
      PlainKeeps toLowerCase (cString text) err := by
  rw [LibrdKafkaError.create_error_code]
  simp only [nanError, Option.getD_none, PlainKeeps]
  exact eq_comm

theorem worker_kept_iff (b : Baton δ) :
    (LibrdKafkaError.create err2str toLowerCase
        (.error (nanError (ErrorAwareWorker.errorMessage err2str b)))).code = b.err ↔
      PlainKeeps toLowerCase (cString (b.errstr err2str)) b.err := by
  have kept := plain_kept_iff err2str toLowerCase (cString (b.errstr err2str)) b.err
  rwa [cString_idem] at kept

theorem coded_kept_iff {e : JsError} {err : ErrorCode} (coded : e.code = some err) :
    (LibrdKafkaError.create err2str toLowerCase (.error e)).code = err ↔
      CodedKeeps toLowerCase e.message err := by
  rw [LibrdKafkaError.create_error_code, coded, Option.getD_some, CodedKeeps]
  split
  · rename_i disconnected
    simp only [disconnected, true_imp_iff]
    exact eq_comm
  · rename_i connected
    simp [connected]

/-- The message and the code of the error that is wrapped twice. -/
theorem metadata_kept_iff (b : Baton δ) :
    (LibrdKafkaError.create err2str toLowerCase
        (.error (LibrdKafkaError.create err2str toLowerCase (.object (b.toObject err2str))).toJsError)).code =
        b.err ↔
      CodedKeeps toLowerCase (b.errstr err2str) b.err := by
  have coded : (LibrdKafkaError.create err2str toLowerCase (.object (b.toObject err2str))).toJsError.code =
      some b.err := congrArg some (b.toObject_code err2str)
  have text : (LibrdKafkaError.create err2str toLowerCase (.object (b.toObject err2str))).toJsError.message =
      b.errstr err2str := by
    rw [b.toObject_eq]
    rfl
  rw [coded_kept_iff err2str toLowerCase coded, text]

/-- On each channel the code that is decoded is the native one exactly under
the condition. -/
theorem source_code_iff {e : NativeError δ} {source : ErrorSource}
    (passed : e.source err2str toLowerCase = some source) :
    (LibrdKafkaError.create err2str toLowerCase source).code = e.code ↔
      e.KeepsCode err2str toLowerCase := by
  cases e with
  | worker b =>
    cases Option.some.inj passed
    exact iff_true_intro (b.toObject_code err2str)
  | txnWorker b | warning err =>
    cases Option.some.inj passed
    exact iff_true_intro rfl
  | connectMetadata b =>
    cases Option.some.inj passed
    exact metadata_kept_iff err2str toLowerCase b
  | flush b | consumerConnect b | consumeLoop b =>
    cases Option.some.inj passed
    exact worker_kept_iff err2str toLowerCase b
  | eventError err fatal =>
    cases Option.some.inj passed
    exact coded_kept_iff err2str toLowerCase rfl
  | deliveryReport message includePayload =>
    obtain ⟨argument, isError, rfl⟩ := Option.map_eq_some_iff.mp passed
    simp only [DeliveryReport.errorArgument, DeliveryReport.ofMessage, decide_eq_true_eq,
      Option.ite_none_right_eq_some, Option.some.injEq] at isError
    obtain ⟨failed, rfl⟩ := isError
    simp only [failed, if_false]
    exact plain_kept_iff err2str toLowerCase message.errstr message.err

/-- Every native error reaches the library. -/
theorem source_isSome {e : NativeError δ} (isError : e.code ≠ ErrorCode.errNoError) :
    ∃ source, e.source err2str toLowerCase = some source := by
  cases e with
  | deliveryReport message includePayload =>
    have failed : message.err ≠ ErrorCode.errNoError := isError
    simp [NativeError.source, DeliveryReport.errorArgument, DeliveryReport.ofMessage, failed]
  | _ => exact ⟨_, rfl⟩

end Kept
end NativeError

/-- The user receives an error with the native code exactly under the
condition on its channel. -/
theorem errorCode_kept_iff {δ : Type} (err2str : ErrorCode → String) (toLowerCase : String → String)
    (e : NativeError δ) (isError : e.code ≠ ErrorCode.errNoError) :
    (∃ received, e.received err2str toLowerCase = some received ∧
        received.code = e.code ∧ received.errno = e.code) ↔
      e.KeepsCode err2str toLowerCase := by
  obtain ⟨source, passed⟩ := NativeError.source_isSome err2str toLowerCase isError
  have decoded : e.received err2str toLowerCase =
      some (LibrdKafkaError.create err2str toLowerCase source) := by
    rw [NativeError.received, passed, Option.map_some]
  have kept := NativeError.source_code_iff err2str toLowerCase passed
  have errno := LibrdKafkaError.create_errno err2str toLowerCase source
  constructor
  · rintro ⟨received, same, code, _⟩
    rw [decoded] at same
    cases Option.some.inj same
    exact kept.mp code
  · intro keeps
    have code := kept.mpr keeps
    exact ⟨_, decoded, code, errno.trans code⟩

def timedOutText (_ : ErrorCode) : String := "Local: Timed out"

/-- A worker passes an error on with its code. -/
theorem errorCode_kept_iff_worker :
    ∃ received, (NativeError.worker (.ofCode ErrorCode.errTimedOut : Baton Unit)).received
        timedOutText asciiLowerCase = some received ∧
      received.code = ErrorCode.errTimedOut ∧ received.errno = ErrorCode.errTimedOut :=
  (errorCode_kept_iff timedOutText asciiLowerCase (.worker (.ofCode ErrorCode.errTimedOut))
    (by decide)).mpr trivial

/-- A message that the broker refuses for its size. -/
def refusedMessage : Message :=
  { err := 10, errstr := "Broker: Message size too large", topicName := "t", partition := 0, offset := -1001 }

/-- The report of a refused message arrives without its code. -/
theorem deliveryReport_loses_code :
    ∃ received, (NativeError.deliveryReport refusedMessage false : NativeError Unit).received
        timedOutText asciiLowerCase = some received ∧
      received.code = ErrorCode.errUnknown ∧ received.code ≠ refusedMessage.err := by
  have unknown : (LibrdKafkaError.create timedOutText asciiLowerCase
      (.error (nanError refusedMessage.errstr))).code = ErrorCode.errUnknown := by
    rw [LibrdKafkaError.create_error_code]
    decide
  have different : ErrorCode.errUnknown ≠ refusedMessage.err := by decide
  exact ⟨_, rfl, unknown, fun same => different (unknown.symm.trans same)⟩

end NodeRdkafka
