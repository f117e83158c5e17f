import NodeRdkafka.TopicPartitionArrays
import NodeRdkafka.Rebalance
import NodeRdkafka.Lib.DoubleSuccessor

namespace NodeRdkafka

/-- `value + 1` in JavaScript. Objects of all kinds turn into texts. -/
def JsValue.plusOne (toText : JsValue → String) : JsValue → Except Thrown JsValue
  | undefined => .ok (.number .nan)
  | null => .ok (.number (.finite 1))
  | boolean value => .ok (.number (.finite (if value then 2 else 1)))
  | number value => .ok (.number value.succ)
  | symbol _ => .error (.typeError "Cannot convert a Symbol value to a number")
  | string text => .ok (.string (text ++ "1"))
  | value => .ok (.string (toText value ++ "1"))

/-- What a commit throws: what native code and JavaScript itself throw, or the error
for the code that native code has returned. -/
inductive CommitError
  | thrown (e : Thrown)
  | librdkafka (err : LibrdKafkaError)

/-- What a commit has handed to librdkafka, and what its call returns or throws. -/
structure CommitOutcome where
  handed : Option Toppars
  result : Except CommitError Unit

/-- A connected or disconnected consumer, with the answers of librdkafka to commits
and the texts of error codes. -/
structure CommittingConsumer where
  isConnected : Bool
  answer : Toppars → ErrorCode
  err2str : ErrorCode → String
  toLowerCase : String → String
  toText : JsValue → String

namespace CommittingConsumer
variable (c : CommittingConsumer)

/-- Client.prototype._errorWrap, with numbers for errors only. -/
def errorWrap (errorCode : ErrorCode) : Except CommitError Unit :=
  if errorCode ≠ ErrorCode.errNoError then
    .error (.librdkafka (.create c.err2str c.toLowerCase (.number errorCode)))
  else .ok ()

/-- NodeCommit and NodeCommitSync with the operation behind them. -/
def commitWith (node : (JsValue → String) → JsValue → Except String Toppars) (argument : JsValue) : CommitOutcome :=
  if c.isConnected then
    match node c.toText argument with
    | .ok toppars => { handed := some toppars, result := c.errorWrap (c.answer toppars) }
    | .error message => { handed := none, result := .error (.thrown (.error (nanError message))) }
  else
    { handed := none, result := .error (.thrown (.error (nanError "KafkaConsumer is disconnected"))) }

def commit (topicPartition : JsValue) : CommitOutcome := c.commitWith KafkaConsumer.nodeCommit topicPartition

def commitSync (topicPartition : JsValue) : CommitOutcome := c.commitWith KafkaConsumer.nodeCommitSync topicPartition

/-- The topic partition that commitMessage and commitMessageSync build. -/
def nextPosition (msg : JsValue) : Except Thrown JsValue :=
  match msg with
  | .undefined | .null => .error (.typeError "Cannot read properties of undefined or null")
  | msg => do
    let offset ← (msg.get "offset").plusOne c.toText
    .ok (.object [("topic", msg.get "topic"), ("partition", msg.get "partition"), ("offset", offset)])

/-- The two calls, by the commit that they make. -/
def commitMessageWith (call : JsValue → CommitOutcome) (msg : JsValue) : CommitOutcome :=
  match c.nextPosition msg with
  | .ok topicPartition => call topicPartition
  | .error e => { handed := none, result := .error (.thrown e) }

def commitMessage (msg : JsValue) : CommitOutcome := c.commitMessageWith c.commit msg

def commitMessageSync (msg : JsValue) : CommitOutcome := c.commitMessageWith c.commitSync msg

end CommittingConsumer

/-- A message as a consumer gets it from a partition. -/
structure Message.Read (message : Message) : Prop where
  err : message.err = ErrorCode.errNoError
  topic : message.topicName ≠ ""
  whole : '\x00' ∉ message.topicName.toList
  partition : 0 ≤ message.partition
  offset : 0 ≤ message.offset

/-- The offset that is committed for a message. -/
def Message.committedOffset (message : Message) : Int64 := (Number.ofInt message.offset.toInt).succ.toInt64

namespace CommittingConsumer
variable {c : CommittingConsumer} {message : Message}

theorem toV8Object_topic (read : message.Read) :
    (Conversion.Message.toV8Object c.err2str message).get "topic" = .string message.topicName := by
  cases headers : message.headers <;>
    simp [Conversion.Message.toV8Object, Conversion.Message.toV8ObjectWith, read.err, headers, JsValue.get,
      JsValue.get?, List.lookup_cons]

theorem toV8Object_partition (read : message.Read) :
    (Conversion.Message.toV8Object c.err2str message).get "partition" = nanNumber message.partition.toInt := by
  cases headers : message.headers <;>
    simp [Conversion.Message.toV8Object, Conversion.Message.toV8ObjectWith, read.err, headers, JsValue.get,
      JsValue.get?, List.lookup_cons]

theorem toV8Object_offset (read : message.Read) :
    (Conversion.Message.toV8Object c.err2str message).get "offset" = nanNumber message.offset.toInt := by
  cases headers : message.headers <;>
    simp [Conversion.Message.toV8Object, Conversion.Message.toV8ObjectWith, read.err, headers, JsValue.get,
      JsValue.get?, List.lookup_cons]

theorem nextPosition_read (read : message.Read) :
    c.nextPosition (Conversion.Message.toV8Object c.err2str message) =
      .ok (.object [("topic", .string message.topicName), ("partition", nanNumber message.partition.toInt),
        ("offset", .number (Number.ofInt message.offset.toInt).succ)]) := by
  have topic := toV8Object_topic (c := c) read
  have partition := toV8Object_partition (c := c) read
  have offset := toV8Object_offset (c := c) read
  unfold nextPosition
  split
  · simp_all [JsValue.get, JsValue.get?]
  · simp_all [JsValue.get, JsValue.get?]
  · rw [topic, partition, offset]
    rfl

/-- Native code reads back what was built. -/
theorem fromV8Object_next (read : message.Read) :
    Conversion.TopicPartition.fromV8Object c.toText
        (.object [("topic", .string message.topicName), ("partition", nanNumber message.partition.toInt),
          ("offset", .number (Number.ofInt message.offset.toInt).succ)]) =
      some { topic := message.topicName, partition := message.partition, offset := message.committedOffset } := by
  have topic : cString message.topicName = message.topicName := cString_eq_iff.mpr read.whole
  have named : message.topicName.isEmpty = false := by simpa using read.topic
  have known : message.partition ≠ -1 := by
    intro unknown
    have natural := read.partition
    rw [unknown] at natural
    exact absurd natural (by decide)
  simp [Conversion.TopicPartition.fromV8Object, Conversion.getString, Conversion.getInt, Conversion.getInt64,
    JsValue.get?, List.lookup_cons, nanNumber, Conversion.TopicPartition.toInt32_ofInt, topic, named, known,
    Message.committedOffset]

/-- For a message that was read, commitMessage and commitMessageSync hand one topic
partition to librdkafka, that of the message, and answer with what librdkafka returns.
Its offset is the next one for every offset below 2^53, and beyond for those next to a
multiple of four and of the weight of their last bit in a number. -/
theorem commitMessage_next_iff (connected : c.isConnected = true) (read : message.Read) :
    ∃ next : TopicPartition, next.topic = message.topicName ∧ next.partition = message.partition ∧
      c.commitMessage (Conversion.Message.toV8Object c.err2str message) =
        { handed := some (.one next), result := c.errorWrap (c.answer (.one next)) } ∧
      c.commitMessageSync (Conversion.Message.toV8Object c.err2str message) =
        { handed := some (.one next), result := c.errorWrap (c.answer (.one next)) } ∧
      (next.offset = message.offset + 1 ↔
        message.offset.toInt < 2 ^ 53 ∨ message.offset = Int64.maxValue - 1 ∨
          (((max 4 (Double.ulp message.offset.toInt.toNat) : Nat) : Int) ∣ message.offset.toInt + 1 ∧
            message.offset ≠ Int64.maxValue)) := by
  let next : TopicPartition :=
    { topic := message.topicName, partition := message.partition, offset := message.committedOffset }
  refine ⟨next, rfl, rfl, ?_, ?_, Number.toInt64_succ_iff read.offset⟩
  · simp only [commitMessage, commitMessageWith, nextPosition_read read, commit, commitWith, connected, if_true,
      KafkaConsumer.nodeCommit, KafkaConsumer.committing, JsValue.isObject, fromV8Object_next read]
    rfl
  · simp only [commitMessageSync, commitMessageWith, nextPosition_read read, commitSync, commitWith, connected,
      if_true, KafkaConsumer.nodeCommitSync, KafkaConsumer.committing, JsValue.isObject, fromV8Object_next read]
    rfl

end CommittingConsumer

/-- A message at an offset beyond 2^53. The offset committed for it skips the next one. -/
def farMessage : Message :=
  { err := ErrorCode.errNoError, topicName := "t", partition := 3, offset := 2 ^ 53 + 2 }

theorem commitMessage_next_iff_far :
    ∃ next : TopicPartition, next.offset ≠ farMessage.offset + 1 ∧
      (CommittingConsumer.commitMessage ⟨true, fun _ => 0, fun _ => "", id, fun _ => ""⟩
        (Conversion.Message.toV8Object (fun _ => "") farMessage)).handed = some (.one next) := by
  have read : farMessage.Read := ⟨rfl, by decide, by decide, by decide, by decide⟩
  obtain ⟨next, _, _, commits, _, exact_iff⟩ := CommittingConsumer.commitMessage_next_iff
    (c := ⟨true, fun _ => 0, fun _ => "", id, fun _ => ""⟩) rfl read
  refine ⟨next, fun same => ?_, congrArg CommitOutcome.handed commits⟩
  rcases exact_iff.mp same with below | almost | ⟨divides, _⟩
  · exact absurd below (by decide)
  · exact absurd almost (by decide)
  · exact absurd divides (by decide +kernel)

end NodeRdkafka
