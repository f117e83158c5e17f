import NodeRdkafka.TopicPartition

namespace NodeRdkafka

/-- What a native call gives the operation behind it for topic partitions. A
none in the list is a NULL pointer. -/
inductive Toppars
  | all
  | list (toppars : List (Option TopicPartition))
  | one (toppar : TopicPartition)

namespace KafkaConsumer
variable (toText : JsValue → String)

/-- The three forms of NodeCommit and NodeCommitSync, past the check that the
consumer is connected. -/
def committing (argument : JsValue) : Except String Toppars :=
  match argument with
  | .null | .undefined => .ok .all
  | .array elements => .ok (.list (Conversion.TopicPartition.fromV8Array toText elements))
  | value =>
    if value.isObject then
      match Conversion.TopicPartition.fromV8Object toText value with
      | none => .error "Invalid topic partition provided"
      | some toppar => .ok (.one toppar)
    else .error "First parameter must be an object or an array"

/-- The calls that take an array only, by the text with which they refuse all else. -/
def listed (refusal : String) (argument : JsValue) : Except String Toppars :=
  match argument with
  | .array elements => .ok (.list (Conversion.TopicPartition.fromV8Array toText elements))
  | _ => .error refusal

def nodeCommit (argument : JsValue) : Except String Toppars := committing toText argument

def nodeCommitSync (argument : JsValue) : Except String Toppars := committing toText argument

def nodeOffsetsStore (argument : JsValue) : Except String Toppars :=
  listed toText "Topic partition must be an array of objects" argument

def nodePause (argument : JsValue) : Except String Toppars :=
  listed toText "Topic partition must be an array of objects" argument

def nodeResume (argument : JsValue) : Except String Toppars :=
  listed toText "Topic partition must be an array of objects" argument

def nodeCommitted (argument : JsValue) : Except String Toppars :=
  listed toText "Need to specify an array of topic partitions" argument

def nodePosition (argument : JsValue) : Except String Toppars :=
  listed toText "Need to specify an array of topic partitions" argument

end KafkaConsumer

def Connection.nodeOffsetsForTimes (toText : JsValue → String) (argument : JsValue) : Except String Toppars :=
  KafkaConsumer.listed toText "Need to specify an array of topic partitions" argument

def Producer.nodeSendOffsetsToTransaction (toText : JsValue → String) (argument : JsValue) :
    Except String Toppars :=
  KafkaConsumer.listed toText
    "First argument to 'send offsets to transaction' has to be a consumer object" argument

/-- The calls that take an array of topic partitions. -/
inductive ArrayCall
  | commit
  | commitSync
  | pause
  | resume
  | offsetsStore
  | committed
  | position
  | offsetsForTimes
  | sendOffsetsToTransaction

def ArrayCall.node (toText : JsValue → String) : ArrayCall → JsValue → Except String Toppars
  | commit => KafkaConsumer.nodeCommit toText
  | commitSync => KafkaConsumer.nodeCommitSync toText
  | pause => KafkaConsumer.nodePause toText
  | resume => KafkaConsumer.nodeResume toText
  | offsetsStore => KafkaConsumer.nodeOffsetsStore toText
  | committed => KafkaConsumer.nodeCommitted toText
  | position => KafkaConsumer.nodePosition toText
  | offsetsForTimes => Connection.nodeOffsetsForTimes toText
  | sendOffsetsToTransaction => Producer.nodeSendOffsetsToTransaction toText

namespace Conversion.TopicPartition
variable {toText : JsValue → String}

/-- The single form takes the object: it has a partition other than -1, once
cut to an int, and a topic. -/
def Accepted (toText : JsValue → String) (topicPartition : JsValue) : Prop :=
  getInt topicPartition "partition" (-1) ≠ -1 ∧ getString toText topicPartition "topic" "" ≠ ""

theorem fromV8Object_ne_none_iff {topicPartition : JsValue} :
    fromV8Object toText topicPartition ≠ none ↔ Accepted toText topicPartition := by
  unfold fromV8Object Accepted
  by_cases unknown : getInt topicPartition "partition" (-1) = -1
  · simp [unknown]
  · by_cases unnamed : getString toText topicPartition "topic" "" = ""
    · simp [unknown, unnamed]
    · simp [unknown, unnamed]

/-- The array form pushes what the single form gives, and checks nothing. -/
theorem none_mem_fromV8Array_iff (toText : JsValue → String) (elements : List JsValue) :
    none ∈ fromV8Array toText elements ↔
      ∃ element ∈ elements, element.isObject = true ∧ ¬ Accepted toText element := by
  simp only [fromV8Array, List.mem_map, List.mem_filter]
  constructor
  · rintro ⟨element, ⟨member, isObject⟩, null⟩
    exact ⟨element, member, isObject, fun accepted => fromV8Object_ne_none_iff.mpr accepted null⟩
  · rintro ⟨element, member, isObject, refused⟩
    exact ⟨element, ⟨member, isObject⟩, by_contra fun given => refused (fromV8Object_ne_none_iff.mp given)⟩

end Conversion.TopicPartition

theorem ArrayCall.node_array (toText : JsValue → String) (call : ArrayCall) (elements : List JsValue) :
    call.node toText (.array elements) =
      .ok (.list (Conversion.TopicPartition.fromV8Array toText elements)) := by
  cases call <;> rfl

/-- None of the nine calls is given a NULL pointer if and only if the single
form takes every object of the array. -/
theorem array_noNull_iff (toText : JsValue → String) (call : ArrayCall) (elements : List JsValue) :
    (∀ toppars, call.node toText (.array elements) = .ok (.list toppars) → none ∉ toppars) ↔
      ∀ element ∈ elements, element.isObject = true → Conversion.TopicPartition.Accepted toText element := by
  have nulls := Conversion.TopicPartition.none_mem_fromV8Array_iff toText elements
  rw [call.node_array]
  constructor
  · intro clean element member isObject
    by_contra refused
    exact clean _ rfl (nulls.mpr ⟨element, member, isObject, refused⟩)
  · intro accepted toppars given null
    cases given
    obtain ⟨element, member, isObject, refused⟩ := nulls.mp null
    exact refused (accepted element member isObject)

/-- A topic partition without a partition: commit refuses it alone, and
gives librdkafka a NULL pointer for it in an array. -/
theorem array_null_for_missing_partition :
    KafkaConsumer.nodeCommit (fun _ => "") (.object [("topic", .string "t")]) =
        .error "Invalid topic partition provided" ∧
      KafkaConsumer.nodeCommit (fun _ => "") (.array [.object [("topic", .string "t")]]) =
        .ok (.list [none]) ∧
      KafkaConsumer.nodeResume (fun _ => "") (.array [.object [("topic", .string "t")]]) =
        .ok (.list [none]) :=
  ⟨rfl, rfl, rfl⟩

end NodeRdkafka
