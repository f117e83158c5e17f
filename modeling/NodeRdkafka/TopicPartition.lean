import NodeRdkafka.Message

namespace NodeRdkafka

namespace Topic

def offsetBeginning : Int64 := -2
def offsetEnd : Int64 := -1
def offsetStored : Int64 := -1000
def offsetInvalid : Int64 := -1001

end Topic

/-- An RdKafka::TopicPartition. -/
structure TopicPartition where
  topic : String
  partition : Int32
  offset : Int64
  err : ErrorCode := ErrorCode.errNoError
  deriving DecidableEq

namespace Conversion
section GetParameter
variable (toText : JsValue → String)

/-- GetParameter of a 64 bit integer. Only numbers are read. -/
def getInt64 (object : JsValue) (field : String) (default : Int64) : Int64 :=
  match object.get? field with
  | some (.number value) => value.toInt64
  | _ => default

/-- GetParameter of an int, which is cut from the 64 bit value. -/
def getInt (object : JsValue) (field : String) (default : Int32) : Int32 :=
  (getInt64 object field default.toInt64).toInt32

/-- GetParameter of a string. Values other than strings are converted by
`toText`, and the bytes end at the first NUL. A value that JavaScript cannot
convert (a Symbol, a toString that throws) ends the process in ToLocalChecked:
`toText` speaks for the values that a call survives. -/
def getString (object : JsValue) (field : String) (default : String) : String :=
  match object.get? field with
  | none | some .undefined | some .null => default
  | some (.string text) => cString text
  | some value => cString (toText value)

end GetParameter

namespace TopicPartition
section
variable (err2str : ErrorCode → String) (toText : JsValue → String)

/-- The body of the loop of ToV8Array. An invalid offset is left out. -/
def toV8Value (topicPartition : NodeRdkafka.TopicPartition) : JsValue :=
  if topicPartition.err ≠ ErrorCode.errNoError then .error (err2str topicPartition.err) []
  else
    let offset :=
      if topicPartition.offset ≠ Topic.offsetInvalid then
        [("offset", nanNumber topicPartition.offset.toInt)]
      else []
    .object (offset ++ [("partition", nanNumber topicPartition.partition.toInt),
      ("topic", .string (cString topicPartition.topic))])

def toV8Array (list : List NodeRdkafka.TopicPartition) : List JsValue := list.map (toV8Value err2str)

/-- None is the NULL pointer. -/
def fromV8Object (topicPartition : JsValue) : Option NodeRdkafka.TopicPartition :=
  let topic := getString toText topicPartition "topic" ""
  let partition := getInt topicPartition "partition" (-1)
  let offset := getInt64 topicPartition "offset" 0
  if partition = -1 then none
  else if topic.isEmpty then none
  else some { topic, partition, offset }

/-- Values that are no objects are skipped, others give an entry each, if
only a NULL pointer. -/
def fromV8Array (list : List JsValue) : List (Option NodeRdkafka.TopicPartition) :=
  (list.filter JsValue.isObject).map (fromV8Object toText)

end
end TopicPartition
end Conversion

/-- The partitions that a client gets from position, committed or
assignments: found without error, at an offset that a number holds exactly or
at one of the logical offsets. -/
structure TopicPartition.Held (tp : TopicPartition) : Prop where
  err : tp.err = ErrorCode.errNoError
  topic : tp.topic ≠ ""
  partition : 0 ≤ tp.partition
  offset : (0 ≤ tp.offset ∧ tp.offset.toInt < 2 ^ 53) ∨
    tp.offset ∈ [Topic.offsetBeginning, Topic.offsetEnd, Topic.offsetStored, Topic.offsetInvalid]

theorem TopicPartition.Held.offset_small {tp : TopicPartition} (held : tp.Held) :
    tp.offset.toInt.natAbs < 2 ^ 53 := by
  rcases held.offset with ⟨natural, small⟩ | logical
  · have lower : (0 : Int64).toInt ≤ tp.offset.toInt := Int64.le_iff_toInt_le.mp natural
    have zero : (0 : Int64).toInt = 0 := rfl
    omega
  · simp only [List.mem_cons, List.not_mem_nil, or_false] at logical
    rcases logical with at_offset | at_offset | at_offset | at_offset <;> rw [at_offset] <;> decide

namespace Conversion.TopicPartition
variable {err2str : ErrorCode → String} {toText : JsValue → String}

theorem toV8Value_isObject (tp : NodeRdkafka.TopicPartition) : (toV8Value err2str tp).isObject = true := by
  unfold toV8Value
  split <;> rfl

theorem toV8Value_topic {tp : NodeRdkafka.TopicPartition} (err : tp.err = ErrorCode.errNoError) :
    (toV8Value err2str tp).get? "topic" = some (.string (cString tp.topic)) := by
  by_cases invalid : tp.offset = Topic.offsetInvalid <;>
    simp [toV8Value, err, invalid, JsValue.get?, List.lookup_cons]

theorem toV8Value_partition {tp : NodeRdkafka.TopicPartition} (err : tp.err = ErrorCode.errNoError) :
    (toV8Value err2str tp).get? "partition" = some (nanNumber tp.partition.toInt) := by
  by_cases invalid : tp.offset = Topic.offsetInvalid <;>
    simp [toV8Value, err, invalid, JsValue.get?, List.lookup_cons]

theorem toV8Value_offset {tp : NodeRdkafka.TopicPartition} (err : tp.err = ErrorCode.errNoError) :
    (toV8Value err2str tp).get? "offset" =
      if tp.offset = Topic.offsetInvalid then none else some (nanNumber tp.offset.toInt) := by
  by_cases invalid : tp.offset = Topic.offsetInvalid <;>
    simp [toV8Value, err, invalid, JsValue.get?, List.lookup_cons]

/-- A number holds every partition. -/
theorem toInt64_ofInt32 (partition : Int32) :
    (Number.ofInt partition.toInt).toInt64 = partition.toInt64 := by
  have widened : partition.toInt64.toInt = partition.toInt := partition.toInt_toInt64
  have small : partition.toInt64.toInt.natAbs < 2 ^ 53 := by
    have lower := partition.le_toInt
    have upper := partition.toInt_lt
    omega
  have survives := Number.toInt64_ofInt small
  rwa [widened] at survives

/-- A partition survives the way through a number and a 64 bit integer. -/
theorem toInt32_ofInt (partition : Int32) :
    (Number.ofInt partition.toInt).toInt64.toInt32 = partition := by
  rw [toInt64_ofInt32, Int32.toInt32_toInt64]

/-- What a held partition becomes: an invalid offset turns into zero, a topic
ends at its first NUL. -/
theorem fromV8Object_toV8Value {tp : NodeRdkafka.TopicPartition} (held : tp.Held) :
    fromV8Object toText (toV8Value err2str tp) =
      if (cString tp.topic).isEmpty then none
      else some { tp with topic := cString tp.topic,
                          offset := if tp.offset = Topic.offsetInvalid then 0 else tp.offset } := by
  have topic : getString toText (toV8Value err2str tp) "topic" "" = cString tp.topic := by
    simp only [getString, toV8Value_topic held.err, cString_idem]
  have partition : getInt (toV8Value err2str tp) "partition" (-1) = tp.partition := by
    simp only [getInt, getInt64, toV8Value_partition held.err, nanNumber, toInt32_ofInt]
  have offset : getInt64 (toV8Value err2str tp) "offset" 0 =
      if tp.offset = Topic.offsetInvalid then 0 else tp.offset := by
    by_cases invalid : tp.offset = Topic.offsetInvalid
    · simp only [getInt64, toV8Value_offset held.err, invalid, if_true]
    · simp only [getInt64, toV8Value_offset held.err, invalid, if_false, nanNumber,
        Number.toInt64_ofInt held.offset_small]
  have known : tp.partition ≠ -1 := by
    intro unknown
    have natural := held.partition
    rw [unknown] at natural
    exact absurd natural (by decide)
  simp only [fromV8Object, topic, partition, offset, known, if_false, held.err]

theorem fromV8Object_toV8Value_iff {tp : NodeRdkafka.TopicPartition} (held : tp.Held) :
    fromV8Object toText (toV8Value err2str tp) = some tp ↔
      tp.offset ≠ Topic.offsetInvalid ∧ '\x00' ∉ tp.topic.toList := by
  rw [fromV8Object_toV8Value held]
  constructor
  · intro same
    split at same
    · cases same
    · have fields := Option.some.inj same
      have topic : cString tp.topic = tp.topic := congrArg NodeRdkafka.TopicPartition.topic fields
      have offset := congrArg NodeRdkafka.TopicPartition.offset fields
      refine ⟨?_, cString_eq_iff.mp topic⟩
      intro invalid
      simp only [invalid, if_true] at offset
      exact absurd offset (by decide)
  · intro ⟨valid, whole⟩
    have topic := cString_eq_iff.mpr whole
    have nonempty : tp.topic.isEmpty = false := by simpa using held.topic
    simp only [topic, valid, if_false, nonempty, Bool.false_eq_true]

end Conversion.TopicPartition

/-- A list of held partitions comes back as it was exactly when none of them
is at the invalid offset (and none has a NUL in its topic). -/
theorem topicPartition_roundTrip_iff {err2str : ErrorCode → String} {toText : JsValue → String}
    {list : List TopicPartition} (held : ∀ tp ∈ list, tp.Held) :
    Conversion.TopicPartition.fromV8Array toText (Conversion.TopicPartition.toV8Array err2str list) =
        list.map some ↔
      ∀ tp ∈ list, tp.offset ≠ Topic.offsetInvalid ∧ '\x00' ∉ tp.topic.toList := by
  have kept : (list.map (Conversion.TopicPartition.toV8Value err2str)).filter JsValue.isObject =
      list.map (Conversion.TopicPartition.toV8Value err2str) := by
    rw [List.filter_eq_self]
    intro value member
    obtain ⟨tp, _, rfl⟩ := List.mem_map.mp member
    exact Conversion.TopicPartition.toV8Value_isObject tp
  rw [Conversion.TopicPartition.fromV8Array, Conversion.TopicPartition.toV8Array, kept, List.map_map,
    List.map_inj_left]
  constructor
  · intro same tp member
    exact (Conversion.TopicPartition.fromV8Object_toV8Value_iff (held tp member)).mp (same tp member)
  · intro valid tp member
    exact (Conversion.TopicPartition.fromV8Object_toV8Value_iff (held tp member)).mpr (valid tp member)

/-- The position of an assigned partition that nothing was consumed from. -/
def unconsumed : TopicPartition := { topic := "t", partition := 0, offset := Topic.offsetInvalid }

def consumed : TopicPartition := { topic := "t", partition := 0, offset := 7 }

theorem unconsumed_held : unconsumed.Held :=
  ⟨rfl, by decide, by decide, Or.inr (by decide)⟩

theorem consumed_held : consumed.Held := ⟨rfl, by decide, by decide, Or.inl ⟨by decide, by decide⟩⟩

theorem topicPartition_roundTrip_consumed :
    Conversion.TopicPartition.fromV8Array (fun _ => "")
        (Conversion.TopicPartition.toV8Array (fun _ => "") [consumed]) = [some consumed] := by
  have held : ∀ tp ∈ [consumed], tp.Held := by
    intro tp member
    rw [List.mem_singleton.mp member]
    exact consumed_held
  refine (topicPartition_roundTrip_iff held).mpr ?_
  intro tp member
  rw [List.mem_singleton.mp member]
  decide

/-- Zero is submitted for a partition without an offset. -/
theorem topicPartition_roundTrip_unconsumed :
    unconsumed.Held ∧
      Conversion.TopicPartition.fromV8Array (fun _ => "")
        (Conversion.TopicPartition.toV8Array (fun _ => "") [unconsumed]) =
          [some { unconsumed with offset := 0 }] ∧
      Conversion.TopicPartition.fromV8Array (fun _ => "")
        (Conversion.TopicPartition.toV8Array (fun _ => "") [unconsumed]) ≠ [unconsumed].map some := by
  have decoded : Conversion.TopicPartition.fromV8Object (fun _ => "")
      (Conversion.TopicPartition.toV8Value (fun _ => "") unconsumed) =
        some { unconsumed with offset := 0 } :=
    Conversion.TopicPartition.fromV8Object_toV8Value unconsumed_held
  have submitted : Conversion.TopicPartition.fromV8Array (fun _ => "")
      (Conversion.TopicPartition.toV8Array (fun _ => "") [unconsumed]) =
        [some { unconsumed with offset := 0 }] := congrArg (fun entry => [entry]) decoded
  refine ⟨unconsumed_held, submitted, ?_⟩
  rw [submitted]
  decide

end NodeRdkafka
