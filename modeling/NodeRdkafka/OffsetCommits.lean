import NodeRdkafka.DispatcherSessions
import NodeRdkafka.Rebalance

namespace NodeRdkafka
open Transition QueueDispatcher

structure OffsetCommitEvent where
  err : ErrorCode
  partitions : List EventTopicPartition
  deriving DecidableEq

/-- The constructor copies what it needs of the partitions. -/
def OffsetCommitEvent.ofPartitions (err : ErrorCode) (partitions : List TopicPartition) : OffsetCommitEvent :=
  { err, partitions := partitions.map fun tp =>
      { topic := tp.topic, partition := tp.partition, offset := tp.offset } }

/-- What the application hears of a commit: the event, and the call of its own function. -/
inductive CommitNotice
  | emit (err : Option LibrdKafkaError) (offsets : List JsValue)
  | onOffsetCommit (err : Option LibrdKafkaError) (offsets : List JsValue)

section
variable (err2str : ErrorCode → String) (toLowerCase : String → String)

/-- The first argument of Flush: undefined, or the code. -/
def OffsetCommitEvent.argument (e : OffsetCommitEvent) : Option ErrorCode :=
  if e.err = ErrorCode.errNoError then none else some e.err

/-- The offset_commit_cb that the constructor puts in the place of `true`, or of a function
of the application. -/
def offsetCommitCb (function : Bool) (err : Option ErrorCode) (offsets : List JsValue) : List CommitNotice :=
  let err := err.map fun code => LibrdKafkaError.create err2str toLowerCase (.number code)
  if function then [.emit err offsets, .onOffsetCommit err offsets] else [.emit err offsets]

/-- One event, as the application hears of it. -/
def OffsetCommitEvent.notices (function : Bool) (e : OffsetCommitEvent) : List CommitNotice :=
  offsetCommitCb err2str toLowerCase function e.argument (topicPartitionListToV8Array e.partitions)

namespace OffsetCommits

/-- All that the application has heard, where `cb` is its offset_commit_cb. -/
def heard (function : Bool) (cb : JsFunction) (s : QueueDispatcher OffsetCommitEvent) : List CommitNotice :=
  s.dispatched.flatMap fun d =>
    (Dispatcher.dispatch { callbacks := d.callbacks } d.event).flatMap fun call =>
      if call.1 = cb then call.2.notices err2str toLowerCase function else []

variable {function : Bool} {cb : JsFunction} {s : QueueDispatcher OffsetCommitEvent}

/-- With the function registered once, a dispatch is one notice. -/
theorem heard_eq (registered : ∀ d ∈ s.dispatched, d.callbacks = [cb]) :
    heard err2str toLowerCase function cb s =
      (s.delivered.map (·.2)).flatMap (OffsetCommitEvent.notices err2str toLowerCase function) := by
  rw [heard, delivered, List.map_map, List.flatMap_map]
  refine List.flatMap_congr fun d member => ?_
  simp [registered d member, Dispatcher.dispatch]

end OffsetCommits
end

def commitResult (offset : Int64) : OffsetCommitEvent :=
  .ofPartitions ErrorCode.errNoError [{ topic := "t", partition := 0, offset }]

/-- The connection ends before the first result is flushed, and the next one has its own. -/
def lateCommit : List (QueueAction OffsetCommitEvent) :=
  [.activate, .raise (commitResult 7), .execute, .deactivate, .activate, .raise (commitResult 9), .execute,
    .asyncMessage, .check, .swap, .dispatch, .dispatch, .finish]

end NodeRdkafka
