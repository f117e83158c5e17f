import NodeRdkafka.RebalanceOrder

namespace NodeRdkafka

namespace RebalanceConsumer
variable {σ : Type} (lib : Librdkafka σ) (err2str : ErrorCode → String)
variable (toLowerCase : String → String) (toText : JsValue → String)

/-- The answer of rebalance_cb to an event is the call that is due to it in a
group whose protocol is COOPERATIVE. -/
def AnswersIncrementally (c : RebalanceConsumer σ) (e : RebalanceEvent) : Prop :=
  c.respond lib err2str toLowerCase toText e.err (topicPartitionListToV8Array e.partitions) =
    c.nodeCall lib err2str (e.due .cooperative)

variable {c : RebalanceConsumer σ} {e : RebalanceEvent}

theorem closing_offline (closing : c.native.isClosing = true) : c.native.isConnected = false := by
  simp only [KafkaConsumer.isClosing, Bool.and_eq_true] at closing
  simp [KafkaConsumer.isConnected, closing.2]

/-- A consumer that is closing answers every event as in a group without a protocol. -/
theorem respond_closing (closing : c.native.isClosing = true) (raised : e.Raised) :
    c.respond lib err2str toLowerCase toText e.err (topicPartitionListToV8Array e.partitions) =
      c.nodeCall lib err2str (e.due .eager) := by
  obtain ⟨err, partitions⟩ := e
  have unspoken : c.native.rebalanceProtocol lib = "NONE" := by
    simp [KafkaConsumer.rebalanceProtocol, closing_offline closing]
  have eager : "NONE" ≠ "COOPERATIVE" := by decide
  have apart : ErrorCode.errRevokePartitions ≠ ErrorCode.errAssignPartitions := by decide
  rcases raised.err with rfl | rfl
  · simp only [respond, unspoken, eager, if_true, if_false]
    exact nodeCallWith_raised c .assign raised.partitions
  · simp only [respond, unspoken, eager, apart, if_true, if_false, unassign, closing, Bool.not_true,
      Bool.false_and, Bool.false_eq_true, RebalanceEvent.due]

variable {lib err2str}

/-- While the consumer is closing both calls are refused, each with an exception of its own. -/
theorem assign_closing_ne (closing : c.native.isClosing = true) (partitions : List TopicPartition) :
    c.nodeCall lib err2str (.assign partitions) ≠ c.nodeCall lib err2str (.incrementalAssign partitions) := by
  intro same
  have offline := closing_offline closing
  have failed : ErrorCode.errState ≠ ErrorCode.errNoError := by decide
  have assigned := c.native.call_refused lib (.assign partitions)
    (by simp [KafkaConsumer.reaches, offline, AssignmentCall.whileClosing])
  have incremented := c.native.call_refused lib (.incrementalAssign partitions)
    (by simp [KafkaConsumer.reaches, offline, AssignmentCall.whileClosing])
  have thrown := congrArg Prod.snd same
  simp only [nodeCall, assigned, incremented, failed, if_false] at thrown
  cases thrown

/-- Both of these go through. -/
theorem unassign_closing_ne (closing : c.native.isClosing = true) (partitions : List TopicPartition) :
    c.nodeCall lib err2str .unassign ≠ c.nodeCall lib err2str (.incrementalUnassign partitions) := by
  intro same
  have calls := congrArg (fun outcome => outcome.1.calls) same
  have recorded (action : AssignmentCall) (late : action.whileClosing = true) :
      (c.nodeCall lib err2str action).1.calls = c.calls ++ [(action, c.native.accepts lib action)] := by
    have reaches : c.native.reaches action = true := by simp [KafkaConsumer.reaches, closing, late]
    simp only [nodeCall, reaches, if_true]
    split
    · rfl
    · split <;> rfl
  simp only [recorded .unassign rfl, recorded (.incrementalUnassign partitions) rfl] at calls
  simp at calls

end RebalanceConsumer

/-- In a group whose protocol is COOPERATIVE, rebalance_cb answers an event
with the incremental call if and only if the consumer is not closing. -/
theorem answers_incrementally_iff {σ : Type} {lib : Librdkafka σ} (err2str : ErrorCode → String)
    (toLowerCase : String → String) (toText : JsValue → String) {c : RebalanceConsumer σ} {client : σ}
    {e : RebalanceEvent} (has : c.native.mClient = some client)
    (spoken : lib.rebalanceProtocol client = "COOPERATIVE") (raised : e.Raised) :
    c.AnswersIncrementally lib err2str toLowerCase toText e ↔ c.native.mIsClosing = false := by
  rw [RebalanceConsumer.AnswersIncrementally]
  cases state : c.native.mIsClosing with
  | false =>
    have connected : c.native.isConnected = true := by simp [KafkaConsumer.isConnected, has, state]
    have protocol : c.native.rebalanceProtocol lib = RebalanceProtocol.cooperative.name := by
      simp only [KafkaConsumer.rebalanceProtocol, connected, has]
      exact spoken
    exact ⟨fun _ => rfl, fun _ => RebalanceConsumer.respond_due connected protocol raised⟩
  | true =>
    have closing : c.native.isClosing = true := by simp [KafkaConsumer.isClosing, has, state]
    refine ⟨fun answers => ?_, fun open_ => by cases open_⟩
    rw [RebalanceConsumer.respond_closing lib err2str toLowerCase toText closing raised] at answers
    rcases raised.err with assigns | revokes
    · simp only [RebalanceEvent.due, assigns, if_true] at answers
      exact absurd answers (RebalanceConsumer.assign_closing_ne closing _)
    · have apart : ErrorCode.errRevokePartitions ≠ ErrorCode.errAssignPartitions := by decide
      simp only [RebalanceEvent.due, revokes, apart, if_false] at answers
      exact absurd answers (RebalanceConsumer.unassign_closing_ne closing _)

/-- A revocation of one partition, and the consumer that has it assigned. -/
def revocation : RebalanceEvent := .ofPartitions ErrorCode.errRevokePartitions [raisedPartition 7]

theorem revocation_raised : revocation.Raised := by
  refine ⟨Or.inr rfl, fun tp member => ?_⟩
  cases List.mem_singleton.mp member
  exact ⟨by decide, by decide, by decide⟩

def assignedConsumer (mIsClosing : Bool) : RebalanceConsumer (List TopicPartition) :=
  { native := { mClient := some [raisedPartition 7], mIsClosing, mPartitions := [raisedPartition 7] } }

theorem answers_incrementally_connected :
    (assignedConsumer false).AnswersIncrementally (tableLibrdkafka "COOPERATIVE") (fun _ => "") id (fun _ => "")
      revocation :=
  (answers_incrementally_iff (fun _ => "") id (fun _ => "") rfl rfl revocation_raised).mpr rfl

/-- The same revocation, raised by the close of the consumer: the partition is
unassigned with all others. -/
theorem closing_unassigns :
    ((assignedConsumer true).rebalanceCb (tableLibrdkafka "COOPERATIVE") (fun _ => "") id (fun _ => "")
        revocation.err (topicPartitionListToV8Array revocation.partitions)).calls = [(.unassign, true)] ∧
      ¬ (assignedConsumer true).AnswersIncrementally (tableLibrdkafka "COOPERATIVE") (fun _ => "") id
        (fun _ => "") revocation := by
  refine ⟨by decide +kernel, fun answers => ?_⟩
  have unassigned := RebalanceConsumer.respond_closing (tableLibrdkafka "COOPERATIVE") (fun _ => "") id
    (fun _ => "") (c := assignedConsumer true) rfl revocation_raised
  exact RebalanceConsumer.unassign_closing_ne rfl _ (unassigned.symm.trans answers)

end NodeRdkafka
