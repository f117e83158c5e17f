import NodeRdkafka.Rebalance
import NodeRdkafka.Lib.Mailbox

namespace NodeRdkafka
open Transition

/-- A partition as librdkafka raises it: its topic is a C string. -/
structure EventTopicPartition.Raised (tp : EventTopicPartition) : Prop where
  topic : tp.topic ≠ ""
  whole : '\x00' ∉ tp.topic.toList
  partition : 0 ≤ tp.partition

/-- An assignment or a revocation of such partitions. -/
structure RebalanceEvent.Raised (e : RebalanceEvent) : Prop where
  err : e.err = ErrorCode.errAssignPartitions ∨ e.err = ErrorCode.errRevokePartitions
  partitions : ∀ tp ∈ e.partitions, tp.Raised

/-- The offset that librdkafka gets back: what a number holds of one that is
not negative, and OFFSET_STORED for any other. -/
def submittedOffset (offset : Int64) : Int64 :=
  if 0 ≤ offset then (Number.ofInt offset.toInt).toInt64 else Topic.offsetStored

def EventTopicPartition.submitted (tp : EventTopicPartition) : TopicPartition :=
  { topic := tp.topic, partition := tp.partition, offset := submittedOffset tp.offset }

inductive RebalanceProtocol
  | eager
  | cooperative
  deriving DecidableEq

def RebalanceProtocol.name : RebalanceProtocol → String
  | .eager => "EAGER"
  | .cooperative => "COOPERATIVE"

/-- The call that is due for an event. -/
def RebalanceEvent.due (protocol : RebalanceProtocol) (e : RebalanceEvent) : AssignmentCall :=
  let partitions := e.partitions.map EventTopicPartition.submitted
  if e.err = ErrorCode.errAssignPartitions then
    match protocol with
    | .eager => .assign partitions
    | .cooperative => .incrementalAssign partitions
  else
    match protocol with
    | .eager => .unassign
    | .cooperative => .incrementalUnassign partitions

theorem submittedOffset_exact {offset : Int64} (natural : 0 ≤ offset) (small : offset.toInt < 2 ^ 53) :
    submittedOffset offset = offset := by
  have lower : (0 : Int64).toInt ≤ offset.toInt := Int64.le_iff_toInt_le.mp natural
  have zero : (0 : Int64).toInt = 0 := rfl
  rw [submittedOffset, if_pos natural]
  exact Number.toInt64_ofInt (by omega)

namespace EventTopicPartition
variable {toLowerCase : String → String} {toText : JsValue → String} {tp : EventTopicPartition}

/-- The number that an instance of the class has for its offset. -/
def instanceOffset (tp : EventTopicPartition) : JsValue :=
  nanNumber (if 0 ≤ tp.offset then tp.offset.toInt else Topic.offsetStored.toInt)

def jsInstance (tp : EventTopicPartition) : JsValue :=
  .object [("topic", .string tp.topic), ("partition", nanNumber tp.partition.toInt),
    ("offset", tp.instanceOffset)]

/-- The way through JavaScript. -/
theorem create_toV8Value (raised : tp.Raised) :
    TopicPartitionClass.create toLowerCase tp.toV8Value = .ok tp.jsInstance := by
  have topic : cString tp.topic = tp.topic := cString_eq_iff.mpr raised.whole
  have named : tp.topic.isEmpty = false := by simpa using raised.topic
  by_cases natural : 0 ≤ tp.offset <;>
    simp [TopicPartitionClass.create, toV8Value, natural, topic, JsValue.truthy, JsValue.get,
      JsValue.get?, List.lookup_cons, named, TopicPartitionClass.offsetOf, nanNumber, jsInstance,
      instanceOffset, bind, Except.bind]

/-- The way into native code. -/
theorem fromAssignment_jsInstance (raised : tp.Raised) :
    Conversion.TopicPartition.fromAssignment toText tp.jsInstance = some tp.submitted := by
  have topic : cString tp.topic = tp.topic := cString_eq_iff.mpr raised.whole
  have named : tp.topic.isEmpty = false := by simpa using raised.topic
  have natural : ¬tp.partition.toInt64 < 0 := by
    have lower : (0 : Int32).toInt ≤ tp.partition.toInt := Int32.le_iff_toInt_le.mp raised.partition
    have zero : (0 : Int32).toInt = 0 := rfl
    rw [Int64.lt_iff_toInt_lt, Int32.toInt_toInt64]
    have zero64 : (0 : Int64).toInt = 0 := rfl
    omega
  have offset : Conversion.getInt64 tp.jsInstance "offset" Topic.offsetInvalid =
      submittedOffset tp.offset := by
    have stored : (Number.ofInt Topic.offsetStored.toInt).toInt64 = Topic.offsetStored :=
      Number.toInt64_ofInt (by decide)
    by_cases natural : 0 ≤ tp.offset <;>
      simp [Conversion.getInt64, jsInstance, JsValue.get?, List.lookup_cons, instanceOffset, nanNumber,
        submittedOffset, natural, stored]
  have partition : Conversion.getInt64 tp.jsInstance "partition" (-1) = tp.partition.toInt64 := by
    simp [Conversion.getInt64, jsInstance, JsValue.get?, List.lookup_cons, nanNumber,
      Conversion.TopicPartition.toInt64_ofInt32]
  have text : Conversion.getString toText tp.jsInstance "topic" "" = tp.topic := by
    simp [Conversion.getString, jsInstance, JsValue.get?, topic]
  simp [Conversion.TopicPartition.fromAssignment, partition, text, named, natural, offset, submitted]

end EventTopicPartition

namespace RebalanceConsumer
section
variable {σ : Type} {lib : Librdkafka σ} {err2str : ErrorCode → String}
variable {toLowerCase : String → String} {toText : JsValue → String}

theorem map_toV8Array {partitions : List EventTopicPartition}
    (raised : ∀ tp ∈ partitions, tp.Raised) :
    TopicPartitionClass.map toLowerCase (topicPartitionListToV8Array partitions) =
      .ok (partitions.map EventTopicPartition.jsInstance) := by
  induction partitions with
  | nil => rfl
  | cons tp rest ih =>
    have first : TopicPartitionClass.create toLowerCase tp.toV8Value = .ok tp.jsInstance :=
      EventTopicPartition.create_toV8Value (raised tp List.mem_cons_self)
    have later := ih fun tp member => raised tp (List.mem_cons_of_mem _ member)
    simp only [TopicPartitionClass.map, topicPartitionListToV8Array] at later ⊢
    rw [List.map_cons, List.mapM_cons, first, later]
    rfl

theorem fromAssignments_instances {partitions : List EventTopicPartition}
    (raised : ∀ tp ∈ partitions, tp.Raised) :
    Conversion.TopicPartition.fromAssignments toText (partitions.map EventTopicPartition.jsInstance) =
      .ok (partitions.map EventTopicPartition.submitted) := by
  have objects : (partitions.map EventTopicPartition.jsInstance).all JsValue.isObject = true := by
    simp [List.all_eq_true, EventTopicPartition.jsInstance, JsValue.isObject]
  have parsed : (partitions.map EventTopicPartition.jsInstance).filterMap
      (Conversion.TopicPartition.fromAssignment toText) = partitions.map EventTopicPartition.submitted := by
    rw [List.filterMap_map, ← List.filterMap_eq_map]
    exact List.filterMap_congr fun tp member =>
      EventTopicPartition.fromAssignment_jsInstance (raised tp member)
  rw [Conversion.TopicPartition.fromAssignments, if_pos objects, parsed]

/-- A list that was raised arrives as it was, but for its offsets. -/
theorem nodeCallWith_raised (c : RebalanceConsumer σ) (action : List TopicPartition → AssignmentCall)
    {partitions : List EventTopicPartition} (raised : ∀ tp ∈ partitions, tp.Raised) :
    c.nodeCallWith lib err2str toLowerCase toText action (topicPartitionListToV8Array partitions) =
      c.nodeCall lib err2str (action (partitions.map EventTopicPartition.submitted)) := by
  simp only [nodeCallWith, map_toV8Array raised, fromAssignments_instances raised]

/-- The consumer after a call that reached librdkafka, whatever it emits. -/
structure Called (lib : Librdkafka σ) (before : RebalanceConsumer σ) (action : AssignmentCall)
    (after : RebalanceConsumer σ) : Prop where
  native : after.native = (before.native.call lib action).1
  calls : after.calls = before.calls ++ [(action, before.native.accepts lib action)]

theorem nodeCall_called (c : RebalanceConsumer σ) (action : AssignmentCall)
    (connected : c.native.isConnected = true) :
    Called lib c action (c.nodeCall lib err2str action).1 := by
  have reaches : c.native.reaches action = true := by simp [KafkaConsumer.reaches, connected]
  simp only [nodeCall, reaches, if_true]
  split
  · exact ⟨rfl, rfl⟩
  · split <;> exact ⟨rfl, rfl⟩

/-- The answer to an event is the call that is due. -/
theorem respond_due {c : RebalanceConsumer σ} {protocol : RebalanceProtocol} {e : RebalanceEvent}
    (connected : c.native.isConnected = true)
    (spoken : c.native.rebalanceProtocol lib = protocol.name) (raised : e.Raised) :
    c.respond lib err2str toLowerCase toText e.err (topicPartitionListToV8Array e.partitions) =
      c.nodeCall lib err2str (e.due protocol) := by
  obtain ⟨err, partitions⟩ := e
  have open_ : (!c.native.isClosing && !c.native.isConnected) = false := by simp [connected]
  have apart : ErrorCode.errRevokePartitions ≠ ErrorCode.errAssignPartitions := by decide
  rcases raised.err with rfl | rfl
  · cases protocol with
    | eager =>
      have eager : RebalanceProtocol.eager.name ≠ "COOPERATIVE" := by decide
      simp only [respond, spoken, eager, if_true, if_false]
      exact nodeCallWith_raised c .assign raised.partitions
    | cooperative =>
      simp only [respond, spoken, RebalanceProtocol.name, if_true]
      exact nodeCallWith_raised c .incrementalAssign raised.partitions
  · cases protocol with
    | eager =>
      have eager : RebalanceProtocol.eager.name ≠ "COOPERATIVE" := by decide
      simp only [respond, spoken, apart, eager, if_true, if_false, unassign, open_, RebalanceEvent.due,
        Bool.false_eq_true]
    | cooperative =>
      simp only [respond, spoken, apart, RebalanceProtocol.name, if_true, if_false]
      exact nodeCallWith_raised c .incrementalUnassign raised.partitions

theorem rebalanceCb_called {c : RebalanceConsumer σ} {protocol : RebalanceProtocol} {e : RebalanceEvent}
    (connected : c.native.isConnected = true)
    (spoken : c.native.rebalanceProtocol lib = protocol.name) (raised : e.Raised) :
    Called lib c (e.due protocol)
      (c.rebalanceCb lib err2str toLowerCase toText e.err (topicPartitionListToV8Array e.partitions)) := by
  obtain ⟨told, tells⟩ : ∃ told, told = { c with emitted := c.emitted ++ [RebalanceEmit.rebalance
      (LibrdKafkaError.create err2str toLowerCase (.number e.err))
      (topicPartitionListToV8Array e.partitions)] } := ⟨_, rfl⟩
  have same : told.native = c.native ∧ told.calls = c.calls := by rw [tells]; exact ⟨rfl, rfl⟩
  rw [← same.1] at connected spoken
  have atNative : Called lib told (e.due protocol) (told.nodeCall lib err2str (e.due protocol)).1 :=
    nodeCall_called told (e.due protocol) connected
  have called : Called lib c (e.due protocol) (told.nodeCall lib err2str (e.due protocol)).1 := by
    obtain ⟨native, calls⟩ := atNative
    rw [same.1] at native calls
    rw [same.2] at calls
    exact ⟨native, calls⟩
  have answer : told.respond lib err2str toLowerCase toText
      (LibrdKafkaError.create err2str toLowerCase (.number e.err)).code
      (topicPartitionListToV8Array e.partitions) = told.nodeCall lib err2str (e.due protocol) :=
    respond_due connected spoken raised
  simp only [rebalanceCb, ← tells]
  rw [answer]
  split
  · rename_i returned
    rwa [returned] at called
  · rename_i threw
    rw [threw] at called
    split
    · exact ⟨called.native, called.calls⟩
    · exact called

end
end RebalanceConsumer

namespace RebalanceState
section
variable {σ : Type} {lib : Librdkafka σ} {err2str : ErrorCode → String}
variable {toLowerCase : String → String} {toText : JsValue → String}
variable {assigned : σ → Multiset PartitionKey} {protocol : RebalanceProtocol}
variable {start : Multiset PartitionKey} {s t : RebalanceState σ}

/-- The events taken by the running Flush and not yet dispatched. -/
def held (s : RebalanceState σ) : List RebalanceEvent :=
  match s.flush with
  | .dispatching remaining => remaining
  | _ => []

def receiver (s : RebalanceState σ) : Mailbox.Receiver :=
  match s.flush with
  | .idle => .idle
  | .entered | .swapping => .woken
  | .dispatching _ => .draining false

/-- The dispatcher seen as a mailbox whose receiver is the main thread. -/
def mailbox (s : RebalanceState σ) : Mailbox.State RebalanceEvent :=
  { posted := s.added, delivered := s.dispatched, held := s.held, queue := s.events,
    owed := s.owedExecutes, pending := s.wakeup, receiver := s.receiver }

/-- A Flush that finds no events is one that takes all of them. -/
theorem check_refines (run : s.step lib err2str toLowerCase toText .check = some t) :
    ∃ labels, Reach Mailbox.step s.mailbox labels t.mailbox := by
  simp only [step, Option.ite_none_right_eq_some, Option.some.injEq] at run
  obtain ⟨entered, rfl⟩ := run
  by_cases none_ : s.events = []
  · refine ⟨[.take 0, .finish], reach_iff_replay.mpr ?_⟩
    simp [replay, Mailbox.step, mailbox, receiver, held, entered, none_]
  · have some_ : ¬s.events.length < 1 := by simpa using none_
    exact Reach.stutter (by simp [mailbox, receiver, held, entered, some_])

/-- Every step is a run of the mailbox. -/
theorem step_refines (listening : s.dispatcher.async = true) {action : RebalanceAction}
    (run : s.step lib err2str toLowerCase toText action = some t) :
    ∃ labels, Reach Mailbox.step s.mailbox labels t.mailbox := by
  cases action with
  | rebalanceCb err partitions =>
    cases Option.some.inj run
    exact Reach.single (.post (.ofPartitions err partitions) true) rfl
  | execute =>
    simp only [step, Option.ite_none_right_eq_some, Option.some.injEq] at run
    obtain ⟨_, rfl⟩ := run
    exact Reach.single .signal (by simp [Mailbox.step, mailbox, receiver, held, listening])
  | asyncMessage =>
    simp only [step, Option.ite_none_right_eq_some, Option.some.injEq] at run
    obtain ⟨⟨wakeup, idle⟩, rfl⟩ := run
    exact Reach.single .wake (by simp [Mailbox.step, mailbox, receiver, held, wakeup, idle])
  | check => exact check_refines run
  | swap =>
    simp only [step, Option.ite_none_right_eq_some, Option.some.injEq] at run
    obtain ⟨swapping, rfl⟩ := run
    exact Reach.single (.take s.events.length)
      (by simp [Mailbox.step, mailbox, receiver, held, swapping])
  | dispatch =>
    simp only [step] at run
    split at run
    · rename_i event remaining dispatching
      cases Option.some.inj run
      exact Reach.single .deliver (by simp [Mailbox.step, mailbox, receiver, held, dispatching])
    · simp at run
  | finish =>
    simp only [step, Option.ite_none_right_eq_some, Option.some.injEq] at run
    obtain ⟨dispatching, rfl⟩ := run
    exact Reach.single .finish (by simp [Mailbox.step, mailbox, receiver, held, dispatching])

end
end RebalanceState

/-- What the consumer has made of the events dispatched to it: a call for
each, and, when these are accepted, the assignment they ask for. -/
structure RebalanceConsumer.Answers {σ : Type} (assigned : σ → Multiset PartitionKey)
    (protocol : RebalanceProtocol) (start : Multiset PartitionKey) (events : List RebalanceEvent)
    (c : RebalanceConsumer σ) : Prop where
  connected : c.native.isConnected = true
  mirrors : c.native.Mirrors assigned
  calls : c.calls.map Prod.fst = events.map (RebalanceEvent.due protocol)
  assignment : (∀ call ∈ c.calls, call.2 = true) →
    partitionKeys c.native.mPartitions =
      (events.map (RebalanceEvent.due protocol)).foldl AssignmentCall.apply start

namespace RebalanceConsumer
section
variable {σ : Type} {lib : Librdkafka σ} {assigned : σ → Multiset PartitionKey}
variable {protocol : RebalanceProtocol} {start : Multiset PartitionKey}

theorem Answers.called {events : List RebalanceEvent} {c after : RebalanceConsumer σ}
    (documented : lib.Assigns assigned) (answers : c.Answers assigned protocol start events)
    {e : RebalanceEvent} (called : Called lib c (e.due protocol) after) :
    after.Answers assigned protocol start (events ++ [e]) := by
  obtain ⟨client, has, mirror⟩ := answers.mirrors
  obtain ⟨client', has', closing, accepted, _⟩ := KafkaConsumer.call_spec documented has (e.due protocol)
  refine ⟨?_, ?_, ?_, fun all => ?_⟩
  · have open_ := answers.connected
    simp only [KafkaConsumer.isConnected, has, Option.isSome_some, Bool.and_true] at open_
    simp only [called.native, KafkaConsumer.isConnected, closing, has', Option.isSome_some,
      Bool.and_true, open_]
  · rw [called.native]
    exact answers.mirrors.call documented _
  · rw [called.calls, List.map_append, answers.calls, List.map_append]
    rfl
  · rw [called.calls] at all
    have taken := accepted (all _ (List.mem_append_right _ List.mem_cons_self))
    have before := answers.assignment fun call member => all call (List.mem_append_left _ member)
    rw [called.native, taken.2 mirror, taken.1, ← mirror, before, List.map_append, List.foldl_append]
    rfl

end
end RebalanceConsumer

namespace RebalanceState
section
variable {σ : Type} {lib : Librdkafka σ} {err2str : ErrorCode → String}
variable {toLowerCase : String → String} {toText : JsValue → String}
variable {assigned : σ → Multiset PartitionKey} {protocol : RebalanceProtocol}
variable {start : Multiset PartitionKey} {s t : RebalanceState σ}

/-- What every run keeps. -/
structure Kept (assigned : σ → Multiset PartitionKey) (protocol : RebalanceProtocol)
    (start : Multiset PartitionKey) (s : RebalanceState σ) : Prop where
  mailbox : s.mailbox.Sound
  listening : s.dispatcher.async = true
  registered : ∃ cb, s.dispatcher.callbacks = [cb]
  answers : (∀ e ∈ s.added, e.Raised) → s.consumer.Answers assigned protocol start s.dispatched

/-- Only dispatch touches the consumer. -/
theorem step_consumer {action : RebalanceAction}
    (run : s.step lib err2str toLowerCase toText action = some t) :
    t.dispatcher = s.dispatcher ∧ (∃ more, t.added = s.added ++ more) ∧
      ((t.consumer = s.consumer ∧ t.dispatched = s.dispatched) ∨
        ∃ e remaining, s.flush = .dispatching (e :: remaining) ∧ t.dispatched = s.dispatched ++ [e] ∧
          t.consumer = s.dispatchEvent lib err2str toLowerCase toText e) := by
  cases action with
  | rebalanceCb err partitions =>
    cases Option.some.inj run
    exact ⟨rfl, ⟨_, rfl⟩, Or.inl ⟨rfl, rfl⟩⟩
  | dispatch =>
    simp only [step] at run
    split at run
    · rename_i event remaining dispatching
      cases Option.some.inj run
      exact ⟨rfl, ⟨[], by simp⟩, Or.inr ⟨event, remaining, dispatching, rfl, rfl⟩⟩
    · simp at run
  | execute | asyncMessage | check | swap | finish =>
    simp only [step, Option.ite_none_right_eq_some, Option.some.injEq] at run
    obtain ⟨_, rfl⟩ := run
    exact ⟨rfl, ⟨[], by simp⟩, Or.inl ⟨rfl, rfl⟩⟩

theorem dispatchEvent_called (kept : s.Kept assigned protocol start)
    (fixed : ∀ client, lib.rebalanceProtocol client = protocol.name) {e : RebalanceEvent}
    (raised : e.Raised) (answers : s.consumer.Answers assigned protocol start s.dispatched) :
    s.consumer.Called lib (e.due protocol) (s.dispatchEvent lib err2str toLowerCase toText e) := by
  obtain ⟨cb, registered⟩ := kept.registered
  obtain ⟨client, has, _⟩ := answers.mirrors
  have spoken : s.consumer.native.rebalanceProtocol lib = protocol.name := by
    simp [KafkaConsumer.rebalanceProtocol, answers.connected, has, fixed]
  have failed : e.err ≠ ErrorCode.errNoError := by
    rcases raised.err with assigns | revokes
    · rw [assigns]
      decide
    · rw [revokes]
      decide
  simp only [dispatchEvent, failed, if_false, Dispatcher.dispatch, registered, List.map_cons, List.map_nil,
    List.foldl_cons, List.foldl_nil]
  exact RebalanceConsumer.rebalanceCb_called answers.connected spoken raised

theorem Kept.step (documented : lib.Assigns assigned)
    (fixed : ∀ client, lib.rebalanceProtocol client = protocol.name)
    (kept : s.Kept assigned protocol start) {action : RebalanceAction}
    (run : s.step lib err2str toLowerCase toText action = some t) : t.Kept assigned protocol start := by
  obtain ⟨_, simulated⟩ := step_refines kept.listening run
  obtain ⟨dispatcher, ⟨more, added⟩, changes⟩ := step_consumer run
  refine ⟨simulated.invariant Mailbox.State.Sound kept.mailbox Mailbox.sound_step,
    by rw [dispatcher, kept.listening], by rw [dispatcher]; exact kept.registered, fun raised => ?_⟩
  rw [added] at raised
  have before : ∀ e ∈ s.added, e.Raised := fun e member => raised e (List.mem_append_left _ member)
  have answers := kept.answers before
  rcases changes with ⟨consumer, dispatched⟩ | ⟨e, remaining, dispatching, dispatched, consumer⟩
  · rwa [consumer, dispatched]
  · have ordered : s.dispatched ++ (e :: remaining) ++ s.events = s.added := by
      have holds : s.held = e :: remaining := by simp [held, dispatching]
      rw [← holds]
      exact kept.mailbox.inOrder
    have member : e ∈ s.added := by simp [← ordered]
    rw [consumer, dispatched]
    exact answers.called documented (dispatchEvent_called kept fixed (before e member) answers)

end
end RebalanceState

/-- No rebalance event is left waiting, and once none is, librdkafka has got
the call that is due for each, in order; when it accepts them, the assignment
of the consumer and of librdkafka is what the events make of the first one. -/
theorem rebalance_calls {σ : Type} {lib : Librdkafka σ} {assigned : σ → Multiset PartitionKey}
    (documented : lib.Assigns assigned) {protocol : RebalanceProtocol}
    (fixed : ∀ client, lib.rebalanceProtocol client = protocol.name)
    {err2str : ErrorCode → String} {toLowerCase : String → String} {toText : JsValue → String}
    {cb : JsFunction} {native : KafkaConsumer σ} (connected : native.isConnected = true)
    (mirrors : native.Mirrors assigned) {trace : List RebalanceAction} {s : RebalanceState σ}
    (reach : Reach (RebalanceState.step lib err2str toLowerCase toText) (.connected cb native) trace s)
    (raised : ∀ e ∈ s.added, e.Raised) (accepted : ∀ call ∈ s.consumer.calls, call.2 = true)
    (idle : s.flush = .idle) :
    (s.wakeup = false → s.owedExecutes = 0 → s.events = []) ∧
      (s.events = [] →
        s.consumer.calls.map Prod.fst = s.added.map (RebalanceEvent.due protocol) ∧
        ∃ client, s.consumer.native.mClient = some client ∧
          partitionKeys s.consumer.native.mPartitions = assigned client ∧
          assigned client = (s.added.map (RebalanceEvent.due protocol)).foldl AssignmentCall.apply
            (partitionKeys native.mPartitions)) ∧
      ∀ offset : Int64, 0 ≤ offset → offset.toInt < 2 ^ 53 → submittedOffset offset = offset := by
  have base : (RebalanceState.connected cb native).Kept assigned protocol
      (partitionKeys native.mPartitions) :=
    ⟨Mailbox.empty_sound, rfl, ⟨cb, rfl⟩, fun _ => ⟨connected, mirrors, rfl, fun _ => rfl⟩⟩
  have kept := reach.invariant (RebalanceState.Kept assigned protocol (partitionKeys native.mPartitions))
    base fun kept run => kept.step documented fixed run
  have asleep : s.receiver = .idle := by simp [RebalanceState.receiver, idle]
  refine ⟨fun silent settled => (kept.mailbox.quiescent asleep silent settled).1, fun drained => ?_,
    fun _ => submittedOffset_exact⟩
  have dispatched : s.dispatched = s.added := by
    have inOrder : s.dispatched ++ s.held ++ s.events = s.added := kept.mailbox.inOrder
    simpa [RebalanceState.held, idle, drained] using inOrder
  have answers := kept.answers raised
  rw [dispatched] at answers
  obtain ⟨client, has, mirror⟩ := answers.mirrors
  exact ⟨answers.calls, client, has, mirror, by rw [← mirror, answers.assignment accepted]⟩

def raisedPartition (offset : Int64) : TopicPartition := { topic := "t", partition := 0, offset }

/-- A revocation that is raised while an assignment is dispatched. -/
def overlappingRebalances : List RebalanceAction :=
  [.rebalanceCb ErrorCode.errAssignPartitions [raisedPartition 7], .execute, .asyncMessage, .check,
   .swap, .rebalanceCb ErrorCode.errRevokePartitions [raisedPartition (-1001)], .dispatch, .execute,
   .finish, .asyncMessage, .check, .swap, .dispatch, .finish]

def answeredEvents : List RebalanceEvent :=
  [.ofPartitions ErrorCode.errAssignPartitions [raisedPartition 7],
   .ofPartitions ErrorCode.errRevokePartitions [raisedPartition (-1001)]]

theorem answeredEvents_raised : ∀ e ∈ answeredEvents, e.Raised := by
  have raised (offset : Int64) : ∀ tp ∈ (RebalanceEvent.ofPartitions ErrorCode.errAssignPartitions
      [raisedPartition offset]).partitions, tp.Raised := by
    intro tp member
    cases List.mem_singleton.mp member
    have named : "t" ≠ "" := by decide
    have whole : '\x00' ∉ "t".toList := by decide
    have natural : (0 : Int32) ≤ 0 := by decide
    exact ⟨named, whole, natural⟩
  intro e member
  simp only [answeredEvents, List.mem_cons, List.not_mem_nil, or_false] at member
  rcases member with rfl | rfl
  · exact ⟨Or.inl rfl, raised 7⟩
  · exact ⟨Or.inr rfl, raised (-1001)⟩

theorem rebalance_calls_overlapping :
    ∃ s, Reach (RebalanceState.step (tableLibrdkafka "COOPERATIVE") (fun _ => "") id fun _ => "")
        (.connected 0 { mClient := some [] }) overlappingRebalances s ∧
      s.consumer.calls.map Prod.fst = [.incrementalAssign [raisedPartition 7],
        .incrementalUnassign [raisedPartition Topic.offsetStored]] ∧
      s.consumer.native.mClient = some [] := by
  obtain ⟨s, run, facts⟩ : ∃ s,
      replay (RebalanceState.step (tableLibrdkafka "COOPERATIVE") (fun _ => "") id fun _ => "")
          (.connected 0 { mClient := some [] }) overlappingRebalances = some s ∧
        (s.added, s.consumer.calls.map Prod.snd, s.flush, s.events) =
          (answeredEvents, [true, true], .idle, []) :=
    Option.map_eq_some_iff.mp (by decide +kernel)
  simp only [Prod.mk.injEq] at facts
  obtain ⟨added, accepted, idle, drained⟩ := facts
  have all : ∀ call ∈ s.consumer.calls, call.2 = true := by
    intro call member
    have answer := List.mem_map_of_mem (f := Prod.snd) member
    simpa [accepted] using answer
  have connected : (({ mClient := some [] } : KafkaConsumer (List TopicPartition))).Mirrors
      partitionKeys := ⟨[], rfl, rfl⟩
  have fixed : ∀ client, (tableLibrdkafka "COOPERATIVE").rebalanceProtocol client =
      RebalanceProtocol.cooperative.name := fun _ => rfl
  have answers := (rebalance_calls (tableLibrdkafka_assigns "COOPERATIVE") fixed rfl connected
    (reach_iff_replay.mpr run) (by rw [added]; exact answeredEvents_raised) all idle).2.1 drained
  obtain ⟨calls, client, has, _, assigned⟩ := answers
  have emptied : client = [] := by
    rw [added] at assigned
    have none_ : partitionKeys client = 0 := assigned.trans (by decide +kernel)
    simpa [partitionKeys] using none_
  have due : answeredEvents.map (RebalanceEvent.due .cooperative) =
      [.incrementalAssign [raisedPartition 7],
       .incrementalUnassign [raisedPartition Topic.offsetStored]] := by decide +kernel
  exact ⟨s, reach_iff_replay.mpr run, by rw [calls, added, due], by rw [has, emptied]⟩

/-- An offset that no number holds is not the one that librdkafka gets. -/
theorem rebalance_rounds_offset :
    ∃ s, Reach (RebalanceState.step (tableLibrdkafka "EAGER") (fun _ => "") id fun _ => "")
        (.connected 0 { mClient := some [] })
        [.rebalanceCb ErrorCode.errAssignPartitions [raisedPartition 9007199254740993], .execute,
         .asyncMessage, .check, .swap, .dispatch, .finish] s ∧
      s.events = [] ∧ s.consumer.calls = [(.assign [raisedPartition 9007199254740992], true)] := by
  obtain ⟨s, run, facts⟩ : ∃ s,
      replay (RebalanceState.step (tableLibrdkafka "EAGER") (fun _ => "") id fun _ => "")
          (.connected 0 { mClient := some [] })
          [.rebalanceCb ErrorCode.errAssignPartitions [raisedPartition 9007199254740993], .execute,
           .asyncMessage, .check, .swap, .dispatch, .finish] = some s ∧
        (s.events, s.consumer.calls) = ([], [(.assign [raisedPartition 9007199254740992], true)]) :=
    Option.map_eq_some_iff.mp (by decide +kernel)
  simp only [Prod.mk.injEq] at facts
  exact ⟨s, reach_iff_replay.mpr run, facts⟩

end NodeRdkafka
