import NodeRdkafka.KafkaConsumer
import NodeRdkafka.Lib.Reach

namespace NodeRdkafka
open Transition

/-- The calls that change or read the assignment. -/
inductive AssignmentCall
  | assign (partitions : List TopicPartition)
  | unassign
  | incrementalAssign (partitions : List TopicPartition)
  | incrementalUnassign (partitions : List TopicPartition)
  | refreshAssignments
  deriving DecidableEq

/-- Whether librdkafka accepts the call on a handle in this state. -/
def Librdkafka.accepts {σ : Type} (lib : Librdkafka σ) (client : σ) : AssignmentCall → Bool
  | .assign partitions => (lib.assign client partitions).1 = ErrorCode.errNoError
  | .unassign => (lib.unassign client).1 = ErrorCode.errNoError
  | .incrementalAssign partitions => (lib.incrementalAssign client partitions).1.isNone
  | .incrementalUnassign partitions => (lib.incrementalUnassign client partitions).1.isNone
  | .refreshAssignments => (lib.assignment client).1 = ErrorCode.errNoError

/-- Whether the call goes through while the handle is being closed. -/
def AssignmentCall.whileClosing : AssignmentCall → Bool
  | .unassign | .incrementalUnassign _ => true
  | .assign _ | .incrementalAssign _ | .refreshAssignments => false

/-- The assignment that an accepted call makes of another one. -/
def AssignmentCall.apply (assigned : Multiset PartitionKey) : AssignmentCall → Multiset PartitionKey
  | .assign partitions => partitionKeys partitions
  | .unassign => 0
  | .incrementalAssign partitions => assigned + partitionKeys partitions
  | .incrementalUnassign partitions => assigned - partitionKeys partitions
  | .refreshAssignments => assigned

namespace KafkaConsumer

theorem samePartition_iff {p q : TopicPartition} : samePartition p q = true ↔ q.key = p.key := by
  simp only [samePartition, TopicPartition.key, Prod.mk.injEq, decide_eq_true_eq]
  constructor
  · exact fun ⟨partition, topic⟩ => ⟨topic.symm, partition.symm⟩
  · exact fun ⟨topic, partition⟩ => ⟨partition.symm, topic.symm⟩

/-- The first element with a property of its image is erased as the image is. -/
theorem map_eraseP {α β : Type} [DecidableEq β] {f : α → β} {b : β} {p : α → Bool}
    (matching : ∀ a, p a = true ↔ f a = b) (list : List α) :
    (list.eraseP p).map f = (list.map f).erase b := by
  have same : p = (· == b) ∘ f := by
    funext a
    rw [Bool.eq_iff_iff, matching]
    simp
  rw [List.erase_eq_eraseP', List.eraseP_map, same]

theorem erasePartition_eq (mirror : List TopicPartition × Option Int) (p : TopicPartition) :
    (erasePartition mirror p).1 = mirror.1.eraseP (samePartition p) := by
  simp only [erasePartition]
  split
  · rfl
  · rename_i unmatched
    rw [List.eraseP_of_forall_not]
    exact fun q member same => unmatched (List.any_eq_true.mpr ⟨q, member, same⟩)

/-- The nested loops take the partitions of the list out of the mirror. -/
theorem foldl_erasePartition (list : List TopicPartition)
    (mirror : List TopicPartition × Option Int) :
    partitionKeys (list.foldl erasePartition mirror).1 =
      partitionKeys mirror.1 - partitionKeys list := by
  induction list generalizing mirror with
  | nil => simp [partitionKeys]
  | cons p rest ih =>
    have erased : partitionKeys (erasePartition mirror p).1 =
        (partitionKeys mirror.1).erase p.key := by
      rw [erasePartition_eq, partitionKeys, map_eraseP fun q => samePartition_iff, ← Multiset.coe_erase,
        partitionKeys]
    have keys : partitionKeys (p :: rest) = p.key ::ₘ partitionKeys rest := by
      simp [partitionKeys]
    rw [List.foldl_cons, ih, erased, keys, Multiset.sub_cons]

section
variable {σ : Type} (lib : Librdkafka σ)

def call (c : KafkaConsumer σ) : AssignmentCall → KafkaConsumer σ × Baton Unit
  | .assign partitions => c.assign lib partitions
  | .unassign => c.unassign lib
  | .incrementalAssign partitions => c.incrementalAssign lib partitions
  | .incrementalUnassign partitions => c.incrementalUnassign lib partitions
  | .refreshAssignments => c.refreshAssignments lib

/-- Whether the call gets as far as librdkafka. -/
def reaches (c : KafkaConsumer σ) (action : AssignmentCall) : Bool :=
  c.isConnected || (c.isClosing && action.whileClosing)

/-- A call that does not returns an error. -/
theorem call_refused (c : KafkaConsumer σ) (action : AssignmentCall) (refused : c.reaches action = false) :
    (c.call lib action).2.err = ErrorCode.errState := by
  simp only [reaches, Bool.or_eq_false_iff] at refused
  obtain ⟨offline, closed⟩ := refused
  cases action <;>
    simp_all [call, assign, unassign, incrementalAssign, incrementalUnassign, refreshAssignments,
      AssignmentCall.whileClosing, Baton.err, Baton.ofCode, Baton.ofErrstr]

/-- Whether the call gets as far as librdkafka and is accepted there. -/
def accepts (c : KafkaConsumer σ) (action : AssignmentCall) : Bool :=
  match c.mClient with
  | some client => (c.isConnected || action.whileClosing) && lib.accepts client action
  | none => false

/-- A connection lasts until its handle is gone, the beginning of a
Disconnect included. -/
inductive ConnectionAction
  | call (action : AssignmentCall)
  | beginDisconnect
  deriving DecidableEq

def connectionStep (c : KafkaConsumer σ) : ConnectionAction → Option (KafkaConsumer σ)
  | .call action => some (c.call lib action).1
  | .beginDisconnect => some c.beginDisconnect.1

end

section
variable {σ : Type} {lib : Librdkafka σ} {assigned : σ → Multiset PartitionKey}
variable {c : KafkaConsumer σ} {client : σ}

/-- What a call makes of the consumer and of its client: the change it asks
for on both when it is accepted, and nothing when it is not. -/
theorem call_spec (documented : lib.Assigns assigned) (has : c.mClient = some client)
    (action : AssignmentCall) :
    ∃ after, (c.call lib action).1.mClient = some after ∧
      (c.call lib action).1.mIsClosing = c.mIsClosing ∧
      (c.accepts lib action = true → assigned after = action.apply (assigned client) ∧
        (partitionKeys c.mPartitions = assigned client →
          partitionKeys (c.call lib action).1.mPartitions = assigned after)) ∧
      (c.accepts lib action = false → assigned after = assigned client ∧
        (c.call lib action).1.mPartitions = c.mPartitions) := by
  cases action with
  | assign partitions =>
    cases closing : c.mIsClosing with
    | true => exact ⟨client, by simp [call, assign, accepts, isConnected, AssignmentCall.whileClosing, closing, has]⟩
    | false =>
      refine ⟨(lib.assign client partitions).2, ?_⟩
      by_cases accepted : (lib.assign client partitions).1 = ErrorCode.errNoError
      · have made := (documented.assign client partitions accepted).2
        simp [call, assign, accepts, isConnected, closing, has, accepted, Librdkafka.accepts,
          AssignmentCall.apply, made]
      · have kept := documented.assign_failed client partitions accepted
        simp [call, assign, accepts, isConnected, closing, has, accepted, Librdkafka.accepts, kept]
  | unassign =>
    have through : (c.isClosing || c.isConnected) = true := by
      cases closing : c.mIsClosing <;> simp [isClosing, isConnected, closing, has]
    refine ⟨(lib.unassign client).2, ?_⟩
    by_cases accepted : (lib.unassign client).1 = ErrorCode.errNoError
    · have made := documented.unassign client accepted
      simp [call, unassign, accepts, through, has, accepted, Librdkafka.accepts, AssignmentCall.apply,
        AssignmentCall.whileClosing, made, documented.destroy, partitionKeys]
    · have kept := documented.unassign_failed client accepted
      simp [call, unassign, accepts, through, has, accepted, Librdkafka.accepts, kept]
  | incrementalAssign partitions =>
    cases closing : c.mIsClosing with
    | true =>
      exact ⟨client, by
        simp [call, incrementalAssign, accepts, isConnected, AssignmentCall.whileClosing, closing, has]⟩
    | false =>
      refine ⟨(lib.incrementalAssign client partitions).2, ?_⟩
      by_cases accepted : (lib.incrementalAssign client partitions).1 = none
      · have made := (documented.incrementalAssign client partitions accepted).2.2
        have appended : partitionKeys (c.mPartitions ++ partitions) =
            partitionKeys c.mPartitions + partitionKeys partitions := by
          simp [partitionKeys]
        simp +contextual [call, incrementalAssign, accepts, isConnected, closing, has, accepted,
          Librdkafka.accepts, AssignmentCall.apply, made, appended]
      · have kept := documented.incrementalAssign_failed client partitions accepted
        simp [call, incrementalAssign, accepts, isConnected, closing, has, accepted, Librdkafka.accepts,
          kept]
  | incrementalUnassign partitions =>
    have through : (c.isClosing || c.isConnected) = true := by
      cases closing : c.mIsClosing <;> simp [isClosing, isConnected, closing, has]
    refine ⟨(lib.incrementalUnassign client partitions).2, ?_⟩
    by_cases accepted : (lib.incrementalUnassign client partitions).1 = none
    · have made := (documented.incrementalUnassign client partitions accepted).2.2
      simp +contextual [call, incrementalUnassign, accepts, through, has, accepted, Librdkafka.accepts,
        AssignmentCall.apply, AssignmentCall.whileClosing, made, foldl_erasePartition]
    · have kept := documented.incrementalUnassign_failed client partitions accepted
      simp [call, incrementalUnassign, accepts, through, has, accepted, Librdkafka.accepts, kept]
  | refreshAssignments =>
    refine ⟨client, ?_⟩
    cases closing : c.mIsClosing with
    | true =>
      simp [call, refreshAssignments, accepts, isConnected, AssignmentCall.whileClosing, closing, has]
    | false =>
      by_cases accepted : (lib.assignment client).1 = ErrorCode.errNoError
      · have read := documented.assignment client accepted
        simp [call, refreshAssignments, accepts, isConnected, closing, has, accepted, Librdkafka.accepts,
          AssignmentCall.apply, read]
      · simp [call, refreshAssignments, accepts, isConnected, closing, has, accepted, Librdkafka.accepts]

/-- A consumer with a client whose assignment is the mirror. -/
def Mirrors (assigned : σ → Multiset PartitionKey) (c : KafkaConsumer σ) : Prop :=
  ∃ client, c.mClient = some client ∧ partitionKeys c.mPartitions = assigned client

theorem Mirrors.call (documented : lib.Assigns assigned) (mirrors : c.Mirrors assigned)
    (action : AssignmentCall) : (c.call lib action).1.Mirrors assigned := by
  obtain ⟨client, has, mirror⟩ := mirrors
  obtain ⟨after, hasAfter, _, accepted, refused⟩ := call_spec documented has action
  refine ⟨after, hasAfter, ?_⟩
  cases answer : c.accepts lib action with
  | true => exact (accepted answer).2 mirror
  | false => rw [(refused answer).2, (refused answer).1, mirror]

theorem beginDisconnect_mClient (c : KafkaConsumer σ) : c.beginDisconnect.1.mClient = c.mClient := by
  unfold beginDisconnect
  split <;> rfl

theorem beginDisconnect_mPartitions (c : KafkaConsumer σ) :
    c.beginDisconnect.1.mPartitions = c.mPartitions := by
  unfold beginDisconnect
  split <;> rfl

theorem Mirrors.step (documented : lib.Assigns assigned) (mirrors : c.Mirrors assigned)
    {action : ConnectionAction} {c' : KafkaConsumer σ}
    (run : connectionStep lib c action = some c') : c'.Mirrors assigned := by
  cases action with
  | call action =>
    cases Option.some.inj run
    exact mirrors.call documented action
  | beginDisconnect =>
    cases Option.some.inj run
    obtain ⟨client, has, mirror⟩ := mirrors
    exact ⟨client, by rw [beginDisconnect_mClient, has], by rw [beginDisconnect_mPartitions, mirror]⟩

end
end KafkaConsumer

/-- Within one connection m_partitions is the assignment of librdkafka after
every call, and a call that is not accepted leaves it as it is. -/
theorem assignments_mirror {σ : Type} {lib : Librdkafka σ} {assigned : σ → Multiset PartitionKey}
    (documented : lib.Assigns assigned) {start c : KafkaConsumer σ} {client : σ}
    {trace : List KafkaConsumer.ConnectionAction} (has : start.mClient = some client)
    (unassigned : assigned client = 0) (empty : start.mPartitions = [])
    (reach : Reach (KafkaConsumer.connectionStep lib) start trace c) :
    ∃ current, c.mClient = some current ∧ partitionKeys c.mPartitions = assigned current ∧
      ∀ action, c.accepts lib action = false →
        (c.call lib action).1.mPartitions = c.mPartitions := by
  have mirrors : c.Mirrors assigned :=
    reach.invariant (KafkaConsumer.Mirrors assigned)
      ⟨client, has, by simp [partitionKeys, empty, unassigned]⟩
      fun mirrors run => mirrors.step documented run
  obtain ⟨current, hasNow, mirror⟩ := mirrors
  refine ⟨current, hasNow, mirror, fun action refused => ?_⟩
  obtain ⟨_, _, _, _, kept⟩ := KafkaConsumer.call_spec documented hasNow action
  exact (kept refused).2

/-- A librdkafka whose handles are just their assignments, and which accepts
what makes sense of them. -/
def tableLibrdkafka (protocol : String) : Librdkafka (List TopicPartition) where
  create _ := (some [], "")
  setToken table _ := (ErrorCode.errNoError, "", table)
  resume table _ := table
  subscribe table _ := (ErrorCode.errNoError, table)
  unsubscribe table := table
  assign table list :=
    if (partitionKeys list).Nodup then (ErrorCode.errNoError, list) else (ErrorCode.errInvalidArg, table)
  unassign _ := (ErrorCode.errNoError, [])
  incrementalAssign table list :=
    if (partitionKeys (table ++ list)).Nodup then (none, table ++ list)
    else (some { code := ErrorCode.errConflict, str := "Conflict" }, table)
  incrementalUnassign table list :=
    if (partitionKeys list).Nodup ∧ partitionKeys list ≤ partitionKeys table then
      (none, (list.foldl KafkaConsumer.erasePartition (table, none)).1)
    else (some { code := ErrorCode.errInvalidArg, str := "Invalid argument" }, table)
  assignment table := (ErrorCode.errNoError, table)
  rebalanceProtocol _ := protocol
  destroy _ := []

theorem tableLibrdkafka_assigns (protocol : String) :
    (tableLibrdkafka protocol).Assigns partitionKeys where
  assign table list accepted := by
    simp only [tableLibrdkafka] at accepted ⊢
    split at accepted
    · rename_i unique
      simp [unique]
    · have refused : ErrorCode.errInvalidArg ≠ ErrorCode.errNoError := by decide
      exact absurd accepted refused
  assign_failed table list refused := by
    simp only [tableLibrdkafka] at refused ⊢
    split at refused
    · exact absurd rfl refused
    · rename_i double
      simp [double]
  unassign _ _ := rfl
  unassign_failed _ refused := absurd rfl refused
  incrementalAssign table list accepted := by
    simp only [tableLibrdkafka] at accepted ⊢
    split at accepted
    · rename_i unique
      have appended : partitionKeys (table ++ list) = partitionKeys table + partitionKeys list := by
        simp [partitionKeys]
      rw [if_pos unique]
      rw [appended, Multiset.nodup_add] at unique
      exact ⟨unique.2.1, unique.2.2.symm, appended⟩
    · cases accepted
  incrementalAssign_failed table list refused := by
    simp only [tableLibrdkafka] at refused ⊢
    split at refused
    · exact absurd rfl refused
    · rename_i double
      simp [double]
  incrementalUnassign table list accepted := by
    simp only [tableLibrdkafka] at accepted ⊢
    split at accepted
    · rename_i present
      rw [if_pos present]
      exact ⟨present.1, present.2, KafkaConsumer.foldl_erasePartition list (table, none)⟩
    · cases accepted
  incrementalUnassign_failed table list refused := by
    simp only [tableLibrdkafka] at refused ⊢
    split at refused
    · exact absurd rfl refused
    · rename_i missing
      rw [if_neg missing]
  assignment _ _ := rfl
  destroy _ := rfl

/-- After an incremental unassign that librdkafka refuses, partition 1 alone
is left on both sides. -/
theorem assignments_mirror_incremental :
    let partition (n : Int32) : TopicPartition := { topic := "t", partition := n, offset := 0 }
    let connected : KafkaConsumer (List TopicPartition) := { mClient := some [] }
    let trace := [KafkaConsumer.ConnectionAction.call (.assign [partition 0, partition 1]),
      .call (.incrementalUnassign [partition 0]), .call (.incrementalUnassign [partition 0]),
      .beginDisconnect]
    ∃ c current, replay (KafkaConsumer.connectionStep (tableLibrdkafka "COOPERATIVE")) connected trace =
        some c ∧ c.mPartitions = [partition 1] ∧ c.mClient = some current ∧
      partitionKeys c.mPartitions = partitionKeys current ∧
      ∀ action, c.accepts (tableLibrdkafka "COOPERATIVE") action = false →
        (c.call (tableLibrdkafka "COOPERATIVE") action).1.mPartitions = c.mPartitions := by
  intro partition connected trace
  obtain ⟨c, run⟩ : ∃ c, replay (KafkaConsumer.connectionStep (tableLibrdkafka "COOPERATIVE"))
      connected trace = some c := ⟨_, rfl⟩
  have left : c.mPartitions = [partition 1] := by
    cases Option.some.inj run
    decide
  obtain ⟨current, has, mirror, kept⟩ := assignments_mirror (tableLibrdkafka_assigns "COOPERATIVE")
    rfl rfl rfl (reach_iff_replay.mpr run)
  exact ⟨c, current, run, left, has, mirror, kept⟩

end NodeRdkafka
