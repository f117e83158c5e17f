import NodeRdkafka.KafkaConsumerAssignments
import NodeRdkafka.Lib.Lists

namespace NodeRdkafka
open Transition

/-- A pointer to a RdKafka::TopicPartition. -/
structure PartitionEntry where
  handle : Nat
  partition : TopicPartition
  deriving DecidableEq

/-- RdKafka::TopicPartition::destroy, by the objects that it deletes and what
it leaves of the vector. -/
structure PartitionDestroy where
  deletes : List PartitionEntry → List Nat
  leaves : List PartitionEntry → List PartitionEntry

/-- Each object of the vector is deleted, and the vector is cleared. -/
def PartitionDestroy.Documented (destroy : PartitionDestroy) : Prop :=
  ∀ entries, destroy.deletes entries = entries.map PartitionEntry.handle ∧ destroy.leaves entries = []

/-- A KafkaConsumer with its vector of pointers, and its count as in
KafkaConsumer: none while it is uninitialised, and unbounded, since a vector
of 2^31 objects does not fit into memory. The last two fields record how
many objects have been made and which have been deleted. -/
structure EntryConsumer (σ : Type) where
  mClient : Option σ := none
  mIsClosing : Bool := false
  mPartitions : List PartitionEntry := []
  mPartitionCnt : Option Int := none
  allocated : Nat := 0
  destroyed : List Nat := []

/-- The vectors and the count in the nested loops of IncrementalUnassign. -/
structure UnassignLoop where
  mPartitions : List PartitionEntry
  deletePartitions : List PartitionEntry
  mPartitionCnt : Option Int

/-- The inner loop: the first match is put aside, erased and counted. -/
def UnassignLoop.scan (s : UnassignLoop) (p : PartitionEntry) : UnassignLoop :=
  match s.mPartitions.findIdx? fun q => KafkaConsumer.samePartition p.partition q.partition with
  | some j =>
    { mPartitions := s.mPartitions.eraseIdx j
      deletePartitions := s.deletePartitions ++ s.mPartitions[j]?.toList
      mPartitionCnt := s.mPartitionCnt.map (· - 1) }
  | none => s

namespace EntryConsumer
section Code
variable {σ : Type} (lib : Librdkafka σ) (destroy : PartitionDestroy)

/-- The object without its pointers. -/
def forget (c : EntryConsumer σ) : KafkaConsumer σ :=
  { mClient := c.mClient, mIsClosing := c.mIsClosing, mPartitions := c.mPartitions.map PartitionEntry.partition,
    mPartitionCnt := c.mPartitionCnt }

def isConnected (c : EntryConsumer σ) : Bool := !c.mIsClosing && c.mClient.isSome

def isClosing (c : EntryConsumer σ) : Bool := c.mClient.isSome && c.mIsClosing

def assignedPartitionCount (c : EntryConsumer σ) : Option Int := c.mPartitionCnt

/-- New objects for a list of partitions. -/
def entries (c : EntryConsumer σ) (partitions : List TopicPartition) : List PartitionEntry :=
  (partitions.zipIdx c.allocated).map fun (partition, handle) => { handle, partition }

def allocate (c : EntryConsumer σ) (partitions : List TopicPartition) : EntryConsumer σ :=
  { c with allocated := c.allocated + partitions.length }

/-- A local vector is destroyed. -/
def delete (c : EntryConsumer σ) (vector : List PartitionEntry) : EntryConsumer σ :=
  { c with destroyed := c.destroyed ++ destroy.deletes vector }

def assign (c : EntryConsumer σ) (partitions : List PartitionEntry) : EntryConsumer σ × Baton Unit :=
  match c.isConnected, c.mClient with
  | true, some client =>
    let (errcode, client) := lib.assign client (partitions.map PartitionEntry.partition)
    let c := { c with mClient := some client }
    if errcode = ErrorCode.errNoError then
      (delete destroy { c with mPartitionCnt := some partitions.length, mPartitions := partitions } c.mPartitions,
        .ofCode errcode)
    else (c.delete destroy partitions, .ofCode errcode)
  | _, _ => (c, .ofErrstr ErrorCode.errState "KafkaConsumer is disconnected")

def unassign (c : EntryConsumer σ) : EntryConsumer σ × Baton Unit :=
  match c.isClosing || c.isConnected, c.mClient with
  | true, some client =>
    let (errcode, client) := lib.unassign client
    let c := { c with mClient := some client }
    if errcode ≠ ErrorCode.errNoError then (c, .ofCode errcode)
    else
      ({ c.delete destroy c.mPartitions with mPartitions := destroy.leaves c.mPartitions, mPartitionCnt := some 0 },
        .ofCode ErrorCode.errNoError)
  | _, _ => (c, .ofCode ErrorCode.errState)

def incrementalAssign (c : EntryConsumer σ) (partitions : List PartitionEntry) : EntryConsumer σ × Baton Unit :=
  match c.isConnected, c.mClient with
  | true, some client =>
    let (error, client) := lib.incrementalAssign client (partitions.map PartitionEntry.partition)
    let c := { c with mClient := some client }
    if error.isNone then
      ({ c with mPartitionCnt := c.mPartitionCnt.map (· + partitions.length),
                mPartitions := c.mPartitions ++ partitions }, KafkaConsumer.rdkafkaErrorToBaton error)
    else (c.delete destroy partitions, KafkaConsumer.rdkafkaErrorToBaton error)
  | _, _ => (c, .ofErrstr ErrorCode.errState "KafkaConsumer is disconnected")

def incrementalUnassign (c : EntryConsumer σ) (partitions : List PartitionEntry) : EntryConsumer σ × Baton Unit :=
  match c.isClosing || c.isConnected, c.mClient with
  | true, some client =>
    let (error, client) := lib.incrementalUnassign client (partitions.map PartitionEntry.partition)
    let c := { c with mClient := some client }
    let loop : UnassignLoop :=
      { mPartitions := c.mPartitions, deletePartitions := [], mPartitionCnt := c.mPartitionCnt }
    let loop := if error.isNone then partitions.foldl UnassignLoop.scan loop else loop
    let c := { c with mPartitions := loop.mPartitions, mPartitionCnt := loop.mPartitionCnt }
    ((c.delete destroy loop.deletePartitions).delete destroy partitions, KafkaConsumer.rdkafkaErrorToBaton error)
  | _, _ => (c, .ofCode ErrorCode.errState)

/-- The list that librdkafka returns is of new objects. -/
def refreshAssignments (c : EntryConsumer σ) : EntryConsumer σ × Baton Unit :=
  match c.isConnected, c.mClient with
  | true, some client =>
    let (err, list) := lib.assignment client
    let partitionList := c.entries list
    let c := c.allocate list
    if err = ErrorCode.errNoError then
      (delete destroy { c with mPartitionCnt := some partitionList.length, mPartitions := partitionList }
        c.mPartitions, .ofCode ErrorCode.errNoError)
    else (c, .ofCode err)
  | _, _ => (c, .ofCode ErrorCode.errState)

/-- A call with its list of new objects. -/
def call (c : EntryConsumer σ) : AssignmentCall → EntryConsumer σ × Baton Unit
  | .assign list => (c.allocate list).assign lib destroy (c.entries list)
  | .unassign => c.unassign lib destroy
  | .incrementalAssign list => (c.allocate list).incrementalAssign lib destroy (c.entries list)
  | .incrementalUnassign list => (c.allocate list).incrementalUnassign lib destroy (c.entries list)
  | .refreshAssignments => c.refreshAssignments lib destroy

end Code
end EntryConsumer

/-- The calls, and whatever Connect and Disconnect make of the handle between them. -/
inductive EntryAction (σ : Type)
  | call (action : AssignmentCall)
  | connection (mClient : Option σ) (mIsClosing : Bool)

namespace EntryConsumer
variable {σ : Type}

def step (lib : Librdkafka σ) (destroy : PartitionDestroy) (c : EntryConsumer σ) :
    EntryAction σ → Option (EntryConsumer σ)
  | .call action => some (c.call lib destroy action).1
  | .connection mClient mIsClosing => some { c with mClient, mIsClosing }

end EntryConsumer

/-- Each partition of a list in turn takes the first entry with the same topic
and partition out of a list of entries, when there is one. -/
inductive TakesOut :
    List PartitionEntry → List PartitionEntry → List PartitionEntry → List PartitionEntry → Prop
  | done {entries} : TakesOut [] entries [] entries
  | found {p rest before q after removed remaining} :
      (∀ other ∈ before, other.partition.key ≠ p.partition.key) → q.partition.key = p.partition.key →
      TakesOut rest (before ++ after) removed remaining →
      TakesOut (p :: rest) (before ++ q :: after) (q :: removed) remaining
  | absent {p rest entries removed remaining} :
      (∀ other ∈ entries, other.partition.key ≠ p.partition.key) → TakesOut rest entries removed remaining →
      TakesOut (p :: rest) entries removed remaining

namespace TakesOut
variable {list entries removed remaining : List PartitionEntry}

theorem perm (takes : TakesOut list entries removed remaining) : (remaining ++ removed).Perm entries := by
  induction takes with
  | done => rw [List.append_nil]
  | @found p rest before q after removed remaining _ _ _ ih =>
    calc (remaining ++ q :: removed).Perm (q :: (remaining ++ removed)) := List.perm_middle
      _ |>.Perm (q :: (before ++ after)) := ih.cons q
      _ |>.Perm (before ++ q :: after) := List.perm_middle.symm
  | absent _ _ ih => exact ih

theorem sublist (takes : TakesOut list entries removed remaining) : remaining.Sublist entries := by
  induction takes with
  | done => exact List.Sublist.refl _
  | found _ _ _ ih => exact ih.trans ((List.Sublist.refl _).append (List.sublist_cons_self _ _))
  | absent _ _ ih => exact ih

theorem length (takes : TakesOut list entries removed remaining) :
    entries.length = remaining.length + removed.length := by
  rw [← takes.perm.length_eq, List.length_append]

end TakesOut

theorem UnassignLoop.scan_cases (s : UnassignLoop) (p : PartitionEntry) :
    (∃ before q after, s.mPartitions = before ++ q :: after ∧
      (∀ other ∈ before, other.partition.key ≠ p.partition.key) ∧ q.partition.key = p.partition.key ∧
      s.scan p = { mPartitions := before ++ after, deletePartitions := s.deletePartitions ++ [q],
                   mPartitionCnt := s.mPartitionCnt.map (· - 1) }) ∨
    (∀ other ∈ s.mPartitions, other.partition.key ≠ p.partition.key) ∧ s.scan p = s := by
  unfold scan
  split
  · rename_i j found
    obtain ⟨before, q, after, split, rfl, same, earlier⟩ := Lists.findIdx?_split found
    refine .inl ⟨before, q, after, split, ?_, KafkaConsumer.samePartition_iff.mp same, ?_⟩
    · exact fun other member key => earlier other member (KafkaConsumer.samePartition_iff.mpr key)
    · simp [split, List.eraseIdx_append_of_length_le]
  · rename_i none
    rw [List.findIdx?_eq_none_iff] at none
    refine .inr ⟨fun other member key => ?_, rfl⟩
    exact absurd (KafkaConsumer.samePartition_iff.mpr key) (by simp [none other member])

theorem UnassignLoop.foldl_scan (list : List PartitionEntry) (s : UnassignLoop) :
    ∃ removed, TakesOut list s.mPartitions removed (list.foldl scan s).mPartitions ∧
      (list.foldl scan s).deletePartitions = s.deletePartitions ++ removed ∧
      (list.foldl scan s).mPartitionCnt = s.mPartitionCnt.map (· - (removed.length : Int)) := by
  induction list generalizing s with
  | nil => exact ⟨[], .done, by simp, by simp⟩
  | cons p rest ih =>
    obtain ⟨removed, takes, deleted, count⟩ := ih (s.scan p)
    rcases s.scan_cases p with ⟨before, q, after, split, earlier, same, scanned⟩ | ⟨none, scanned⟩
    · rw [List.foldl_cons]
      rw [scanned] at takes deleted count ⊢
      refine ⟨q :: removed, ?_, ?_, ?_⟩
      · rw [split]
        exact .found earlier same takes
      · simpa using deleted
      · rw [count, Option.map_map]
        congr 1
        funext n
        simp only [Function.comp_apply, List.length_cons]
        omega
    · rw [List.foldl_cons]
      rw [scanned] at takes deleted count ⊢
      exact ⟨removed, .absent none takes, deleted, count⟩

/-- The calls that set the count, where the others add to it. -/
def AssignmentCall.setsCount : AssignmentCall → Bool
  | .assign _ | .unassign | .refreshAssignments => true
  | .incrementalAssign _ | .incrementalUnassign _ => false

namespace EntryConsumer
variable {σ : Type} {lib : Librdkafka σ} {destroy : PartitionDestroy} {c after : EntryConsumer σ}
variable {fresh : List PartitionEntry}

theorem entries_handles (c : EntryConsumer σ) (list : List TopicPartition) :
    (c.entries list).map PartitionEntry.handle = List.range' c.allocated list.length := by
  rw [entries, List.map_map]
  exact List.zipIdx_map_snd c.allocated list

theorem entries_partitions (c : EntryConsumer σ) (list : List TopicPartition) :
    (c.entries list).map PartitionEntry.partition = list := by
  rw [entries, List.map_map]
  exact List.zipIdx_map_fst c.allocated list

theorem entries_length (c : EntryConsumer σ) (list : List TopicPartition) :
    (c.entries list).length = list.length := by
  rw [← List.length_map (f := PartitionEntry.partition), entries_partitions]

/-- What a call with new objects does to the vector, the count and the deleted
objects, and whether it sets the count. -/
inductive Moves (fresh : List PartitionEntry) (c after : EntryConsumer σ) : Bool → Prop
  | kept : after.mPartitions = c.mPartitions → after.mPartitionCnt = c.mPartitionCnt →
      (after.destroyed = c.destroyed ∨ after.destroyed = c.destroyed ++ fresh.map PartitionEntry.handle) →
      Moves fresh c after false
  | replaced : after.mPartitions = fresh → after.mPartitionCnt = some (fresh.length : Int) →
      after.destroyed = c.destroyed ++ c.mPartitions.map PartitionEntry.handle → Moves fresh c after true
  | appended : after.mPartitions = c.mPartitions ++ fresh →
      after.mPartitionCnt = c.mPartitionCnt.map (· + (fresh.length : Int)) → after.destroyed = c.destroyed →
      Moves fresh c after false
  | taken {removed : List PartitionEntry} : TakesOut fresh c.mPartitions removed after.mPartitions →
      after.mPartitionCnt = c.mPartitionCnt.map (· - (removed.length : Int)) →
      after.destroyed = c.destroyed ++ removed.map PartitionEntry.handle ++ fresh.map PartitionEntry.handle →
      Moves fresh c after false

theorem client_of_connected (online : c.isConnected = true) : ∃ client, c.mClient = some client := by
  simp only [isConnected, Bool.and_eq_true] at online
  exact Option.isSome_iff_exists.mp online.2

theorem client_of_reached (through : (c.isClosing || c.isConnected) = true) :
    ∃ client, c.mClient = some client := by
  rcases (Bool.or_eq_true_iff ..).mp through with closing | online
  · simp only [isClosing, Bool.and_eq_true] at closing
    exact Option.isSome_iff_exists.mp closing.1
  · exact client_of_connected online

theorem accepts_offline {action : AssignmentCall} (offline : c.isConnected = false)
    (other : action.whileClosing = false) : c.forget.accepts lib action = false := by
  unfold KafkaConsumer.accepts
  split
  · simp only [other, Bool.or_false]
    rw [show c.forget.isConnected = false from offline, Bool.false_and]
  · rfl

theorem accepts_unreached {action : AssignmentCall} (closed : (c.isClosing || c.isConnected) = false) :
    c.forget.accepts lib action = false := by
  have none : c.forget.mClient = none := by
    cases has : c.mClient with
    | none => exact has
    | some client => simp [isClosing, isConnected, has] at closed
  simp only [KafkaConsumer.accepts, none]

theorem accepts_online {client : σ} (has : c.mClient = some client) {action : AssignmentCall}
    (through : c.isConnected = true ∨ action.whileClosing = true) :
    c.forget.accepts lib action = lib.accepts client action := by
  have passes : (c.forget.isConnected || action.whileClosing) = true := (Bool.or_eq_true_iff ..).mpr through
  simp only [KafkaConsumer.accepts, show c.forget.mClient = some client from has, passes, Bool.true_and]

theorem Moves.allocate {list : List TopicPartition} {counted : Bool}
    (moves : Moves fresh (c.allocate list) after counted) : Moves fresh c after counted := by
  cases moves with
  | kept partitions count destroyed => exact .kept partitions count destroyed
  | replaced partitions count destroyed => exact .replaced partitions count destroyed
  | appended partitions count destroyed => exact .appended partitions count destroyed
  | taken takes count destroyed => exact .taken takes count destroyed

section Methods
variable (lib : Librdkafka σ) (documented : destroy.Documented) (c : EntryConsumer σ) (fresh : List PartitionEntry)
include documented

theorem assign_moves : (c.assign lib destroy fresh).1.allocated = c.allocated ∧
    Moves fresh c (c.assign lib destroy fresh).1
      (c.forget.accepts lib (.assign (fresh.map PartitionEntry.partition))) := by
  cases online : c.isConnected with
  | false =>
    rw [accepts_offline online rfl]
    simp only [assign, online]
    exact ⟨trivial, .kept rfl rfl (.inl rfl)⟩
  | true =>
    obtain ⟨client, has⟩ := client_of_connected online
    rw [accepts_online has (.inl online)]
    simp only [assign, online, has, Librdkafka.accepts, delete, (documented _).1]
    split
    · rename_i accepted
      rw [decide_eq_true accepted]
      exact ⟨rfl, .replaced rfl rfl rfl⟩
    · rename_i refused
      rw [decide_eq_false refused]
      exact ⟨rfl, .kept rfl rfl (.inr rfl)⟩

theorem unassign_moves : (c.unassign lib destroy).1.allocated = c.allocated ∧
    Moves [] c (c.unassign lib destroy).1 (c.forget.accepts lib .unassign) := by
  cases through : c.isClosing || c.isConnected with
  | false =>
    rw [accepts_unreached through]
    simp only [unassign, through]
    exact ⟨trivial, .kept rfl rfl (.inl rfl)⟩
  | true =>
    obtain ⟨client, has⟩ := client_of_reached through
    rw [accepts_online has (.inr rfl)]
    simp only [unassign, through, has, Librdkafka.accepts, delete, (documented _).1, (documented _).2]
    split
    · rename_i refused
      rw [decide_eq_false refused]
      exact ⟨rfl, .kept rfl rfl (.inl rfl)⟩
    · rename_i accepted
      rw [decide_eq_true (not_not.mp accepted)]
      exact ⟨rfl, .replaced rfl rfl rfl⟩

theorem incrementalAssign_moves : (c.incrementalAssign lib destroy fresh).1.allocated = c.allocated ∧
    Moves fresh c (c.incrementalAssign lib destroy fresh).1 false := by
  cases online : c.isConnected with
  | false =>
    simp only [incrementalAssign, online]
    exact ⟨trivial, .kept rfl rfl (.inl rfl)⟩
  | true =>
    obtain ⟨client, has⟩ := client_of_connected online
    simp only [incrementalAssign, online, has, delete, (documented _).1]
    split
    · exact ⟨rfl, .appended rfl rfl rfl⟩
    · exact ⟨rfl, .kept rfl rfl (.inr rfl)⟩

/-- An accepted call takes the partitions out. -/
theorem incrementalUnassign_moves : (c.incrementalUnassign lib destroy fresh).1.allocated = c.allocated ∧
    Moves fresh c (c.incrementalUnassign lib destroy fresh).1 false ∧
    (c.forget.accepts lib (.incrementalUnassign (fresh.map PartitionEntry.partition)) = true →
      ∃ removed, TakesOut fresh c.mPartitions removed (c.incrementalUnassign lib destroy fresh).1.mPartitions ∧
        (c.incrementalUnassign lib destroy fresh).1.destroyed =
          c.destroyed ++ removed.map PartitionEntry.handle ++ fresh.map PartitionEntry.handle) := by
  cases through : c.isClosing || c.isConnected with
  | false =>
    rw [accepts_unreached through]
    simp only [incrementalUnassign, through]
    exact ⟨trivial, .kept rfl rfl (.inl rfl), fun accepted => absurd accepted Bool.false_ne_true⟩
  | true =>
    obtain ⟨client, has⟩ := client_of_reached through
    rw [accepts_online has (.inr rfl)]
    obtain ⟨removed, takes, deleted, count⟩ := UnassignLoop.foldl_scan fresh
      { mPartitions := c.mPartitions, deletePartitions := [], mPartitionCnt := c.mPartitionCnt }
    simp only [incrementalUnassign, through, has, Librdkafka.accepts, delete, (documented _).1]
    split
    · rw [List.nil_append] at deleted
      rw [deleted]
      exact ⟨trivial, .taken takes count rfl, fun _ => ⟨removed, takes, rfl⟩⟩
    · rename_i refused
      exact ⟨trivial, .kept rfl rfl (.inr (by simp)), fun accepted => absurd accepted refused⟩

end Methods

/-- A call that librdkafka is not asked for, or refuses, changes neither the
vector nor the count, and an accepted one changes them together. -/
theorem call_moves (lib : Librdkafka σ) (documented : destroy.Documented) (c : EntryConsumer σ)
    (action : AssignmentCall) :
    ∃ fresh : List PartitionEntry, fresh.map PartitionEntry.handle = List.range' c.allocated fresh.length ∧
      (c.call lib destroy action).1.allocated = c.allocated + fresh.length ∧
      Moves fresh c (c.call lib destroy action).1 (c.forget.accepts lib action && action.setsCount) := by
  cases action with
  | assign list =>
    obtain ⟨allocated, moves⟩ := assign_moves lib documented (c.allocate list) (c.entries list)
    rw [entries_partitions] at moves
    refine ⟨c.entries list, by rw [entries_handles, entries_length], ?_, ?_⟩
    · rw [entries_length]
      exact allocated
    · rw [AssignmentCall.setsCount, Bool.and_true]
      exact moves.allocate
  | unassign =>
    obtain ⟨allocated, moves⟩ := unassign_moves lib documented c
    refine ⟨[], rfl, allocated, ?_⟩
    rw [AssignmentCall.setsCount, Bool.and_true]
    exact moves
  | incrementalAssign list =>
    obtain ⟨allocated, moves⟩ := incrementalAssign_moves lib documented (c.allocate list) (c.entries list)
    refine ⟨c.entries list, by rw [entries_handles, entries_length], ?_, ?_⟩
    · rw [entries_length]
      exact allocated
    · rw [AssignmentCall.setsCount, Bool.and_false]
      exact moves.allocate
  | incrementalUnassign list =>
    obtain ⟨allocated, moves, -⟩ :=
      incrementalUnassign_moves lib documented (c.allocate list) (c.entries list)
    refine ⟨c.entries list, by rw [entries_handles, entries_length], ?_, ?_⟩
    · rw [entries_length]
      exact allocated
    · rw [AssignmentCall.setsCount, Bool.and_false]
      exact moves.allocate
  | refreshAssignments =>
    rw [AssignmentCall.setsCount, Bool.and_true]
    cases online : c.isConnected with
    | false =>
      rw [accepts_offline online rfl]
      simp only [call, refreshAssignments, online]
      exact ⟨[], rfl, rfl, .kept rfl rfl (.inl rfl)⟩
    | true =>
      obtain ⟨client, has⟩ := client_of_connected online
      rw [accepts_online has (.inl online)]
      simp only [call, refreshAssignments, online, has, Librdkafka.accepts, delete, (documented _).1]
      refine ⟨c.entries (lib.assignment client).2, by rw [entries_handles, entries_length], ?_⟩
      rw [entries_length]
      split
      · rename_i accepted
        rw [decide_eq_true accepted]
        exact ⟨rfl, .replaced rfl (by rw [entries_length]) rfl⟩
      · rename_i refused
        rw [decide_eq_false refused]
        exact ⟨rfl, .kept rfl rfl (.inl rfl)⟩

section Forget
variable (lib : Librdkafka σ) (destroy : PartitionDestroy) (c : EntryConsumer σ) (fresh : List PartitionEntry)

theorem scan_forget (s : UnassignLoop) (p : PartitionEntry) :
    ((s.scan p).mPartitions.map PartitionEntry.partition, (s.scan p).mPartitionCnt) =
      KafkaConsumer.erasePartition (s.mPartitions.map PartitionEntry.partition, s.mPartitionCnt) p.partition := by
  rcases s.scan_cases p with ⟨before, q, after, split, earlier, same, scanned⟩ | ⟨none, scanned⟩
  · have matching := KafkaConsumer.samePartition_iff.mpr same
    have others : ∀ other ∈ before.map PartitionEntry.partition,
        ¬ KafkaConsumer.samePartition p.partition other = true := by
      intro other member
      obtain ⟨entry, found, rfl⟩ := List.mem_map.mp member
      exact fun equal => earlier entry found (KafkaConsumer.samePartition_iff.mp equal)
    rw [scanned, split, List.map_append, List.map_append, List.map_cons, KafkaConsumer.erasePartition,
      if_pos (by simp [matching]), List.eraseP_append_right _ others, List.eraseP_cons_of_pos matching]
  · have unmatched : ¬ (s.mPartitions.map PartitionEntry.partition).any
        (KafkaConsumer.samePartition p.partition) = true := by
      rw [List.any_map, List.any_eq_true]
      rintro ⟨entry, member, equal⟩
      exact none entry member (KafkaConsumer.samePartition_iff.mp equal)
    rw [scanned, KafkaConsumer.erasePartition, if_neg unmatched]

theorem foldl_scan_forget (list : List PartitionEntry) (s : UnassignLoop) :
    ((list.foldl UnassignLoop.scan s).mPartitions.map PartitionEntry.partition,
        (list.foldl UnassignLoop.scan s).mPartitionCnt) =
      (list.map PartitionEntry.partition).foldl KafkaConsumer.erasePartition
        (s.mPartitions.map PartitionEntry.partition, s.mPartitionCnt) := by
  induction list generalizing s with
  | nil => rfl
  | cons p rest ih => rw [List.foldl_cons, ih, scan_forget, List.map_cons, List.foldl_cons]

theorem assign_forget : ((c.assign lib destroy fresh).1.forget, (c.assign lib destroy fresh).2) =
    c.forget.assign lib (fresh.map PartitionEntry.partition) := by
  obtain ⟨_ | client, _ | _, vector, count, allocated, destroyed⟩ := c
  · rfl
  · rfl
  · simp only [assign, KafkaConsumer.assign, isConnected, KafkaConsumer.isConnected, forget, Bool.not_false,
      Option.isSome_some, Bool.and_self, List.length_map]
    by_cases accepted : (lib.assign client (fresh.map PartitionEntry.partition)).1 = ErrorCode.errNoError
    · simp only [if_pos accepted, delete]
    · simp only [if_neg accepted, delete]
  · rfl

theorem incrementalAssign_forget :
    ((c.incrementalAssign lib destroy fresh).1.forget, (c.incrementalAssign lib destroy fresh).2) =
      c.forget.incrementalAssign lib (fresh.map PartitionEntry.partition) := by
  obtain ⟨_ | client, _ | _, vector, count, allocated, destroyed⟩ := c
  · rfl
  · rfl
  · simp only [incrementalAssign, KafkaConsumer.incrementalAssign, isConnected, KafkaConsumer.isConnected, forget,
      Bool.not_false, Option.isSome_some, Bool.and_self, List.length_map, ← List.map_append]
    by_cases accepted : (lib.incrementalAssign client (fresh.map PartitionEntry.partition)).1.isNone = true
    · simp only [if_pos accepted]
    · simp only [if_neg accepted, delete]
  · rfl

theorem unassign_forget (documented : destroy.Documented) (clears : ∀ list, lib.destroy list = []) :
    ((c.unassign lib destroy).1.forget, (c.unassign lib destroy).2) = c.forget.unassign lib := by
  obtain ⟨_ | client, closing, vector, count, allocated, destroyed⟩ := c
  · cases closing <;> rfl
  · simp only [unassign, KafkaConsumer.unassign, isConnected, KafkaConsumer.isConnected, isClosing,
      KafkaConsumer.isClosing, forget, Option.isSome_some, Bool.true_and, Bool.and_true, Bool.or_not_self,
      ne_eq, ite_not, delete, (documented _).2, clears]
    by_cases accepted : (lib.unassign client).1 = ErrorCode.errNoError
    · simp only [if_pos accepted, List.map_nil]
    · simp only [if_neg accepted]

theorem incrementalUnassign_forget :
    ((c.incrementalUnassign lib destroy fresh).1.forget, (c.incrementalUnassign lib destroy fresh).2) =
      c.forget.incrementalUnassign lib (fresh.map PartitionEntry.partition) := by
  obtain ⟨_ | client, closing, vector, count, allocated, destroyed⟩ := c
  · cases closing <;> rfl
  · simp only [incrementalUnassign, KafkaConsumer.incrementalUnassign, isConnected, KafkaConsumer.isConnected,
      isClosing, KafkaConsumer.isClosing, forget, Option.isSome_some, Bool.true_and, Bool.and_true,
      Bool.or_not_self, delete]
    by_cases accepted : (lib.incrementalUnassign client (fresh.map PartitionEntry.partition)).1.isNone = true
    · simp only [if_pos accepted, ← foldl_scan_forget fresh ⟨vector, [], count⟩]
    · simp only [if_neg accepted]

theorem refreshAssignments_forget :
    ((c.refreshAssignments lib destroy).1.forget, (c.refreshAssignments lib destroy).2) =
      c.forget.refreshAssignments lib := by
  obtain ⟨_ | client, _ | _, vector, count, allocated, destroyed⟩ := c
  · rfl
  · rfl
  · simp only [refreshAssignments, KafkaConsumer.refreshAssignments, isConnected, KafkaConsumer.isConnected, forget,
      Bool.not_false, Option.isSome_some, Bool.and_self, allocate]
    by_cases accepted : (lib.assignment client).1 = ErrorCode.errNoError
    · simp only [if_pos accepted, delete, entries_partitions, entries_length]
    · simp only [if_neg accepted]
  · rfl

/-- Without the pointers a call does what it does on a list of partitions. -/
theorem call_forget (documented : destroy.Documented) (clears : ∀ list, lib.destroy list = [])
    (action : AssignmentCall) :
    ((c.call lib destroy action).1.forget, (c.call lib destroy action).2) = c.forget.call lib action := by
  cases action with
  | assign list =>
    have forgotten := assign_forget lib destroy (c.allocate list) (c.entries list)
    rwa [entries_partitions] at forgotten
  | unassign => exact unassign_forget lib destroy c documented clears
  | incrementalAssign list =>
    have forgotten := incrementalAssign_forget lib destroy (c.allocate list) (c.entries list)
    rwa [entries_partitions] at forgotten
  | incrementalUnassign list =>
    have forgotten := incrementalUnassign_forget lib destroy (c.allocate list) (c.entries list)
    rwa [entries_partitions] at forgotten
  | refreshAssignments => exact refreshAssignments_forget lib destroy c

end Forget

/-- No object is deleted twice, or while it is in the vector. -/
structure Owned (c : EntryConsumer σ) : Prop where
  distinct : (c.mPartitions.map PartitionEntry.handle ++ c.destroyed).Nodup
  made : ∀ handle ∈ c.mPartitions.map PartitionEntry.handle ++ c.destroyed, handle < c.allocated

/-- What a call leaves is part of what there was and of the new objects. -/
theorem Moves.subperm {counted : Bool} (moves : Moves fresh c after counted) :
    (after.mPartitions.map PartitionEntry.handle ++ after.destroyed).Subperm
      (c.mPartitions.map PartitionEntry.handle ++ c.destroyed ++ fresh.map PartitionEntry.handle) := by
  cases moves with
  | kept partitions count destroyed =>
    rw [partitions]
    rcases destroyed with same | added
    · rw [same]
      exact (List.sublist_append_left _ _).subperm
    · rw [added, List.append_assoc]
  | replaced partitions count destroyed =>
    rw [partitions, destroyed]
    refine List.Perm.subperm ?_
    refine List.perm_append_comm.trans (List.Perm.append_right _ List.perm_append_comm)
  | appended partitions count destroyed =>
    rw [partitions, destroyed, List.map_append, List.append_assoc, List.append_assoc]
    exact (List.Perm.append_left _ List.perm_append_comm).subperm
  | @taken removed takes count destroyed =>
    rw [destroyed, ← List.append_assoc, ← List.append_assoc]
    refine (List.Perm.append_right _ ?_).subperm
    rw [List.append_assoc]
    refine (List.Perm.append_left _ List.perm_append_comm).trans ?_
    rw [← List.append_assoc, ← List.map_append]
    exact List.Perm.append_right _ (takes.perm.map _)

theorem Owned.call (lib : Librdkafka σ) (documented : destroy.Documented) (owned : c.Owned)
    (action : AssignmentCall) : (c.call lib destroy action).1.Owned := by
  obtain ⟨fresh, handles, allocated, moves⟩ := call_moves lib documented c action
  have part := moves.subperm
  rw [handles] at part
  have disjoint : (c.mPartitions.map PartitionEntry.handle ++ c.destroyed ++
      List.range' c.allocated fresh.length).Nodup := by
    refine owned.distinct.append List.nodup_range' ?_
    intro handle old new
    have := owned.made handle old
    have := (List.mem_range'_1.mp new).1
    omega
  constructor
  · obtain ⟨whole, perm, sub⟩ := part
    exact perm.nodup_iff.mp (disjoint.sublist sub)
  · intro handle member
    rw [allocated]
    rcases List.mem_append.mp (part.subset member) with old | new
    · have := owned.made handle old
      omega
    · have := (List.mem_range'_1.mp new).2
      omega

/-- A call that does not set the count adds to it what it adds to the vector. -/
theorem Moves.count (moves : Moves fresh c after false) :
    after.mPartitionCnt =
      c.mPartitionCnt.map fun n => n + (after.mPartitions.length : Int) - c.mPartitions.length := by
  cases moves with
  | kept partitions count destroyed => simp [partitions, count]
  | appended partitions count destroyed =>
    rw [count, partitions, List.length_append]
    congr 1
    funext n
    push_cast
    omega
  | @taken removed takes count destroyed =>
    have length := takes.length
    rw [count]
    congr 1
    funext n
    omega

theorem Moves.counted (moves : Moves fresh c after true) :
    after.mPartitionCnt = some (after.mPartitions.length : Int) := by
  cases moves with
  | replaced partitions count destroyed => rw [count, partitions]

/-- An accepted call that sets the count. -/
def sets (lib : Librdkafka σ) (c : EntryConsumer σ) : EntryAction σ → Prop
  | .call action => c.forget.accepts lib action = true ∧ action.setsCount = true
  | .connection _ _ => False

/-- One of the calls of a run sets the count. -/
def SetOnce (lib : Librdkafka σ) (destroy : PartitionDestroy) (trace : List (EntryAction σ)) : Prop :=
  ∃ earlier action later before, trace = earlier ++ action :: later ∧
    Reach (step lib destroy) {} earlier before ∧ before.sets lib action

theorem SetOnce.next {trace : List (EntryAction σ)} {action : EntryAction σ} (set : SetOnce lib destroy trace) :
    SetOnce lib destroy (trace ++ [action]) := by
  obtain ⟨earlier, call, later, before, rfl, reach, sets⟩ := set
  exact ⟨earlier, call, later ++ [action], before, by simp, reach, sets⟩

theorem setOnce_next {trace : List (EntryAction σ)} {action : EntryAction σ}
    (reach : Reach (step lib destroy) {} trace c) (set : SetOnce lib destroy (trace ++ [action])) :
    SetOnce lib destroy trace ∨ c.sets lib action := by
  obtain ⟨earlier, call, later, before, split, first, sets⟩ := set
  rcases List.eq_nil_or_concat later with rfl | ⟨rest, last, rfl⟩
  · obtain ⟨rfl, same⟩ := List.append_inj' split rfl
    cases same
    cases Option.some.inj ((reach_iff_replay.mp first).symm.trans (reach_iff_replay.mp reach))
    exact .inr sets
  · rw [List.concat_eq_append, ← List.cons_append, ← List.append_assoc] at split
    obtain ⟨rfl, -⟩ := List.append_inj' split rfl
    exact .inl ⟨earlier, call, rest, before, rfl, first, sets⟩

/-- The count is that of the vector if one of the calls has set it, and is not
initialised if none has. -/
theorem count_cases (documented : destroy.Documented) {trace : List (EntryAction σ)}
    (reach : Reach (step lib destroy) {} trace c) :
    c.mPartitionCnt = some (c.mPartitions.length : Int) ∧ SetOnce lib destroy trace ∨
      c.mPartitionCnt = none ∧ ¬ SetOnce lib destroy trace := by
  induction reach with
  | start =>
    refine .inr ⟨rfl, ?_⟩
    rintro ⟨earlier, action, later, before, split, -⟩
    exact List.append_ne_nil_of_right_ne_nil earlier (List.cons_ne_nil _ _) split.symm
  | @next before after action trace reach run ih =>
    cases action with
    | connection mClient mIsClosing =>
      cases Option.some.inj run
      rcases ih with ⟨counted, set⟩ | ⟨unset, never⟩
      · exact .inl ⟨counted, set.next⟩
      · exact .inr ⟨unset, fun set => (setOnce_next reach set).elim never id⟩
    | call action =>
      cases Option.some.inj run
      obtain ⟨fresh, -, -, moves⟩ := call_moves lib documented before action
      by_cases sets : before.sets lib (.call action)
      · rw [sets.1, sets.2, Bool.true_and] at moves
        exact .inl ⟨moves.counted, trace, .call action, [], before, rfl, reach, sets⟩
      · rw [Bool.and_eq_false_iff.mpr (by simpa [EntryConsumer.sets, imp_iff_not_or] using sets)] at moves
        rw [moves.count]
        rcases ih with ⟨counted, set⟩ | ⟨unset, never⟩
        · refine .inl ⟨?_, set.next⟩
          rw [counted, Option.map_some]
          congr 1
          omega
        · refine .inr ⟨by rw [unset]; rfl, fun set => ?_⟩
          exact (setOnce_next reach set).elim never sets

theorem Owned.reach (documented : destroy.Documented) {trace : List (EntryAction σ)}
    (reach : Reach (step lib destroy) {} trace c) : c.Owned := by
  refine reach.invariant Owned ⟨by simp, by simp⟩ fun {before action after} owned run => ?_
  cases action with
  | connection mClient mIsClosing =>
    cases Option.some.inj run
    exact ⟨owned.distinct, owned.made⟩
  | call action =>
    cases Option.some.inj run
    exact owned.call lib documented action

end EntryConsumer

/-- The count is the size of the vector once a call has set it, and only then.
An accepted IncrementalUnassign takes the first match of each entry of its list
out of the vector, in turn, and deletes each of them once. -/
theorem assignedPartitionCount_iff {σ : Type} {lib : Librdkafka σ} {destroy : PartitionDestroy}
    (documented : destroy.Documented) {c : EntryConsumer σ} {trace : List (EntryAction σ)}
    (reach : Reach (EntryConsumer.step lib destroy) {} trace c) :
    (c.assignedPartitionCount = some (c.mPartitions.length : Int) ↔ EntryConsumer.SetOnce lib destroy trace) ∧
    ∀ list, c.forget.accepts lib (.incrementalUnassign list) = true →
      let after := (c.call lib destroy (.incrementalUnassign list)).1
      ∃ removed, TakesOut (c.entries list) c.mPartitions removed after.mPartitions ∧
        after.mPartitions.Sublist c.mPartitions ∧
        after.destroyed = c.destroyed ++ removed.map PartitionEntry.handle ++
          (c.entries list).map PartitionEntry.handle ∧ after.destroyed.Nodup := by
  constructor
  · rcases EntryConsumer.count_cases documented reach with ⟨counted, set⟩ | ⟨unset, never⟩
    · exact iff_of_true counted set
    · refine iff_of_false ?_ never
      rw [EntryConsumer.assignedPartitionCount, unset]
      exact (Option.some_ne_none _).symm
  · intro list accepted
    obtain ⟨-, -, takes⟩ :=
      EntryConsumer.incrementalUnassign_moves lib documented (c.allocate list) (c.entries list)
    rw [EntryConsumer.entries_partitions] at takes
    obtain ⟨removed, takes, destroyed⟩ := takes accepted
    have owned := ((EntryConsumer.Owned.reach documented reach).call lib documented
      (.incrementalUnassign list)).distinct
    exact ⟨removed, takes, takes.sublist, destroyed, (List.nodup_append.mp owned).2.1⟩

def sampleDestroy : PartitionDestroy where
  deletes entries := entries.map PartitionEntry.handle
  leaves _ := []

theorem sampleDestroy_documented : sampleDestroy.Documented := fun _ => ⟨rfl, rfl⟩

def samplePartition (n : Int32) : TopicPartition := { topic := "t", partition := n, offset := 0 }

/-- Two partitions are assigned, and one of them is taken out. -/
theorem assignedPartitionCount_iff_assigned :
    ∃ c, Reach (EntryConsumer.step (tableLibrdkafka "COOPERATIVE") sampleDestroy) {}
        [.connection (some []) false, .call (.assign [samplePartition 0, samplePartition 1])] c ∧
      c.assignedPartitionCount = some 2 ∧
      c.forget.accepts (tableLibrdkafka "COOPERATIVE") (.incrementalUnassign [samplePartition 1]) = true ∧
      ∃ removed, TakesOut (c.entries [samplePartition 1]) c.mPartitions removed
        (c.call (tableLibrdkafka "COOPERATIVE") sampleDestroy
          (.incrementalUnassign [samplePartition 1])).1.mPartitions := by
  obtain ⟨c, run, count, accepted⟩ : ∃ c,
      replay (EntryConsumer.step (tableLibrdkafka "COOPERATIVE") sampleDestroy) {}
        [.connection (some []) false, .call (.assign [samplePartition 0, samplePartition 1])] = some c ∧
      c.assignedPartitionCount = some 2 ∧
      c.forget.accepts (tableLibrdkafka "COOPERATIVE") (.incrementalUnassign [samplePartition 1]) = true :=
    ⟨_, rfl, by decide, by decide⟩
  have reach := reach_iff_replay.mpr run
  obtain ⟨removed, takes, -⟩ :=
    (assignedPartitionCount_iff sampleDestroy_documented reach).2 [samplePartition 1] accepted
  exact ⟨c, reach, count, accepted, removed, takes⟩

/-- The first call on a new consumer is an IncrementalAssign. -/
theorem assignedPartitionCount_uninitialised : sampleDestroy.Documented ∧
    ∃ c, Reach (EntryConsumer.step (tableLibrdkafka "COOPERATIVE") sampleDestroy) {}
        [.connection (some []) false, .call (.incrementalAssign [samplePartition 0])] c ∧
      c.mPartitions.length = 1 ∧ c.assignedPartitionCount = none ∧
      c.assignedPartitionCount ≠ some (c.mPartitions.length : Int) :=
  ⟨sampleDestroy_documented, _, reach_iff_replay.mpr rfl, by decide, by decide, by decide⟩

end NodeRdkafka
