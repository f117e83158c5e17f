import NodeRdkafka.PartitionEntries
import NodeRdkafka.TopicPartitionArrays
import NodeRdkafka.Lib.WorkerPool

namespace NodeRdkafka
open Transition

/-- NodeSeek past the checks of its timeout and callback, which come before it makes an object. -/
def KafkaConsumer.nodeSeek (toText : JsValue → String) (argument : JsValue) : Except String Toppars :=
  if argument.isObject then
    match Conversion.TopicPartition.fromV8Object toText argument with
    | none => .error "Invalid topic partition provided"
    | some toppar => .ok (.one toppar)
  else .error "Topic partition must be an object"

/-- The calls that make topic partitions for themselves. -/
inductive PartitionCall
  | array (call : ArrayCall)
  | seek

namespace PartitionCall

def node (toText : JsValue → String) : PartitionCall → JsValue → Except String Toppars
  | array call => call.node toText
  | seek => KafkaConsumer.nodeSeek toText

/-- The calls that a worker carries out. -/
def queued : PartitionCall → Bool
  | array .committed | array .offsetsForTimes | array .sendOffsetsToTransaction | seek => true
  | array _ => false

/-- NodeCommit and NodeCommitSync throw before they read their argument. -/
def checksFirst : PartitionCall → Bool
  | array .commit | array .commitSync => true
  | _ => false

/-- The loop of NodeResume reads each object whatever the answer. -/
def readsAll : PartitionCall → Bool
  | array .resume => true
  | _ => false

end PartitionCall

/-- The objects of a vector; a NULL is none. -/
def Toppars.objects : Toppars → List TopicPartition
  | all => []
  | list toppars => toppars.reduceOption
  | one toppar => [toppar]

def Toppars.hasNull : Toppars → Bool
  | list toppars => toppars.any Option.isNone
  | _ => false

/-- A worker with its vector. -/
structure PartitionWorker where
  call : PartitionCall
  entries : List PartitionEntry
  hasNull : Bool

def PartitionWorker.handles (w : PartitionWorker) : List Nat := w.entries.map PartitionEntry.handle

/-- The topic partitions of a consumer, in its own vector and in those of its calls. `lost`
records the objects that no pointer leads to any more. -/
structure PartitionHeap (σ : Type) extends WorkerPool PartitionWorker PartitionWorker where
  consumer : EntryConsumer σ := {}
  mIsSubscribed : Bool := false
  lost : List Nat := []

/-- The steps; `err` is what librdkafka answers, and SendOffsetsToTransaction asks whether
its producer is connected. -/
inductive HeapAction (σ : Type)
  | assignment (action : AssignmentCall)
  | connection (mClient : Option σ) (mIsClosing mIsSubscribed : Bool)
  | call (call : PartitionCall) (argument : JsValue) (err : ErrorCode)
  | execute (index : Nat) (producerConnected : Bool)
  | complete (index : Nat)

namespace PartitionHeap
section
variable {σ : Type} (lib : Librdkafka σ) (destroy : PartitionDestroy) (toText : JsValue → String)

/-- The new objects of a call that returns before it puts them anywhere. -/
def abandons (c : EntryConsumer σ) : AssignmentCall → List PartitionEntry
  | .assign list | .incrementalAssign list => if c.isConnected then [] else c.entries list
  | .incrementalUnassign list => if c.isClosing || c.isConnected then [] else c.entries list
  | .unassign => []
  | .refreshAssignments =>
    match c.isConnected, c.mClient with
    | true, some client =>
      let (err, list) := lib.assignment client
      if err = ErrorCode.errNoError then [] else c.entries list
    | _, _ => []

/-- OffsetsStore needs a subscription besides. -/
def reaches (s : PartitionHeap σ) : PartitionCall → Bool
  | .array .offsetsStore => s.consumer.isConnected && s.mIsSubscribed
  | _ => s.consumer.isConnected

/-- The error that the baton of a call has. -/
def batonErr (s : PartitionHeap σ) (call : PartitionCall) (err : ErrorCode) : ErrorCode :=
  if s.reaches call then err else ErrorCode.errState

/-- The vector is deleted, object by object. -/
def release (s : PartitionHeap σ) (entries : List PartitionEntry) : PartitionHeap σ :=
  { s with consumer := s.consumer.delete destroy entries }

def lose (s : PartitionHeap σ) (entries : List PartitionEntry) : PartitionHeap σ :=
  { s with lost := s.lost ++ entries.map PartitionEntry.handle }

/-- A call on the main thread past its conversion. NodePosition returns the code of an error
before it comes to its destroy. -/
def finishCall (s : PartitionHeap σ) (call : PartitionCall) (entries : List PartitionEntry) (err : ErrorCode) :
    PartitionHeap σ :=
  match call with
  | .array .position =>
    if s.batonErr call err ≠ ErrorCode.errNoError then s.lose entries else s.release destroy entries
  | _ => s.release destroy entries

/-- The destructor of a worker; that of SendOffsetsToTransaction is empty. -/
def destruct (s : PartitionHeap σ) (w : PartitionWorker) : PartitionHeap σ :=
  match w.call with
  | .array .sendOffsetsToTransaction => s.lose w.entries
  | _ => s.release destroy w.entries

def nodeCall (s : PartitionHeap σ) (call : PartitionCall) (argument : JsValue) (err : ErrorCode) :
    Option (PartitionHeap σ) :=
  if call.checksFirst && !s.consumer.isConnected then some s
  else
    match call.node toText argument with
    | .error _ => some s
    | .ok toppars =>
      let entries := s.consumer.entries toppars.objects
      let s := { s with consumer := s.consumer.allocate toppars.objects }
      if call.queued then
        some { s with toWorkerPool := s.toWorkerPool.queue { call, entries, hasNull := toppars.hasNull } }
      -- A NULL that is read ends the process.
      else if toppars.hasNull && (s.reaches call || call.readsAll) then none
      else some (s.finishCall destroy call entries err)

/-- Execute reads the vector when there is a handle to give it to. -/
def readsVector (s : PartitionHeap σ) (w : PartitionWorker) (producerConnected : Bool) : Bool :=
  match w.call with
  | .array .sendOffsetsToTransaction => producerConnected
  | _ => s.consumer.isConnected

def step (s : PartitionHeap σ) : HeapAction σ → Option (PartitionHeap σ)
  | .assignment action =>
    some { s.lose (abandons lib s.consumer action) with consumer := (s.consumer.call lib destroy action).1 }
  | .connection mClient mIsClosing mIsSubscribed =>
    some { s with consumer := { s.consumer with mClient, mIsClosing }, mIsSubscribed }
  | .call call argument err => s.nodeCall destroy toText call argument err
  | .execute index producerConnected =>
    match s.toWorkerPool.take index with
    | some (w, pool) =>
      if w.hasNull && s.readsVector w producerConnected then none else some { s with toWorkerPool := pool.finish w }
    | none => none
  | .complete index =>
    (s.toWorkerPool.complete index).map fun (w, pool) => destruct destroy { s with toWorkerPool := pool } w

/-- The objects that something points to: m_partitions or the vector of a worker. -/
def placed (s : PartitionHeap σ) : List Nat :=
  s.consumer.mPartitions.map PartitionEntry.handle ++ (s.pending id).flatMap PartitionWorker.handles

/-- Each object ever made is in one place: it is pointed to, lost, or deleted once. -/
def Conserved (s : PartitionHeap σ) : Prop :=
  (s.placed ++ (s.lost ++ s.consumer.destroyed)).Perm (List.range s.consumer.allocated)

/-- No object is left behind: the calls that make objects before they look for the handle
find it, Position succeeds, and no SendOffsetsToTransaction has an object. -/
def Frees (s : PartitionHeap σ) : HeapAction σ → Prop
  | .assignment (.assign list) | .assignment (.incrementalAssign list) => list ≠ [] → s.consumer.isConnected = true
  | .assignment (.incrementalUnassign list) =>
    list ≠ [] → s.consumer.isClosing = true ∨ s.consumer.isConnected = true
  | .assignment .unassign => True
  | .assignment .refreshAssignments => ∀ client, s.consumer.isConnected = true → s.consumer.mClient = some client →
    (lib.assignment client).1 ≠ ErrorCode.errNoError → (lib.assignment client).2 = []
  | .call (.array .position) argument err => ∀ toppars, KafkaConsumer.nodePosition toText argument = .ok toppars →
    toppars.objects ≠ [] → s.consumer.isConnected = true ∧ err = ErrorCode.errNoError
  | .complete index => ∀ w, s.executed[index]? = some w → w.call = .array .sendOffsetsToTransaction → w.entries = []
  | .connection .. | .call .. | .execute .. => True

end

section
variable {σ : Type} {lib : Librdkafka σ} {destroy : PartitionDestroy} {toText : JsValue → String}

/-- A call makes objects; they and those that there were are in m_partitions, abandoned or
deleted after it. -/
def Moved (c after : EntryConsumer σ) (abandoned : List PartitionEntry) : Prop :=
  ∃ n, after.allocated = c.allocated + n ∧
    (after.mPartitions.map PartitionEntry.handle ++
      (abandoned.map PartitionEntry.handle ++ after.destroyed)).Perm
      (c.mPartitions.map PartitionEntry.handle ++ c.destroyed ++ List.range' c.allocated n)

/-- It is enough to count. -/
theorem moved_of_count {c after : EntryConsumer σ} {abandoned : List PartitionEntry} (n : Nat)
    (allocated : after.allocated = c.allocated + n)
    (count : ∀ a, (after.mPartitions.map PartitionEntry.handle).count a +
      ((abandoned.map PartitionEntry.handle).count a + after.destroyed.count a) =
        (c.mPartitions.map PartitionEntry.handle).count a + c.destroyed.count a +
          (List.range' c.allocated n).count a) : Moved c after abandoned :=
  ⟨n, allocated, List.perm_iff_count.mpr fun a => by simpa only [List.count_append] using count a⟩

/-- New objects that no one takes. -/
theorem abandoned_moved (c : EntryConsumer σ) (list : List TopicPartition) :
    Moved c (c.allocate list) (c.entries list) := by
  refine moved_of_count list.length rfl fun a => ?_
  simp only [EntryConsumer.allocate, c.entries_handles list]
  omega

theorem untouched_moved (c : EntryConsumer σ) : Moved c c [] := moved_of_count 0 rfl fun a => by simp

section Calls
variable (documented : destroy.Documented) (c : EntryConsumer σ) (list : List TopicPartition)
include documented

theorem assign_moved : Moved c (c.call lib destroy (.assign list)).1 (abandons lib c (.assign list)) := by
  have handles := c.entries_handles list
  cases online : c.isConnected with
  | false =>
    have offline : (c.allocate list).isConnected = false := online
    simp only [EntryConsumer.call, EntryConsumer.assign, offline, abandons, online]
    exact abandoned_moved c list
  | true =>
    obtain ⟨client, has⟩ := EntryConsumer.client_of_connected online
    have connected : (c.allocate list).isConnected = true := online
    have there : (c.allocate list).mClient = some client := has
    simp only [EntryConsumer.call, EntryConsumer.assign, connected, there, abandons, online, if_true]
    split
    all_goals
      refine moved_of_count list.length rfl fun a => ?_
      simp only [EntryConsumer.delete, EntryConsumer.allocate, (documented _).1, handles, List.count_append,
        List.map_nil, List.count_nil]
      omega

theorem unassign_moved : Moved c (c.call lib destroy .unassign).1 (abandons lib c .unassign) := by
  cases through : c.isClosing || c.isConnected with
  | false =>
    simp only [EntryConsumer.call, EntryConsumer.unassign, through, abandons]
    exact untouched_moved c
  | true =>
    obtain ⟨client, has⟩ := EntryConsumer.client_of_reached through
    simp only [EntryConsumer.call, EntryConsumer.unassign, through, has, abandons]
    split
    all_goals
      refine moved_of_count 0 rfl fun a => ?_
      simp [EntryConsumer.delete, (documented _).1, (documented _).2]
    omega

theorem incrementalAssign_moved : Moved c (c.call lib destroy (.incrementalAssign list)).1
    (abandons lib c (.incrementalAssign list)) := by
  have handles := c.entries_handles list
  cases online : c.isConnected with
  | false =>
    have offline : (c.allocate list).isConnected = false := online
    simp only [EntryConsumer.call, EntryConsumer.incrementalAssign, offline, abandons, online]
    exact abandoned_moved c list
  | true =>
    obtain ⟨client, has⟩ := EntryConsumer.client_of_connected online
    have connected : (c.allocate list).isConnected = true := online
    have there : (c.allocate list).mClient = some client := has
    simp only [EntryConsumer.call, EntryConsumer.incrementalAssign, connected, there, abandons, online, if_true]
    split
    all_goals
      refine moved_of_count list.length rfl fun a => ?_
      simp only [EntryConsumer.delete, EntryConsumer.allocate, (documented _).1, handles, List.count_append,
        List.map_append, List.map_nil, List.count_nil]
      omega

theorem incrementalUnassign_moved : Moved c (c.call lib destroy (.incrementalUnassign list)).1
    (abandons lib c (.incrementalUnassign list)) := by
  have handles := c.entries_handles list
  cases through : c.isClosing || c.isConnected with
  | false =>
    have shut : ((c.allocate list).isClosing || (c.allocate list).isConnected) = false := through
    simp only [EntryConsumer.call, EntryConsumer.incrementalUnassign, shut, abandons, through]
    exact abandoned_moved c list
  | true =>
    obtain ⟨client, has⟩ := EntryConsumer.client_of_reached through
    have opened : ((c.allocate list).isClosing || (c.allocate list).isConnected) = true := through
    have there : (c.allocate list).mClient = some client := has
    obtain ⟨removed, takes, deleted, _⟩ := UnassignLoop.foldl_scan (c.entries list)
      { mPartitions := c.mPartitions, deletePartitions := [], mPartitionCnt := c.mPartitionCnt }
    simp only [EntryConsumer.call, EntryConsumer.incrementalUnassign, opened, there, abandons, through, if_true]
    refine moved_of_count list.length rfl fun a => ?_
    simp only [EntryConsumer.delete, EntryConsumer.allocate, (documented _).1, handles, List.count_append,
      List.map_nil, List.count_nil]
    split
    · have taken := (takes.perm.map PartitionEntry.handle).count_eq a
      rw [List.map_append, List.count_append] at taken
      dsimp only at taken
      rw [deleted, List.nil_append]
      omega
    · simp only [List.map_nil, List.count_nil]
      omega

theorem refreshAssignments_moved : Moved c (c.call lib destroy .refreshAssignments).1
    (abandons lib c .refreshAssignments) := by
  cases online : c.isConnected with
  | false =>
    simp only [EntryConsumer.call, EntryConsumer.refreshAssignments, online, abandons]
    exact untouched_moved c
  | true =>
    obtain ⟨client, has⟩ := EntryConsumer.client_of_connected online
    have handles := c.entries_handles (lib.assignment client).2
    simp only [EntryConsumer.call, EntryConsumer.refreshAssignments, online, has, abandons]
    split
    all_goals
      refine moved_of_count (lib.assignment client).2.length rfl fun a => ?_
      simp only [EntryConsumer.delete, EntryConsumer.allocate, (documented _).1, handles, List.count_append,
        List.map_nil, List.count_nil]
      omega

theorem call_moved (action : AssignmentCall) :
    Moved c (c.call lib destroy action).1 (abandons lib c action) := by
  cases action with
  | assign list => exact assign_moved documented c list
  | unassign => exact unassign_moved documented c
  | incrementalAssign list => exact incrementalAssign_moved documented c list
  | incrementalUnassign list => exact incrementalUnassign_moved documented c list
  | refreshAssignments => exact refreshAssignments_moved documented c

end Calls

variable {s t : PartitionHeap σ}

/-- The same by counting. -/
theorem conserved_iff : s.Conserved ↔ ∀ a, (s.consumer.mPartitions.map PartitionEntry.handle).count a +
    ((s.pending id).flatMap PartitionWorker.handles).count a + (s.lost.count a + s.consumer.destroyed.count a) =
      (List.range s.consumer.allocated).count a := by
  simp only [Conserved, placed, List.perm_iff_count, List.count_append]

theorem count_range_add (k n a : Nat) :
    (List.range (k + n)).count a = (List.range k).count a + (List.range' k n).count a := by
  rw [List.range_eq_range', List.range_eq_range', ← List.count_append, ← List.range'_append_1, Nat.zero_add]

theorem release_conserved (documented : destroy.Documented) {entries : List PartitionEntry}
    (held : ∀ a, (s.consumer.mPartitions.map PartitionEntry.handle).count a +
      ((s.pending id).flatMap PartitionWorker.handles).count a + (s.lost.count a + s.consumer.destroyed.count a) +
        (entries.map PartitionEntry.handle).count a = (List.range s.consumer.allocated).count a) :
    (s.release destroy entries).Conserved ∧ (s.lose entries).Conserved := by
  refine ⟨conserved_iff.mpr fun a => ?_, conserved_iff.mpr fun a => ?_⟩
  · have before := held a
    simp only [release, EntryConsumer.delete, (documented _).1, List.count_append]
    omega
  · have before := held a
    simp only [lose, List.count_append]
    omega

theorem Conserved.nodeCall (documented : destroy.Documented) (conserved : s.Conserved) {call : PartitionCall}
    {argument : JsValue} {err : ErrorCode} (run : s.nodeCall destroy toText call argument err = some t) :
    t.Conserved := by
  unfold PartitionHeap.nodeCall at run
  split at run
  · exact Option.some.inj run ▸ conserved
  · split at run
    · exact Option.some.inj run ▸ conserved
    · rename_i toppars _
      have handles := s.consumer.entries_handles toppars.objects
      dsimp only at run
      split at run
      · cases Option.some.inj run
        refine conserved_iff.mpr fun a => ?_
        have before := conserved_iff.mp conserved a
        simp only [WorkerPool.pending, WorkerPool.queue, EntryConsumer.allocate, count_range_add, ← handles,
          List.flatMap_append, List.flatMap_cons, List.flatMap_nil, List.append_nil, List.count_append,
          PartitionWorker.handles] at before ⊢
        omega
      · split at run
        · cases run
        · have held : ∀ a, (s.consumer.mPartitions.map PartitionEntry.handle).count a +
              ((s.pending id).flatMap PartitionWorker.handles).count a +
                (s.lost.count a + s.consumer.destroyed.count a) +
                  ((s.consumer.entries toppars.objects).map PartitionEntry.handle).count a =
                (List.range (s.consumer.allocated + toppars.objects.length)).count a := by
            intro a
            rw [count_range_add, ← handles, conserved_iff.mp conserved a]
          cases Option.some.inj run
          obtain ⟨released, losing⟩ := release_conserved
            (s := { s with consumer := s.consumer.allocate toppars.objects }) documented held
          unfold finishCall
          split
          · split
            · exact losing
            · exact released
          · exact released

theorem Conserved.step (documented : destroy.Documented) (conserved : s.Conserved) {action : HeapAction σ}
    (run : s.step lib destroy toText action = some t) : t.Conserved := by
  cases action with
  | assignment action =>
    cases Option.some.inj run
    have moves : Moved s.consumer (s.consumer.call lib destroy action).1 (abandons lib s.consumer action) :=
      call_moved documented s.consumer action
    obtain ⟨n, allocated, moved⟩ := moves
    refine conserved_iff.mpr fun a => ?_
    have before := conserved_iff.mp conserved a
    have counted := moved.count_eq a
    simp only [lose, allocated, count_range_add, List.count_append] at counted ⊢
    omega
  | connection mClient mIsClosing mIsSubscribed =>
    cases Option.some.inj run
    exact conserved
  | call call argument err => exact conserved.nodeCall documented run
  | execute index producerConnected =>
    simp only [PartitionHeap.step] at run
    split at run
    · rename_i w pool taken
      split at run
      · cases run
      · cases Option.some.inj run
        have same : ((pool.finish w).pending id).Perm (s.toWorkerPool.pending id) := WorkerPool.finish_pending taken rfl
        refine conserved_iff.mpr fun a => ?_
        rw [← conserved_iff.mp conserved a, (same.flatMap_right _).count_eq a]
    · cases run
  | complete index =>
    obtain ⟨⟨w, pool⟩, done, rfl⟩ := Option.map_eq_some_iff.mp run
    have taken : (s.toWorkerPool.pending id).Perm (w :: pool.pending id) := WorkerPool.complete_pending done
    have held : ∀ a, (s.consumer.mPartitions.map PartitionEntry.handle).count a +
        ((pool.pending id).flatMap PartitionWorker.handles).count a +
          (s.lost.count a + s.consumer.destroyed.count a) + (w.entries.map PartitionEntry.handle).count a =
        (List.range s.consumer.allocated).count a := by
      intro a
      have before := conserved_iff.mp conserved a
      rw [(taken.flatMap_right _).count_eq a, List.flatMap_cons, List.count_append, PartitionWorker.handles] at before
      omega
    obtain ⟨released, losing⟩ := release_conserved (s := { s with toWorkerPool := pool }) documented held
    simp only [destruct]
    split
    · exact losing
    · exact released

theorem entries_nil_iff {c : EntryConsumer σ} {list : List TopicPartition} : c.entries list = [] ↔ list = [] := by
  rw [← List.length_eq_zero_iff, EntryConsumer.entries_length, List.length_eq_zero_iff]

theorem lose_lost_iff {entries : List PartitionEntry} : (s.lose entries).lost = [] ↔ s.lost = [] ∧ entries = [] := by
  rw [lose, List.append_eq_nil_iff, List.map_eq_nil_iff]

theorem abandons_nil_iff (action : AssignmentCall) :
    abandons lib s.consumer action = [] ↔ Frees lib toText s (.assignment action) := by
  cases action with
  | assign list | incrementalAssign list =>
    cases online : s.consumer.isConnected <;> simp [abandons, Frees, online, entries_nil_iff]
  | unassign => simp [abandons, Frees]
  | incrementalUnassign list =>
    cases closing : s.consumer.isClosing <;> cases online : s.consumer.isConnected <;>
      simp [abandons, Frees, closing, online, entries_nil_iff]
  | refreshAssignments =>
    cases online : s.consumer.isConnected with
    | false => simp [abandons, Frees, online]
    | true =>
      obtain ⟨client, has⟩ := EntryConsumer.client_of_connected online
      by_cases accepted : (lib.assignment client).1 = ErrorCode.errNoError <;>
        simp [abandons, Frees, online, has, accepted, entries_nil_iff]

/-- Of the calls on the main thread Position alone may lose its objects. -/
theorem finishCall_lost {call : PartitionCall} {entries : List PartitionEntry} {err : ErrorCode} :
    (s.finishCall destroy call entries err).lost = [] ↔ s.lost = [] ∧
      (call = .array .position → entries ≠ [] → s.consumer.isConnected = true ∧ err = ErrorCode.errNoError) := by
  unfold finishCall
  split
  · have refused : ErrorCode.errState ≠ ErrorCode.errNoError := by decide
    split
    · rename_i failed
      rw [lose_lost_iff]
      refine and_congr_right fun _ => ⟨fun none _ some => absurd none some, fun succeeds => ?_⟩
      by_contra some
      obtain ⟨online, rfl⟩ := succeeds rfl some
      exact failed (if_pos online)
    · rename_i succeeded
      refine (and_iff_left fun _ _ => ?_).symm
      cases online : s.consumer.isConnected with
      | false => exact absurd (by simp [batonErr, reaches, online, refused]) succeeded
      | true => simpa [batonErr, reaches, online] using succeeded
  · rename_i others
    exact (and_iff_left fun position => (others position).elim).symm

theorem frees_call_iff {call : PartitionCall} {argument : JsValue} {err : ErrorCode} :
    Frees lib toText s (.call call argument err) ↔
      (call = .array .position → ∀ toppars, call.node toText argument = .ok toppars → toppars.objects ≠ [] →
        s.consumer.isConnected = true ∧ err = ErrorCode.errNoError) := by
  cases call with
  | array call => cases call <;> simp [Frees, PartitionCall.node, ArrayCall.node]
  | seek => simp [Frees]

theorem nodeCall_lost {call : PartitionCall} {argument : JsValue} {err : ErrorCode}
    (run : s.nodeCall destroy toText call argument err = some t) :
    t.lost = [] ↔ s.lost = [] ∧ Frees lib toText s (.call call argument err) := by
  rw [frees_call_iff]
  unfold nodeCall at run
  split at run
  · rename_i checked
    cases Option.some.inj run
    refine (and_iff_left fun position => ?_).symm
    simp [position, PartitionCall.checksFirst] at checked
  · split at run
    · rename_i refused
      cases Option.some.inj run
      simp [refused]
    · rename_i toppars made
      dsimp only at run
      split at run
      · rename_i queued
        cases Option.some.inj run
        refine (and_iff_left fun position => ?_).symm
        simp [position, PartitionCall.queued] at queued
      · split at run
        · cases run
        · cases Option.some.inj run
          rw [finishCall_lost]
          simp only [made, Except.ok.injEq, forall_eq', ne_eq, entries_nil_iff]
          rfl

theorem step_lost {action : HeapAction σ} (run : s.step lib destroy toText action = some t) :
    t.lost = [] ↔ s.lost = [] ∧ Frees lib toText s action := by
  cases action with
  | assignment action =>
    cases Option.some.inj run
    exact lose_lost_iff.trans (and_congr_right fun _ => abandons_nil_iff action)
  | connection mClient mIsClosing mIsSubscribed =>
    cases Option.some.inj run
    simp [Frees]
  | call call argument err => exact nodeCall_lost run
  | execute index producerConnected =>
    simp only [PartitionHeap.step] at run
    split at run
    · split at run
      · cases run
      · cases Option.some.inj run
        simp [Frees]
    · cases run
  | complete index =>
    obtain ⟨⟨w, pool⟩, done, rfl⟩ := Option.map_eq_some_iff.mp run
    have there := (WorkerPool.complete_spec done).1
    simp only [destruct, Frees, there, Option.some.injEq, forall_eq']
    split
    · rename_i sends
      rw [lose_lost_iff]
      simp [sends]
    · rename_i others
      exact (and_iff_left fun sends => (others sends).elim).symm

end
end PartitionHeap

/-- In every run of the calls of a consumer and of its workers, each topic partition object
is deleted at most once, and none that m_partitions or the vector of a worker points to has
been deleted. One is left behind exactly where a call returns before it looks at its objects:
an assignment call that the handle is not there for, a Position that fails, or the destructor
of SendOffsetsToTransaction. -/
theorem partition_objects {σ : Type} {lib : Librdkafka σ} {destroy : PartitionDestroy}
    {toText : JsValue → String} {trace : List (HeapAction σ)} {s : PartitionHeap σ}
    (documented : destroy.Documented) (reach : Reach (PartitionHeap.step lib destroy toText) {} trace s) :
    (s.placed ++ (s.lost ++ s.consumer.destroyed)).Perm (List.range s.consumer.allocated) ∧
      s.consumer.destroyed.Nodup ∧ (∀ object ∈ s.placed, object ∉ s.consumer.destroyed) ∧
      (s.lost = [] ↔ ReachWhile (PartitionHeap.Frees lib toText) (PartitionHeap.step lib destroy toText) {} trace s) := by
  have start : ({} : PartitionHeap σ).Conserved := List.Perm.refl _
  obtain ⟨conserved, lost⟩ : s.Conserved ∧ (s.lost = [] ↔
      ReachWhile (PartitionHeap.Frees lib toText) (PartitionHeap.step lib destroy toText) {} trace s) :=
    reach.good_iff_while PartitionHeap.Conserved (·.lost = []) start rfl fun conserved run =>
      ⟨conserved.step documented run, PartitionHeap.step_lost run⟩
  have once := conserved.nodup_iff.mpr List.nodup_range
  rw [List.nodup_append, List.nodup_append] at once
  obtain ⟨_, ⟨_, destroyed, _⟩, apart⟩ := once
  exact ⟨conserved, destroyed, fun object placed deleted =>
    apart object placed object (List.mem_append_right _ deleted) rfl, lost⟩

/-- A partition is assigned and given back, a worker asks for its committed offset, and its
position is asked for when the handle is gone. -/
def latePosition : List (HeapAction (List TopicPartition)) :=
  let argument := JsValue.array [.object [("topic", .string "t"), ("partition", nanNumber 0)]]
  [.connection (some []) false true, .assignment (.assign [samplePartition 0]),
    .call (.array .committed) argument ErrorCode.errNoError, .assignment .unassign, .execute 0 true, .complete 0,
    .connection none false true, .call (.array .position) argument ErrorCode.errNoError]

theorem partition_objects_latePosition : ∃ s,
    Reach (PartitionHeap.step (tableLibrdkafka "EAGER") sampleDestroy fun _ => "") {} latePosition s ∧
      s.consumer.destroyed = [0, 1] ∧ s.consumer.destroyed.Nodup ∧
      ¬ReachWhile (PartitionHeap.Frees (tableLibrdkafka "EAGER") fun _ => "")
        (PartitionHeap.step (tableLibrdkafka "EAGER") sampleDestroy fun _ => "") {} latePosition s := by
  obtain ⟨s, reach, destroyed, lost⟩ : ∃ s,
      Reach (PartitionHeap.step (tableLibrdkafka "EAGER") sampleDestroy fun _ => "") {} latePosition s ∧
        s.consumer.destroyed = [0, 1] ∧ s.lost = [2] := ⟨_, reach_iff_replay.mpr rfl, rfl, rfl⟩
  obtain ⟨_, once, _, freed⟩ := partition_objects sampleDestroy_documented reach
  exact ⟨s, reach, destroyed, once, fun frees => by simp [freed.mpr frees] at lost⟩

end NodeRdkafka
