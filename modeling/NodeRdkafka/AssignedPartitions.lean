import NodeRdkafka.Lib.Lists
import NodeRdkafka.Rebalance

namespace NodeRdkafka

/-- The methods of a consumer that take partitions. -/
inductive AssignMethod
  | assign
  | incrementalAssign
  | incrementalUnassign

namespace AssignMethod

def action : AssignMethod → List TopicPartition → AssignmentCall
  | assign => .assign
  | incrementalAssign => .incrementalAssign
  | incrementalUnassign => .incrementalUnassign

variable {σ : Type} (lib : Librdkafka σ) (err2str : ErrorCode → String)
variable (toLowerCase : String → String) (toText : JsValue → String)

def run (c : RebalanceConsumer σ) : AssignMethod → List JsValue → RebalanceConsumer σ × Except Thrown Unit
  | assign => c.assign lib err2str toLowerCase toText
  | incrementalAssign => c.incrementalAssign lib err2str toLowerCase toText
  | incrementalUnassign => c.incrementalUnassign lib err2str toLowerCase toText

theorem run_eq (c : RebalanceConsumer σ) (method : AssignMethod) (assignments : List JsValue) :
    method.run lib err2str toLowerCase toText c assignments =
      c.nodeCallWith lib err2str toLowerCase toText method.action assignments := by
  cases method <;> rfl

/-- Whether the method gets as far as librdkafka, whatever its partitions. -/
def reaches (c : KafkaConsumer σ) (method : AssignMethod) : Bool := c.reaches (method.action [])

theorem reaches_action (c : KafkaConsumer σ) (method : AssignMethod) (partitions : List TopicPartition) :
    c.reaches (method.action partitions) = method.reaches c := by
  cases method <;> rfl

theorem action_inj (method : AssignMethod) {left right : List TopicPartition}
    (same : method.action left = method.action right) : left = right := by
  cases method <;> cases same <;> rfl

end AssignMethod

/-- What becomes of the partition of an element: a number that is not negative
is kept, and a negative one is no partition. -/
def KeepsPartition : JsValue → Int32 → Prop
  | .number (.finite value), partition =>
    if value < 0 then partition = Conversion.TopicPartition.partitionUa else ((partition.toInt : Int) : Rat) = value
  | .number (.infinity true), partition => partition = Conversion.TopicPartition.partitionUa
  | _, _ => False

/-- The partitions that are kept: integers that an int holds, and from -1 on
downwards. -/
def ExactPartition : JsValue → Prop
  | .number (.finite value) => value ≤ -1 ∨ ∃ n : Nat, n < 2 ^ 31 ∧ value = n
  | .number (.infinity negative) => negative = true
  | _ => False

section
variable (toText : JsValue → String)

/-- An entry of the native list that stands for an element of the array. -/
structure Represents (element : JsValue) (tp : TopicPartition) : Prop where
  topic : tp.topic = Conversion.getString toText element "topic" ""
  partition : KeepsPartition (element.get "partition") tp.partition

/-- An element that the loop neither skips nor changes. -/
structure ExactElement (element : JsValue) : Prop where
  topic : Conversion.getString toText element "topic" "" ≠ ""
  partition : ExactPartition (element.get "partition")

/-- Either the method throws and nothing is passed to librdkafka, or it is
passed one entry for each element, in order. -/
def HandsOver {σ : Type} (before : RebalanceConsumer σ) (method : AssignMethod) (assignments : List JsValue)
    (outcome : RebalanceConsumer σ × Except Thrown Unit) : Prop :=
  (outcome.1.calls = before.calls ∧ ∃ e, outcome.2 = .error e) ∨
    ∃ partitions accepted, outcome.1.calls = before.calls ++ [(method.action partitions, accepted)] ∧
      List.Forall₂ (Represents toText) assignments partitions

end

/-- The 64 bit partition that the loop reads of a field that is there. -/
def readPartition : JsValue → Int64
  | .number value => value.toInt64
  | _ => -1

/-- The entry that it makes of it. -/
def narrowed (partition : Int64) : Int32 :=
  if partition < 0 then Conversion.TopicPartition.partitionUa else partition.toInt32

theorem keeps_narrowed_finite_iff (value : Rat) :
    KeepsPartition (.number (.finite value)) (narrowed (Number.finite value).toInt64) ↔
      ExactPartition (.number (.finite value)) := by
  have negative_iff := Number.toInt64_neg_iff value
  simp only [KeepsPartition, ExactPartition]
  by_cases negative : value < 0
  · have not_natural : ¬ ∃ n : Nat, n < 2 ^ 31 ∧ value = n := by
      rintro ⟨n, _, rfl⟩
      exact absurd negative (not_lt.mpr (Nat.cast_nonneg n))
    rw [if_pos negative, or_iff_left not_natural]
    constructor
    · intro unassigned
      by_contra above
      have small : (value.num.tdiv value.den).natAbs < 1 :=
        Number.natAbs_tdiv_lt (abs_lt.mpr ⟨by push_cast; linarith, by push_cast; linarith⟩)
      have zero : (Number.finite value).toInt64 = 0 := by
        have high : ¬ (2 ^ 63 : Rat) ≤ value := by linarith
        have low : ¬ value ≤ -2 ^ 63 := by linarith
        have truncated : value.num.tdiv value.den = 0 := by omega
        simp [Number.toInt64, high, low, truncated]
      rw [zero] at unassigned
      exact absurd unassigned (by decide)
    · intro below
      exact if_pos (negative_iff.mpr below)
  · have natural : 0 ≤ value := not_lt.mp negative
    have above : ¬ value ≤ -1 := by linarith
    rw [if_neg negative, or_iff_right above, narrowed, if_neg (fun low => above (negative_iff.mp low))]
    exact Number.toInt32_toInt64_eq_iff natural

/-- What the loop reads of a partition is kept if and only if it is exact. -/
theorem keeps_narrowed_iff (partition : JsValue) :
    KeepsPartition partition (narrowed (readPartition partition)) ↔ ExactPartition partition := by
  cases partition with
  | number value =>
    cases value with
    | nan => exact Iff.rfl
    | infinity negative =>
      cases negative with
      | true =>
        have unassigned : narrowed Int64.minValue = Conversion.TopicPartition.partitionUa := by decide
        exact ⟨fun _ => rfl, fun _ => unassigned⟩
      | false => exact ⟨False.elim, fun same => by cases same⟩
    | finite value => exact keeps_narrowed_finite_iff value
  | _ => exact Iff.rfl

theorem JsValue.get_orEmpty (element : JsValue) (name : String) :
    (if element.truthy then element else .object []).get name = element.get name := by
  split
  · rfl
  · rename_i falsy
    cases element <;> first | rfl | simp [truthy] at falsy

section
variable {toText : JsValue → String} {toLowerCase : String → String} {element checked : JsValue}

/-- An element that passes the checks of the class keeps its topic and its partition. -/
theorem TopicPartitionClass.create_ok (made : create toLowerCase element = .ok checked) :
    (element.get "topic").truthy = true ∧
      ∃ offset, checked = .object [("topic", element.get "topic"), ("partition", element.get "partition"),
        ("offset", offset)] := by
  simp only [create, JsValue.get_orEmpty] at made
  split at made
  · cases made
  · rename_i named
    refine ⟨by simpa using named, ?_⟩
    split at made
    · cases made
    · cases made
    · cases offset : offsetOf toLowerCase (element.get "offset") with
      | error e =>
        rw [offset] at made
        cases made
      | ok value =>
        rw [offset] at made
        exact ⟨value, (Except.ok.inj made).symm⟩

/-- The entry that the loop makes of a checked element stands for the element
if and only if the element is exact. -/
theorem fromAssignment_represents_iff (made : TopicPartitionClass.create toLowerCase element = .ok checked) :
    (∃ tp, Conversion.TopicPartition.fromAssignment toText checked = some tp ∧ Represents toText element tp) ↔
      ExactElement toText element := by
  obtain ⟨named, offset, rfl⟩ := TopicPartitionClass.create_ok made
  have topic : Conversion.getString toText (.object [("topic", element.get "topic"),
      ("partition", element.get "partition"), ("offset", offset)]) "topic" "" =
        Conversion.getString toText element "topic" "" := by
    cases present : element.get? "topic" with
    | none => simp [JsValue.get, present, JsValue.truthy] at named
    | some value =>
      have same : element.get "topic" = value := by simp [JsValue.get, present]
      have stored : (JsValue.object [("topic", value), ("partition", element.get "partition"),
          ("offset", offset)]).get? "topic" = some value := rfl
      simp only [Conversion.getString, same, stored, present]
  have partition : Conversion.getInt64 (.object [("topic", element.get "topic"),
      ("partition", element.get "partition"), ("offset", offset)]) "partition" (-1) =
        readPartition (element.get "partition") := by
    cases element.get "partition" <;> rfl
  have kept := keeps_narrowed_iff (element.get "partition")
  simp only [Conversion.TopicPartition.fromAssignment, topic, partition]
  split
  · rename_i skipped
    constructor
    · rintro ⟨tp, made, _⟩
      cases made
    · intro exact
      exact absurd (by simpa using skipped) exact.topic
  · rename_i named
    constructor
    · rintro ⟨tp, entry, stands⟩
      cases Option.some.inj entry
      exact ⟨by simpa using named, kept.mp stands.partition⟩
    · intro exact
      exact ⟨_, rfl, rfl, kept.mpr exact.partition⟩

/-- The loop over the checked elements, as one over the elements. -/
theorem filterMap_checked (toText : JsValue → String) {assignments elements : List JsValue}
    (made : List.Forall₂ (fun element checked => TopicPartitionClass.create toLowerCase element = .ok checked)
      assignments elements) :
    elements.all JsValue.isObject = true ∧
      elements.filterMap (Conversion.TopicPartition.fromAssignment toText) =
        assignments.filterMap fun element =>
          (TopicPartitionClass.create toLowerCase element).toOption.bind
            (Conversion.TopicPartition.fromAssignment toText) := by
  induction made with
  | nil => exact ⟨rfl, rfl⟩
  | cons first _ ih =>
    obtain ⟨objects, entries⟩ := ih
    obtain ⟨_, offset, rfl⟩ := TopicPartitionClass.create_ok first
    refine ⟨by simp [objects, JsValue.isObject], ?_⟩
    simp [List.filterMap_cons, entries, first, Except.toOption]

/-- The native list stands for the array if and only if all its elements are exact. -/
theorem represents_iff {assignments elements : List JsValue}
    (made : List.Forall₂ (fun element checked => TopicPartitionClass.create toLowerCase element = .ok checked)
      assignments elements) :
    List.Forall₂ (Represents toText) assignments
        (elements.filterMap (Conversion.TopicPartition.fromAssignment toText)) ↔
      ∀ element ∈ assignments, ExactElement toText element := by
  rw [(filterMap_checked toText made).2, Lists.forall₂_filterMap_iff]
  refine forall₂_congr fun element member => ?_
  obtain ⟨checked, created⟩ := Lists.exists_related made element member
  rw [created]
  exact fromAssignment_represents_iff created

end

namespace AssignMethod
variable {σ : Type} {lib : Librdkafka σ} {err2str : ErrorCode → String}

/-- A call that does not get as far as librdkafka throws. -/
theorem nodeCall_refused (c : RebalanceConsumer σ) (method : AssignMethod) (partitions : List TopicPartition)
    (refused : method.reaches c.native = false) :
    (c.nodeCall lib err2str (method.action partitions)).1.calls = c.calls ∧
      ∃ e, (c.nodeCall lib err2str (method.action partitions)).2 = .error e := by
  have unrecorded : c.native.reaches (method.action partitions) = false := by rwa [reaches_action]
  have error := c.native.call_refused lib (method.action partitions) unrecorded
  have failed : ErrorCode.errState ≠ ErrorCode.errNoError := by decide
  simp only [RebalanceConsumer.nodeCall, unrecorded, error, failed, if_false]
  cases method <;> exact ⟨rfl, _, rfl⟩

/-- A call that does is recorded, whatever comes of it. -/
theorem nodeCall_reaches (lib : Librdkafka σ) (err2str : ErrorCode → String) (c : RebalanceConsumer σ)
    (method : AssignMethod) (partitions : List TopicPartition)
    (reaches : method.reaches c.native = true) :
    (c.nodeCall lib err2str (method.action partitions)).1.calls =
      c.calls ++ [(method.action partitions, c.native.accepts lib (method.action partitions))] := by
  have recorded : c.native.reaches (method.action partitions) = true := by rwa [reaches_action]
  simp only [RebalanceConsumer.nodeCall, recorded, if_true]
  split
  · rfl
  · cases method <;> rfl

end AssignMethod

/-- A method that takes partitions throws and passes nothing on, or passes on
exactly the partitions of its array, if and only if it does not get as far as
librdkafka, or some element does not pass the checks of the class, or all
elements are exact. -/
theorem assigned_partitions_iff {σ : Type} (lib : Librdkafka σ) (err2str : ErrorCode → String)
    (toLowerCase : String → String) (toText : JsValue → String) (c : RebalanceConsumer σ)
    (method : AssignMethod) (assignments : List JsValue) :
    HandsOver toText c method assignments (method.run lib err2str toLowerCase toText c assignments) ↔
      method.reaches c.native = false ∨
        (∃ element ∈ assignments, ∃ e, TopicPartitionClass.create toLowerCase element = .error e) ∨
        ∀ element ∈ assignments, ExactElement toText element := by
  rw [AssignMethod.run_eq, RebalanceConsumer.nodeCallWith]
  cases checks : TopicPartitionClass.map toLowerCase assignments with
  | error e =>
    obtain ⟨element, member, thrown⟩ := Lists.mapM_error checks
    exact ⟨fun _ => Or.inr (Or.inl ⟨element, member, e, thrown⟩), fun _ => Or.inl ⟨rfl, e, rfl⟩⟩
  | ok elements =>
    have made := Lists.mapM_ok checks
    have none_thrown : ¬ ∃ element ∈ assignments, ∃ e, TopicPartitionClass.create toLowerCase element = .error e := by
      rintro ⟨element, member, e, thrown⟩
      obtain ⟨checked, created⟩ := Lists.exists_related made element member
      rw [thrown] at created
      cases created
    have objects := (filterMap_checked toText made).1
    simp only [Conversion.TopicPartition.fromAssignments, objects, if_true]
    rw [or_iff_right none_thrown, ← represents_iff made]
    cases reaches : method.reaches c.native with
    | false => exact ⟨fun _ => Or.inl rfl, fun _ => Or.inl (AssignMethod.nodeCall_refused c method _ reaches)⟩
    | true =>
      have recorded := AssignMethod.nodeCall_reaches lib err2str c method
        (elements.filterMap (Conversion.TopicPartition.fromAssignment toText)) reaches
      rw [or_iff_right (by simp)]
      constructor
      · rintro (⟨unrecorded, _⟩ | ⟨partitions, accepted, call, stands⟩)
        · rw [recorded] at unrecorded
          simp at unrecorded
        · rw [recorded, List.append_cancel_left_eq, List.singleton_inj, Prod.mk.injEq] at call
          rwa [method.action_inj call.1]
      · intro stands
        exact Or.inr ⟨_, _, recorded, stands⟩

/-- A partition given as a string passes the checks of the class, is no number
for native code, and is assigned as the unassigned partition. -/
theorem string_partition_lost :
    (AssignMethod.assign.run (tableLibrdkafka "EAGER") (fun _ => "") id (fun _ => "")
        { native := { mClient := some [] } }
        [.object [("topic", .string "t"), ("partition", .string "3")]]).1.calls =
      [(.assign [{ topic := "t", partition := -1, offset := Topic.offsetStored }], true)] ∧
    ¬ HandsOver (fun _ => "") { native := { mClient := some [] } } .assign
        [.object [("topic", .string "t"), ("partition", .string "3")]]
        (AssignMethod.assign.run (tableLibrdkafka "EAGER") (fun _ => "") id (fun _ => "")
          { native := { mClient := some [] } }
          [.object [("topic", .string "t"), ("partition", .string "3")]]) := by
  have passed : (AssignMethod.assign.run (tableLibrdkafka "EAGER") (fun _ => "") id (fun _ => "")
        { native := { mClient := some [] } }
        [.object [("topic", .string "t"), ("partition", .string "3")]]).1.calls =
      [(.assign [{ topic := "t", partition := -1, offset := Topic.offsetStored }], true)] := by decide +kernel
  refine ⟨passed, ?_⟩
  rintro (⟨unchanged, _⟩ | ⟨partitions, _, _, stands⟩)
  · rw [passed] at unchanged
    cases unchanged
  · obtain ⟨_, related⟩ := Lists.exists_related stands _ List.mem_cons_self
    exact related.partition

end NodeRdkafka
