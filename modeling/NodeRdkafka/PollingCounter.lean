import Mathlib.Data.Finset.Card
import NodeRdkafka.ProduceReports

namespace NodeRdkafka
open Transition Turn

namespace HighLevelProducer

/-- How many of the next `count` calls of the underlying produce it will accept. -/
def acceptances (outcome : Nat → Option JsError) (s : HighLevelProducer) (count : Nat) : Nat :=
  if s.isConnected then (List.range' s.attempts.length count).countP fun k => (outcome k).isNone else 0

/-- What the code of one call does to the rest of the producer: it hands
messages to the underlying produce and listens for those it accepted. -/
structure HandsOver (outcome : Nat → Option JsError) (id : Nat) (s t : HighLevelProducer) : Prop where
  isConnected : t.isConnected = s.isConnected
  messageId : t.messageId = s.messageId
  pollingRef : t.pollingRef = s.pollingRef
  pollingRefTimeout : t.pollingRefTimeout = s.pollingRefTimeout
  intervals : t.intervals = s.intervals
  reports : t.reports = s.reports
  handed : ∃ attempts, t.attempts = s.attempts ++ attempts ∧ (∀ attempt ∈ attempts, attempt.messageId = id) ∧
    t.outstanding = s.outstanding ++ List.replicate (s.acceptances outcome attempts.length) id ∧
    t.deliveryEmitter = s.deliveryEmitter ++ List.replicate (s.acceptances outcome attempts.length) id

section Code
variable {outcome callbackThrows : Nat → Option JsError} {id : Nat} {s t u : HighLevelProducer}

theorem acceptances_zero : s.acceptances outcome 0 = 0 := by simp [acceptances]

variable (outcome s) in
theorem acceptances_one : s.acceptances outcome 1 = if s.refusal outcome = none then 1 else 0 := by
  cases connected : s.isConnected <;> cases refused : outcome s.attempts.length <;>
    simp [acceptances, refusal, connected, refused]

variable (outcome) in
theorem acceptances_add {attempts : List ProduceAttempt} (connected : t.isConnected = s.isConnected)
    (taken : t.attempts = s.attempts ++ attempts) (count : Nat) :
    s.acceptances outcome (attempts.length + count) =
      s.acceptances outcome attempts.length + t.acceptances outcome count := by
  unfold acceptances
  rw [connected, taken, List.length_append]
  split
  · rw [← List.countP_append]
    congr 1
    exact List.range'_append_1.symm
  · rfl

/-- Code that hands nothing over. -/
theorem HandsOver.of_eq (isConnected : t.isConnected = s.isConnected) (messageId : t.messageId = s.messageId)
    (pollingRef : t.pollingRef = s.pollingRef) (timeout : t.pollingRefTimeout = s.pollingRefTimeout)
    (intervals : t.intervals = s.intervals) (reports : t.reports = s.reports)
    (attempts : t.attempts = s.attempts) (outstanding : t.outstanding = s.outstanding)
    (listeners : t.deliveryEmitter = s.deliveryEmitter) : HandsOver outcome id s t :=
  ⟨isConnected, messageId, pollingRef, timeout, intervals, reports, [], by simp [attempts], by simp,
    by simp [outstanding, acceptances_zero], by simp [listeners, acceptances_zero]⟩

theorem HandsOver.trans (first : HandsOver outcome id s t) (second : HandsOver outcome id t u) :
    HandsOver outcome id s u := by
  obtain ⟨left, taken, own, outstanding, listeners⟩ := first.handed
  obtain ⟨right, taken', own', outstanding', listeners'⟩ := second.handed
  have sum := acceptances_add outcome first.isConnected taken right.length
  refine ⟨second.isConnected.trans first.isConnected, second.messageId.trans first.messageId,
    second.pollingRef.trans first.pollingRef, second.pollingRefTimeout.trans first.pollingRefTimeout,
    second.intervals.trans first.intervals, second.reports.trans first.reports, left ++ right, ?_, ?_, ?_, ?_⟩
  · rw [taken', taken, List.append_assoc]
  · intro attempt member
    exact (List.mem_append.mp member).elim (own attempt) (own' attempt)
  · rw [outstanding', outstanding, List.length_append, sum, List.replicate_add, List.append_assoc]
  · rw [listeners', listeners, List.length_append, sum, List.replicate_add, List.append_assoc]

instance (outcome : Nat → Option JsError) (id : Nat) : IsPreorder HighLevelProducer (HandsOver outcome id) where
  refl _ := .of_eq rfl rfl rfl rfl rfl rfl rfl rfl rfl
  trans _ _ _ := HandsOver.trans

variable (outcome callbackThrows) in
theorem handsOver_moves (id : Nat) : CallMoves outcome callbackThrows id (HandsOver outcome id) where
  updateClosure _ _ := .of_eq rfl rfl rfl rfl rfl rfl rfl rfl rfl
  pend _ _ _ := .of_eq rfl rfl rfl rfl rfl rfl rfl rfl rfl
  reject _ _ _ := .of_eq rfl rfl rfl rfl rfl rfl rfl rfl rfl
  callback arguments s := by
    rw [callback_final]
    exact .of_eq rfl rfl rfl rfl rfl rfl rfl rfl rfl
  doProduce arguments v k s := by
    have one := acceptances_one outcome s
    cases refused : s.refusal outcome with
    | none =>
      rw [doProduce_run_accepted refused]
      rw [if_pos refused] at one
      exact ⟨rfl, rfl, rfl, rfl, rfl, rfl, [arguments.attempt id v k], rfl, by simp [ProduceArguments.attempt],
        by simp [one, attempted], by simp [one]⟩
    | some e =>
      rw [doProduce_run_refused refused, callback_final]
      rw [if_neg (by simp [refused])] at one
      exact ⟨rfl, rfl, rfl, rfl, rfl, rfl, [arguments.attempt id v k], rfl, by simp [ProduceArguments.attempt],
        by simp [one, attempted], by simp [one, attempted]⟩

/-- The ids of the messages that have been reported. -/
def reported (s : HighLevelProducer) : List Nat := s.reports.map (·.messageId)

/-- The calls whose message has not been reported. -/
def unreported (s : HighLevelProducer) : Finset Nat := (Finset.range s.messageId).filter (· ∉ s.reported)

theorem mem_unreported : id ∈ s.unreported ↔ id < s.messageId ∧ id ∉ s.reported := by
  simp [unreported]

/-- What the counter and the interval have to do with the calls, as long as no
call produces twice. -/
structure Counted (s : HighLevelProducer) : Prop where
  opened : s.Opened
  once : ∀ id < s.messageId, Once (s.callOf id)
  listeners : s.deliveryEmitter = s.outstanding
  distinct : s.outstanding.Nodup
  attempted : ∀ id, id ∈ s.outstanding ∨ id ∈ s.reported → (s.callOf id).attempts ≠ []
  apart : ∀ id ∈ s.outstanding, id ∉ s.reported
  counter : s.pollingRef.currentValue = s.unreported.card
  running : s.pollingRef.isRunning = true ↔ 0 < s.pollingRef.currentValue
  stored : ∀ interval ∈ s.intervals, s.pollingRefTimeout = some interval
  stopped : s.pollingRef.isRunning = false → s.intervals = []

theorem Opened.lt_of_attempts (opened : s.Opened) (used : (s.callOf id).attempts ≠ []) : id < s.messageId := by
  obtain ⟨closure, found⟩ := opened.found id fun unused => used (by rw [unused])
  exact opened.lt found

theorem Opened.single (opened : s.Opened) (once : ∀ id < s.messageId, Once (s.callOf id)) (id : Nat) :
    (s.callOf id).attempts.length ≤ 1 := by
  by_cases tried : (s.callOf id).attempts = []
  · simp [tried]
  · exact (once id (opened.lt_of_attempts tried)).once

theorem HandsOver.attempts_own {attempts : List ProduceAttempt}
    (taken : t.attempts = s.attempts ++ attempts) (own : ∀ attempt ∈ attempts, attempt.messageId = id) :
    (t.callOf id).attempts = (s.callOf id).attempts ++ attempts := by
  have all : attempts.filter (·.messageId = id) = attempts :=
    List.filter_eq_self.mpr fun attempt member => by simpa using own attempt member
  simp only [callOf, taken, List.filter_append, all]

theorem HandsOver.attempts_kept (hands : HandsOver outcome id s t) {other : Nat}
    (tried : (s.callOf other).attempts ≠ []) : (t.callOf other).attempts ≠ [] := by
  obtain ⟨attempts, taken, _⟩ := hands.handed
  simp only [callOf, taken, List.filter_append]
  exact List.append_ne_nil_of_left_ne_nil tried _

/-- A call produces at most once, so what is new is one message of a call that
had none. -/
theorem HandsOver.cases (hands : HandsOver outcome id s t) (single : (t.callOf id).attempts.length ≤ 1) :
    (t.attempts = s.attempts ∧ t.outstanding = s.outstanding ∧ t.deliveryEmitter = s.deliveryEmitter) ∨
      ∃ attempt, attempt.messageId = id ∧ t.attempts = s.attempts ++ [attempt] ∧ (s.callOf id).attempts = [] ∧
        t.outstanding = s.outstanding ++ (if s.refusal outcome = none then [id] else []) ∧
        t.deliveryEmitter = s.deliveryEmitter ++ (if s.refusal outcome = none then [id] else []) := by
  obtain ⟨attempts, taken, own, outstanding, listeners⟩ := hands.handed
  rw [attempts_own taken own, List.length_append] at single
  match attempts, single with
  | [], _ =>
    exact Or.inl ⟨by simpa using taken, by simpa [acceptances_zero] using outstanding,
      by simpa [acceptances_zero] using listeners⟩
  | [attempt], single =>
    have one : List.replicate (s.acceptances outcome [attempt].length) id =
        if s.refusal outcome = none then [id] else [] := by
      rw [List.length_singleton, acceptances_one]
      split <;> rfl
    rw [one] at outstanding listeners
    refine Or.inr ⟨attempt, own attempt (by simp), taken, ?_, outstanding, listeners⟩
    exact List.length_eq_zero_iff.mp (by simp at single; simp [single])

theorem unreported_congr (messageId : t.messageId = s.messageId) (reports : t.reports = s.reports) :
    t.unreported = s.unreported := by
  ext id
  rw [mem_unreported, mem_unreported, reported, messageId, reports]
  rfl

theorem Counted.handsOver (counted : s.Counted) (hands : HandsOver outcome id s t) (opened : t.Opened)
    (once : ∀ other < t.messageId, Once (t.callOf other)) : t.Counted := by
  have reports : t.reported = s.reported := by simp only [reported, hands.reports]
  have kept : ∀ other, other ∈ s.outstanding ∨ other ∈ t.reported → (t.callOf other).attempts ≠ [] := by
    intro other known
    rw [reports] at known
    exact hands.attempts_kept (counted.attempted other known)
  have counter : t.pollingRef.currentValue = t.unreported.card := by
    rw [hands.pollingRef, unreported_congr hands.messageId hands.reports]
    exact counted.counter
  have running : t.pollingRef.isRunning = true ↔ 0 < t.pollingRef.currentValue := by
    rw [hands.pollingRef]
    exact counted.running
  have stored : ∀ interval ∈ t.intervals, t.pollingRefTimeout = some interval := by
    rw [hands.intervals, hands.pollingRefTimeout]
    exact counted.stored
  have stopped : t.pollingRef.isRunning = false → t.intervals = [] := by
    rw [hands.intervals, hands.pollingRef]
    exact counted.stopped
  rcases hands.cases (opened.single once id) with
    ⟨_, outstanding, listeners⟩ | ⟨attempt, own, taken, untried, outstanding, listeners⟩
  · refine ⟨opened, once, ?_, ?_, ?_, ?_, counter, running, stored, stopped⟩
    · rw [listeners, outstanding, counted.listeners]
    · exact outstanding ▸ counted.distinct
    · rw [outstanding]
      exact kept
    · rw [outstanding, reports]
      exact counted.apart
  · have fresh : id ∉ s.outstanding := fun member => counted.attempted id (Or.inl member) untried
    have unheard : id ∉ s.reported := fun member => counted.attempted id (Or.inr member) untried
    have tried : (t.callOf id).attempts ≠ [] := by
      rw [HandsOver.attempts_own taken (by simpa using own)]
      simp
    have arrived : ∀ other ∈ t.outstanding, other ∈ s.outstanding ∨ other = id := by
      intro other member
      rw [outstanding] at member
      exact (List.mem_append.mp member).imp_right fun new => List.mem_singleton.mp (List.mem_ite_nil_right.mp new).2
    refine ⟨opened, once, ?_, ?_, ?_, ?_, counter, running, stored, stopped⟩
    · rw [listeners, outstanding, counted.listeners]
    · rw [outstanding]
      split
      · exact List.concat_eq_append ▸ counted.distinct.concat fresh
      · simpa using counted.distinct
    · rintro other (member | member)
      · rcases arrived other member with old | rfl
        · exact kept other (Or.inl old)
        · exact tried
      · exact kept other (Or.inr member)
    · intro other member
      rw [reports]
      rcases arrived other member with old | rfl
      · exact counted.apart other old
      · exact unheard

theorem Opened.openCall (opened : s.Opened) (arguments : ProduceArguments) :
    (openCall arguments s).Opened := by
  intro other
  by_cases own : other = s.messageId
  · subst own
    simp [openCall_fields]
  · have same := openCall_other arguments own
    rw [show (HighLevelProducer.openCall arguments s).closures other = s.closures other from
      congrArg CallState.closure same, same, openCall_fields]
    refine ⟨(opened other).1.trans ?_, (opened other).2⟩
    show s.messageId ≤ other ↔ s.messageId + 1 ≤ other
    omega

theorem refusal_open (arguments : ProduceArguments) (s : HighLevelProducer) :
    (openCall arguments s).refusal outcome = s.refusal outcome := by
  rw [openCall_fields]
  rfl

/-- A new call starts the interval unless the counter says that it runs. -/
theorem Counted.increment (counted : s.Counted) :
    s.increment.pollingRef = { currentValue := s.pollingRef.currentValue + 1, isRunning := true } ∧
      (s.pollingRef.isRunning = true ∧ s.increment.intervals = s.intervals ∧
          s.increment.pollingRefTimeout = s.pollingRefTimeout ∨
        s.pollingRef.isRunning = false ∧ s.increment.intervals = [s.nextInterval] ∧
          s.increment.pollingRefTimeout = some s.nextInterval) := by
  have positive : 0 < s.pollingRef.currentValue + 1 := by
    rw [counted.counter]
    omega
  cases running : s.pollingRef.isRunning with
  | true => simp [HighLevelProducer.increment, RefCounter.increment, running]
  | false =>
    simp [HighLevelProducer.increment, RefCounter.increment, running, positive, onActive, counted.stopped running]

theorem openCall_unreported (arguments : ProduceArguments) (unheard : s.messageId ∉ s.reported) :
    (openCall arguments s).unreported = insert s.messageId s.unreported := by
  have count : (openCall arguments s).messageId = s.messageId + 1 := by
    rw [openCall_fields]
  have reports : (openCall arguments s).reported = s.reported := by
    rw [openCall_fields]
    rfl
  ext id
  rw [Finset.mem_insert, mem_unreported, mem_unreported, count, reports]
  by_cases own : id = s.messageId
  · simp [own, unheard]
  · simp only [own, false_or, and_congr_left_iff]
    omega

theorem Counted.openCall (counted : s.Counted) (arguments : ProduceArguments) :
    (openCall arguments s).Counted := by
  obtain ⟨pollingRef, timer⟩ := counted.increment
  have unheard : s.messageId ∉ s.reported := by
    intro member
    have older := counted.opened.lt_of_attempts (counted.attempted _ (Or.inr member))
    omega
  have grown := openCall_unreported arguments unheard
  refine ⟨counted.opened.openCall arguments, ?_, ?_, ?_, ?_, ?_, ?_, ?_, ?_, ?_⟩
  · intro id older
    by_cases own : id = s.messageId
    · subst own
      rw [openCall_callOf counted.opened]
      exact Consistent.once ⟨rfl, by simp, by simp⟩ rfl
    · rw [openCall_other arguments own]
      rw [openCall_fields] at older
      exact counted.once id (by simp at older; omega)
  · rw [openCall_fields]
    exact counted.listeners
  · rw [openCall_fields]
    exact counted.distinct
  · rw [openCall_fields]
    exact counted.attempted
  · rw [openCall_fields]
    exact counted.apart
  · rw [grown, Finset.card_insert_of_notMem (by simp [mem_unreported]), openCall_fields]
    simp [pollingRef, counted.counter]
  · rw [openCall_fields]
    simp only [pollingRef, counted.counter]
    simp only [true_iff]
    omega
  · rw [openCall_fields]
    intro interval member
    rcases timer with ⟨_, intervals, stored⟩ | ⟨_, intervals, stored⟩
    · exact stored.trans (counted.stored interval (intervals ▸ member))
    · simp only [intervals, List.mem_singleton] at member
      rw [member]
      exact stored
  · rw [openCall_fields]
    simp [pollingRef]

/-- The report of a message leaves the counter one lower, and stops the
interval when that was the last one. -/
theorem Counted.decrement (counted : s.Counted) (waiting : id ∈ s.unreported) :
    s.pollingRef.decrement.1 =
        { currentValue := s.pollingRef.currentValue - 1, isRunning := 1 < s.unreported.card } ∧
      s.decrement.intervals = if 1 < s.unreported.card then s.intervals else [] := by
  have positive := Finset.card_pos.mpr ⟨id, waiting⟩
  have running := counted.running.mpr (by rw [counted.counter]; omega)
  have cleared : s.clearPolling.intervals = [] := by
    simp only [clearPolling, List.filter_eq_nil_iff]
    intro interval member
    simp [counted.stored interval member]
  rw [decrement_fields]
  by_cases more : 1 < s.unreported.card
  · have still : ¬ (s.pollingRef.currentValue - 1 ≤ 0) := by rw [counted.counter]; omega
    simp [RefCounter.decrement, still, more, running]
  · have last : s.pollingRef.currentValue - 1 ≤ 0 := by rw [counted.counter]; omega
    simp [RefCounter.decrement, last, more, running, cleared]

/-- The producer once the report of a message has been heard. -/
def heard (report : HighLevelReport) (s : HighLevelProducer) : HighLevelProducer :=
  { s with
    outstanding := s.outstanding.erase report.messageId
    deliveryEmitter := s.outstanding.erase report.messageId
    reports := s.reports ++ [report]
    pollingRef := { currentValue := s.pollingRef.currentValue - 1, isRunning := 1 < s.unreported.card }
    intervals := if 1 < s.unreported.card then s.intervals else []
    immediates := s.immediates ++ [.deliver report.messageId report.err report.offset] }

theorem Counted.waiting (counted : s.Counted) (waiting : id ∈ s.outstanding) : id ∈ s.unreported :=
  mem_unreported.mpr
    ⟨counted.opened.lt_of_attempts (counted.attempted _ (Or.inl waiting)), counted.apart _ waiting⟩

theorem Counted.report_run {report : HighLevelReport} (counted : s.Counted)
    (run : s.step outcome callbackThrows (.report report) = some t) :
    report.messageId ∈ s.outstanding ∧ t = s.heard report := by
  simp only [step, Option.ite_none_right_eq_some, Option.some.injEq] at run
  obtain ⟨waiting, rfl⟩ := run
  obtain ⟨pollingRef, intervals⟩ := counted.decrement (counted.waiting waiting)
  rw [decrement_fields] at intervals
  refine ⟨waiting, ?_⟩
  rw [deliveryReport_heard (s := { s with
    outstanding := s.outstanding.erase report.messageId, reports := s.reports ++ [report] })
    counted.listeners counted.distinct waiting, deliver, decrement_fields]
  simp only [setImmediate, heard, pollingRef, ← intervals]
  rfl

theorem heard_reported (report : HighLevelReport) (s : HighLevelProducer) :
    (s.heard report).reported = s.reported ++ [report.messageId] := by
  simp [heard, reported]

theorem heard_unreported (report : HighLevelReport) (s : HighLevelProducer) :
    (s.heard report).unreported = s.unreported.erase report.messageId := by
  ext id
  rw [Finset.mem_erase, mem_unreported, mem_unreported, heard_reported, List.mem_append, List.mem_singleton]
  show id < s.messageId ∧ _ ↔ _
  tauto

theorem Counted.heard {report : HighLevelReport} (counted : s.Counted)
    (waiting : report.messageId ∈ s.outstanding) (opened : (s.heard report).Opened)
    (once : ∀ id < (s.heard report).messageId, Once ((s.heard report).callOf id)) : (s.heard report).Counted := by
  have unheard := counted.waiting waiting
  have positive := Finset.card_pos.mpr ⟨_, unheard⟩
  have size : (s.heard report).pollingRef.currentValue = (s.heard report).unreported.card := by
    rw [heard_unreported, Finset.card_erase_of_mem unheard]
    simp only [HighLevelProducer.heard, counted.counter]
    omega
  refine ⟨opened, once, rfl, counted.distinct.erase _, ?_, ?_, size, ?_, ?_, ?_⟩
  · intro id known
    refine counted.attempted id ?_
    rw [heard_reported, List.mem_append, List.mem_singleton] at known
    rcases known with member | member | rfl
    · exact Or.inl (List.mem_of_mem_erase member)
    · exact Or.inr member
    · exact Or.inl waiting
  · intro id member
    obtain ⟨other, old⟩ := counted.distinct.mem_erase_iff.mp member
    rw [heard_reported]
    simp [other, counted.apart id old]
  · simp only [HighLevelProducer.heard, counted.counter, decide_eq_true_eq]
    omega
  · intro interval member
    simp only [HighLevelProducer.heard] at member
    split at member
    · exact counted.stored interval member
    · simp at member
  · simp only [HighLevelProducer.heard, decide_eq_false_iff_not]
    exact fun last => if_neg last

theorem Counted.tick (counted : s.Counted) : s.tick.Counted := by
  unfold HighLevelProducer.tick
  split
  · exact ⟨counted.opened, counted.once, counted.listeners, counted.distinct, counted.attempted, counted.apart,
      counted.counter, counted.running, counted.stored, counted.stopped⟩
  · refine ⟨counted.opened, counted.once, counted.listeners, counted.distinct, counted.attempted, counted.apart,
      counted.counter, counted.running, fun interval member => ?_, fun stopped => ?_⟩
    · exact counted.stored interval (List.mem_of_mem_filter member)
    · simp [clearPolling, counted.stopped stopped]

theorem produce_handsOver {arguments : ProduceArguments} {value key : Serialization}
    (run : s.step outcome callbackThrows (.produce arguments value key) = some t) :
    HandsOver outcome s.messageId (openCall arguments s) t := by
  cases Option.some.inj run
  refine Respects.tryCatch ((handsOver_moves outcome callbackThrows s.messageId).serializeBoth value key)
    (fun e => .modify fun u => ?_) (HighLevelProducer.openCall arguments s)
  exact .of_eq rfl rfl rfl rfl rfl rfl rfl rfl rfl

theorem settle_handsOver {part : SerializerPart} {result : Except JsError JsValue}
    (run : s.step outcome callbackThrows (.settle id part result) = some t) :
    (∃ kind, s.pending.lookup (id, part) = some kind) ∧ HandsOver outcome id s t := by
  simp only [step] at run
  split at run
  · rename_i kind waits
    cases Option.some.inj run
    have begun : HandsOver outcome id s (s.taken id part) := .of_eq rfl rfl rfl rfl rfl rfl rfl rfl rfl
    exact ⟨⟨kind, waits⟩,
      begun.trans ((handsOver_moves outcome callbackThrows id).settle part result kind (s.taken id part))⟩
  · cases run

theorem rejection_handsOver (run : s.step outcome callbackThrows .rejection = some t) :
    ∃ id, HandsOver outcome id s t := by
  simp only [step] at run
  split at run
  · rename_i id part e rest queue
    cases Option.some.inj run
    have begun : HandsOver outcome id s { s with rejections := rest } :=
      .of_eq rfl rfl rfl rfl rfl rfl rfl rfl rfl
    exact ⟨id, begun.trans ((handsOver_moves outcome callbackThrows id).failSerialized e _)⟩
  · cases run

theorem immediate_handsOver (run : s.step outcome callbackThrows .immediate = some t) :
    ∃ id, HandsOver outcome id s t := by
  obtain ⟨task, rest, closures, queue, rfl⟩ := step_immediate run
  exact ⟨0, .of_eq rfl rfl rfl rfl rfl rfl rfl rfl rfl⟩

variable (outcome callbackThrows) in
/-- A produce call does not call the underlying produce twice. -/
def Single (s : HighLevelProducer) : HighLevelAction → Prop
  | .produce _ value key => ¬ ProducesTwice outcome callbackThrows s value key
  | _ => True

theorem Counted.step_once {action : HighLevelAction} (counted : s.Counted)
    (single : s.Single outcome callbackThrows action)
    (run : s.step outcome callbackThrows action = some t) : ∀ id < t.messageId, Once (t.callOf id) := by
  intro id older
  by_cases known : id < s.messageId
  · exact HighLevelProducer.step_once counted.opened (counted.once id known) run
  · rcases action.produce_or with later | ⟨arguments, value, key, rfl⟩
    · rw [(step_call counted.opened run later id).1] at older
      exact absurd older known
    · rw [(produce_elsewhere run).1] at older
      obtain rfl : id = s.messageId := by omega
      rcases produce_call counted.opened run with ⟨_, once⟩ | ⟨twice, _⟩
      · exact once
      · exact absurd twice single

theorem Counted.step {action : HighLevelAction} (counted : s.Counted)
    (single : s.Single outcome callbackThrows action)
    (run : s.step outcome callbackThrows action = some t) : t.Counted := by
  have opened := step_opened counted.opened run
  have once := counted.step_once single run
  cases action with
  | produce arguments value key =>
    exact (counted.openCall arguments).handsOver (produce_handsOver run) opened once
  | settle id part result => exact counted.handsOver (settle_handsOver run).2 opened once
  | rejection =>
    obtain ⟨id, hands⟩ := rejection_handsOver run
    exact counted.handsOver hands opened once
  | immediate =>
    obtain ⟨id, hands⟩ := immediate_handsOver run
    exact counted.handsOver hands opened once
  | report report =>
    obtain ⟨waiting, rfl⟩ := counted.report_run run
    exact counted.heard waiting opened once
  | tick interval =>
    obtain rfl := step_tick run
    exact counted.tick
  | disconnected | connected =>
    cases Option.some.inj run
    exact ⟨counted.opened, counted.once, counted.listeners, counted.distinct, counted.attempted, counted.apart,
      counted.counter, counted.running, counted.stored, counted.stopped⟩

theorem counted_start : ({} : HighLevelProducer).Counted where
  opened := opened_empty
  once := by simp
  listeners := rfl
  distinct := .nil
  attempted := by simp [reported]
  apart := by simp
  counter := rfl
  running := by simp
  stored := by simp
  stopped := fun _ => rfl

/-- A result that completes its call. -/
def Completes (s : HighLevelProducer) (id : Nat) (part : SerializerPart) (v : JsValue) : Prop :=
  ∃ closure, s.closures id = some closure ∧ closure.calledBack = false ∧ (closure.finish v part).ready = true

/-- Apart from a new produce, only the success of the last serializer gives a
call an attempt. -/
theorem step_attempts {action : HighLevelAction} (opened : s.Opened)
    (run : s.step outcome callbackThrows action = some t)
    (later : ∀ arguments value key, action ≠ .produce arguments value key) (id : Nat) :
    (t.callOf id).attempts = (s.callOf id).attempts ∨
      ∃ part v, action = .settle id part (.ok v) ∧ s.Completes id part v ∧
        (t.callOf id).pending = Function.update (s.callOf id).pending part none ∧
        ((s.callOf id).attempts ≠ [] → (t.callOf id).attempts ≠ []) := by
  rcases (step_call opened run later id).2 with same | ⟨part, v, settles, finished⟩ | ⟨quiet, _⟩
  · exact Or.inl (by rw [same])
  · obtain ⟨closure, found, _, ⟨_, after⟩ | ⟨unsettled, middle, tail, ⟨called, listening, _, rfl⟩, _, after⟩⟩ :=
      finished
    · exact Or.inl (by rw [after])
    · by_cases ready : (closure.finish v part).ready
      · refine Or.inr ⟨part, v, settles, ⟨closure, found, unsettled, ready⟩, by rw [after], fun tried => ?_⟩
        rw [after]
        exact List.append_ne_nil_of_left_ne_nil tried _
      · exact Or.inl (by simp [after, ready])
  · exact Or.inl quiet.attempts

theorem attempts_kept {action : HighLevelAction} (opened : s.Opened)
    (run : s.step outcome callbackThrows action = some t) (tried : (s.callOf id).attempts ≠ []) :
    (t.callOf id).attempts ≠ [] := by
  rcases action.produce_or with later | ⟨arguments, value, key, rfl⟩
  · rcases step_attempts opened run later id with same | ⟨_, _, _, _, _, kept⟩
    · rwa [same]
    · exact kept tried
  · have older := opened.lt_of_attempts tried
    rwa [(produce_elsewhere run).2 id (by omega)]

end Code
end HighLevelProducer
end NodeRdkafka
