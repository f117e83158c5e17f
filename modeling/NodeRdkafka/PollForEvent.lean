import Mathlib.Analysis.SpecialFunctions.Log.Base
import Mathlib.Algebra.BigOperators.Group.List.Basic
import Mathlib.Tactic.IntervalCases
import NodeRdkafka.Lib.DoubleQuotient

namespace NodeRdkafka

/-- An event, by the poll that has returned it and its rd_kafka_event_type. -/
structure PolledEvent where
  poll : Nat
  type : Int
  deriving DecidableEq

def rdKafkaEventNone : Int := 0

/-- The type of no event is RD_KAFKA_EVENT_NONE. -/
def rdKafkaEventType : Option PolledEvent → Int
  | none => rdKafkaEventNone
  | some event => event.type

/-- The variables of PollForEvent. The lists record the timeouts passed to
rd_kafka_queue_poll, the events it has returned, those that have been destroyed,
the results of the arithmetic on the variables, and the divisors. -/
structure PollForEvent where
  attempts : Int
  expTimeoutMs : Int
  eventResponse : Option PolledEvent := none
  timeouts : List Int := []
  polled : List PolledEvent := []
  destroyed : List PolledEvent := []
  computed : List Int := []
  divisors : List Rat := []
  deriving DecidableEq

namespace PollForEvent

section Code
variable (logAttempts : Nat → Int) (eventType : Int) (answers : Nat → Option Int)

/-- The two variables before the first poll. `logAttempts` is what the
conversion to an int makes of `log10(n) / log10(2) + 1`. -/
def start (timeoutMs : Int32) : PollForEvent :=
  if 2000 < timeoutMs.toInt then
    let attempts := logAttempts (timeoutMs.toInt / 1000).toNat
    let divisor : Rat := 2 ^ attempts - 1
    let expTimeoutMs := Double.truncate (Double.roundRat (timeoutMs.toInt / divisor))
    { attempts, expTimeoutMs, computed := [attempts, expTimeoutMs], divisors := [divisor] }
  else { attempts := 1, expTimeoutMs := timeoutMs.toInt }

/-- The body of the loop, where `answers` gives the type of the event that each
poll returns. To destroy no event is to do nothing. -/
def attempt (s : PollForEvent) : PollForEvent :=
  let eventResponse := (answers s.timeouts.length).map fun type => { poll := s.timeouts.length, type }
  { s with
    destroyed := s.destroyed ++ s.eventResponse.toList
    eventResponse
    timeouts := s.timeouts ++ [s.expTimeoutMs]
    polled := s.polled ++ eventResponse.toList
    attempts := s.attempts - 1
    expTimeoutMs := 2 * s.expTimeoutMs
    computed := s.computed ++ [s.attempts - 1, 2 * s.expTimeoutMs] }

def continues (s : PollForEvent) : Bool := rdKafkaEventType s.eventResponse ≠ eventType ∧ 0 < s.attempts

/-- The loop, which runs once more for each attempt but the first at most. -/
def loop : Nat → PollForEvent → PollForEvent
  | 0, s => s.attempt answers
  | more + 1, s =>
    let s := s.attempt answers
    if s.continues eventType then loop more s else s

/-- What follows the loop: the event returned, and the last one destroyed. -/
def finish (s : PollForEvent) : Option PolledEvent × PollForEvent :=
  if s.eventResponse = none ∨ rdKafkaEventType s.eventResponse ≠ eventType then
    (none, { s with destroyed := s.destroyed ++ s.eventResponse.toList })
  else (s.eventResponse, s)

/-- The loop as it is run. -/
def polls (timeoutMs : Int32) : PollForEvent :=
  let s := start logAttempts timeoutMs
  s.loop eventType answers (s.attempts - 1).toNat

end Code
end PollForEvent

def pollForEvent (logAttempts : Nat → Int) (eventType : Int) (answers : Nat → Option Int) (timeoutMs : Int32) :
    Option PolledEvent × PollForEvent :=
  (PollForEvent.polls logAttempts eventType answers timeoutMs).finish eventType

namespace PollForEvent

/-- The number of attempts by the formula in real numbers. -/
noncomputable def realAttempts (n : Nat) : Int := ⌊Real.logb 10 n / Real.logb 10 2 + 1⌋

/-- The C library computes the formula with an error that is small, and it is
rounded down. -/
def Accurate (logAttempts : Nat → Int) : Prop :=
  ∀ n : Nat, 2 ≤ n → ∃ value : ℝ, |value - (Real.logb 10 n / Real.logb 10 2 + 1)| ≤ 2⁻¹ ^ 30 ∧
    logAttempts n = ⌊value⌋

theorem logb_formula (n : Nat) : Real.logb 10 n / Real.logb 10 2 = Real.logb 2 n := by
  have ten : Real.log 10 ≠ 0 := (Real.log_pos (by norm_num)).ne'
  simp only [Real.logb]
  exact div_div_div_cancel_right₀ ten _ _

theorem realAttempts_eq (n : Nat) : realAttempts n = Nat.log 2 n + 1 := by
  have floor := Real.floor_logb_natCast (b := 2) (Nat.cast_nonneg n)
  rw [Nat.cast_ofNat, Int.log_natCast] at floor
  rw [realAttempts, logb_formula, Int.floor_add_one, floor]

theorem accurate_realAttempts : Accurate realAttempts := fun n _ =>
  ⟨Real.logb 10 n / Real.logb 10 2 + 1, by norm_num, rfl⟩

/-- The error is too small to be seen but at a power of two. -/
theorem logb_large {y : ℝ} (above : 1 + 2⁻¹ ^ 22 ≤ y) : (2⁻¹ : ℝ) ^ 30 < Real.logb 2 y := by
  have positive : 0 < y := by linarith [above, show (0 : ℝ) < 2⁻¹ ^ 22 by positivity]
  have logTwo : Real.log 2 ≤ 1 := by linarith [Real.log_le_sub_one_of_pos (show (0 : ℝ) < 2 by norm_num)]
  have inverse : y⁻¹ ≤ (1 + 2⁻¹ ^ 22)⁻¹ := inv_anti₀ (by positivity) above
  have log := Real.one_sub_inv_le_log_of_pos positive
  have small : (2⁻¹ : ℝ) ^ 30 < 1 - (1 + 2⁻¹ ^ 22)⁻¹ := by norm_num
  have logPositive : 0 ≤ Real.log y := by linarith [show (0 : ℝ) < 2⁻¹ ^ 30 by positivity]
  have scaled : Real.log y ≤ Real.logb 2 y :=
    le_div_self logPositive (Real.log_pos (by norm_num)) logTwo
  linarith

theorem accurate_attempts {logAttempts : Nat → Int} (accurate : Accurate logAttempts) {n : Nat} (low : 2 ≤ n)
    (high : n < 2 ^ 22) :
    logAttempts n = Nat.log 2 n + 1 ∨ n = 2 ^ Nat.log 2 n ∧ logAttempts n = Nat.log 2 n := by
  obtain ⟨value, near, rounded⟩ := accurate n low
  rw [logb_formula] at near
  obtain ⟨lowest, highest⟩ := abs_le.mp near
  have lower : 2 ^ Nat.log 2 n ≤ n := Nat.pow_log_le_self 2 (by omega)
  have upper : n < 2 ^ (Nat.log 2 n + 1) := Nat.lt_pow_succ_log_self (by norm_num) n
  have log : Nat.log 2 n < 22 := Nat.log_lt_of_lt_pow (by omega) high
  have positive : (0 : ℝ) < n := by exact_mod_cast (by omega : 0 < n)
  have power : Real.logb 2 (2 ^ Nat.log 2 n) = Nat.log 2 n := by
    rw [← Real.rpow_natCast, Real.logb_rpow (by norm_num) (by norm_num)]
  rw [rounded]
  by_cases exactly : n = 2 ^ Nat.log 2 n
  · have same : Real.logb 2 n = Nat.log 2 n := by
      rw [← power]
      exact congrArg _ (by exact_mod_cast exactly)
    by_cases reached : (Nat.log 2 n : ℝ) + 1 ≤ value
    · left
      rw [Int.floor_eq_iff]
      push_cast
      exact ⟨reached, by linarith⟩
    · right
      refine ⟨exactly, ?_⟩
      rw [Int.floor_eq_iff]
      push_cast
      exact ⟨by linarith, by linarith⟩
  · left
    have unit : (0 : ℝ) < 2 ^ Nat.log 2 n := by positivity
    have successor : (2 : ℝ) ^ Nat.log 2 n + 1 ≤ n := by
      exact_mod_cast Nat.succ_le_of_lt (lt_of_le_of_ne lower (Ne.symm exactly))
    have predecessor : (n : ℝ) + 1 ≤ 2 * 2 ^ Nat.log 2 n := by
      rw [pow_succ] at upper
      exact_mod_cast (by omega : n + 1 ≤ 2 * 2 ^ Nat.log 2 n)
    have bounded : (2 : ℝ) ^ Nat.log 2 n ≤ 2 ^ 21 := pow_le_pow_right₀ (by norm_num) (by omega)
    have away : 2⁻¹ ^ 30 < Real.logb 2 (n / 2 ^ Nat.log 2 n) := by
      refine logb_large ((le_div_iff₀ unit).mpr ?_)
      linarith
    have short : 2⁻¹ ^ 30 < Real.logb 2 (2 * 2 ^ Nat.log 2 n / n) := by
      refine logb_large ((le_div_iff₀ positive).mpr ?_)
      linarith
    rw [Real.logb_div positive.ne' unit.ne', power] at away
    rw [Real.logb_div (by positivity) positive.ne', Real.logb_mul (by norm_num) unit.ne', power,
      Real.logb_self_eq_one (by norm_num)] at short
    rw [Int.floor_eq_iff]
    push_cast
    exact ⟨by linarith, by linarith⟩


section Start
variable {logAttempts : Nat → Int} {timeoutMs : Int32}

/-- The double arithmetic gives the integer quotient. -/
theorem start_eq {a : Nat} (large : 2000 < timeoutMs.toInt)
    (attempts : logAttempts (timeoutMs.toInt / 1000).toNat = a) (one : 1 ≤ a) :
    start logAttempts timeoutMs =
      { attempts := a, expTimeoutMs := timeoutMs.toInt / (2 ^ a - 1),
        computed := [(a : Int), timeoutMs.toInt / (2 ^ a - 1)], divisors := [2 ^ a - 1] } := by
  have bounded := timeoutMs.toInt_lt
  obtain ⟨t, natural⟩ := Int.eq_ofNat_of_zero_le (show 0 ≤ timeoutMs.toInt by omega)
  have power : 2 ≤ 2 ^ a := Nat.le_self_pow (by omega) 2
  have divisor : (((2 ^ a - 1 : Nat)) : Rat) = 2 ^ a - 1 := by
    rw [Nat.cast_sub (by omega)]
    norm_num
  have whole : (((2 ^ a - 1 : Nat)) : Int) = 2 ^ a - 1 := by
    rw [Nat.cast_sub (by omega)]
    norm_num
  have quotient : Double.truncate (Double.roundRat ((timeoutMs.toInt : Rat) / (2 ^ a - 1))) =
      timeoutMs.toInt / (2 ^ a - 1) := by
    rw [natural, Int.cast_natCast, ← divisor, Double.truncate_roundRat_div (by omega) (by omega),
      Int.natCast_div, whole]
  simp only [start, if_pos large, attempts, zpow_natCast, quotient]

theorem start_small (logAttempts : Nat → Int) (small : timeoutMs.toInt ≤ 2000) :
    start logAttempts timeoutMs = { attempts := 1, expTimeoutMs := timeoutMs.toInt } :=
  if_neg (by omega)

/-- Nothing has been polled before the loop. -/
theorem start_fresh (logAttempts : Nat → Int) (timeoutMs : Int32) :
    (start logAttempts timeoutMs).eventResponse = none ∧
    (start logAttempts timeoutMs).timeouts = [] ∧ (start logAttempts timeoutMs).polled = [] ∧
    (start logAttempts timeoutMs).destroyed = [] := by
  unfold start
  split <;> exact ⟨rfl, rfl, rfl, rfl⟩

end Start

/-- The event that a poll has returned. -/
def polledEvent (answers : Nat → Option Int) (poll : Nat) : Option PolledEvent :=
  (answers poll).map fun type => { poll, type }

section Attempts
variable (answers : Nat → Option Int) {s : PollForEvent}

theorem attempt_iterate_counters (n : Nat) : ((attempt answers)^[n] s).attempts = s.attempts - n ∧
    ((attempt answers)^[n] s).expTimeoutMs = 2 ^ n * s.expTimeoutMs ∧
    ((attempt answers)^[n] s).divisors = s.divisors := by
  induction n with
  | zero => simp
  | succ n ih =>
    obtain ⟨attempts, expTimeoutMs, divisors⟩ := ih
    rw [Function.iterate_succ_apply']
    refine ⟨?_, ?_, divisors⟩
    · simp only [attempt, attempts]
      omega
    · simp only [attempt, expTimeoutMs]
      ring

theorem attempt_iterate_timeouts (n : Nat) : ((attempt answers)^[n] s).timeouts =
    s.timeouts ++ (List.range n).map fun i => 2 ^ i * s.expTimeoutMs := by
  induction n with
  | zero => simp
  | succ n ih =>
    rw [Function.iterate_succ_apply', List.range_succ, List.map_append, ← List.append_assoc, ← ih]
    simp only [attempt, (attempt_iterate_counters answers n).2.1, List.map_singleton]

theorem attempt_iterate_computed (n : Nat) : ((attempt answers)^[n] s).computed =
    s.computed ++ (List.range n).flatMap fun i => [s.attempts - (i + 1 : Nat), 2 ^ (i + 1) * s.expTimeoutMs] := by
  induction n with
  | zero => simp
  | succ n ih =>
    obtain ⟨attempts, expTimeoutMs, -⟩ := attempt_iterate_counters answers (s := s) (n + 1)
    rw [Function.iterate_succ_apply'] at attempts expTimeoutMs
    rw [Function.iterate_succ_apply', List.range_succ, List.flatMap_append, ← List.append_assoc, ← ih,
      List.flatMap_singleton, ← attempts, ← expTimeoutMs]
    rfl

/-- Each event that has been polled is the one in hand or has been destroyed. -/
theorem attempt_iterate_destroyed (n : Nat) (held : s.destroyed ++ s.eventResponse.toList = s.polled) :
    ((attempt answers)^[n] s).destroyed ++ ((attempt answers)^[n] s).eventResponse.toList =
      ((attempt answers)^[n] s).polled := by
  induction n with
  | zero => exact held
  | succ n ih =>
    rw [Function.iterate_succ_apply']
    simp only [attempt, ih]

variable (first : s.timeouts = [])
include first

theorem attempt_iterate_eventResponse (n : Nat) :
    ((attempt answers)^[n + 1] s).eventResponse = polledEvent answers n := by
  have length : ((attempt answers)^[n] s).timeouts.length = n := by
    rw [attempt_iterate_timeouts, first, List.nil_append, List.length_map, List.length_range]
  rw [Function.iterate_succ_apply']
  simp only [attempt, length, polledEvent]

theorem attempt_iterate_polled (n : Nat) (unpolled : s.polled = []) :
    ((attempt answers)^[n] s).polled = (List.range n).filterMap (polledEvent answers) := by
  induction n with
  | zero => exact unpolled
  | succ n ih =>
    have eventResponse := attempt_iterate_eventResponse answers first n
    rw [Function.iterate_succ_apply'] at eventResponse
    rw [Function.iterate_succ_apply', List.range_succ, List.filterMap_append, ← ih]
    change _ ++ (attempt answers ((attempt answers)^[n] s)).eventResponse.toList = _
    rw [eventResponse]
    cases found : polledEvent answers n with
    | none => simp [found]
    | some event => simp [found]

end Attempts

/-- A run of the loop is a number of attempts, and all but the last continue. -/
theorem loop_eq (eventType : Int) (answers : Nat → Option Int) (fuel : Nat) (s : PollForEvent) :
    ∃ n ≤ fuel, s.loop eventType answers fuel = (attempt answers)^[n + 1] s ∧
      (∀ m < n, ((attempt answers)^[m + 1] s).continues eventType) ∧
      (n < fuel → ¬ ((attempt answers)^[n + 1] s).continues eventType) := by
  induction fuel generalizing s with
  | zero => exact ⟨0, le_rfl, rfl, by simp, by simp⟩
  | succ fuel ih =>
    by_cases more : (s.attempt answers).continues eventType
    · obtain ⟨n, bound, run, earlier, last⟩ := ih (s.attempt answers)
      refine ⟨n + 1, by omega, ?_, ?_, fun less => last (by omega)⟩
      · simp only [loop, if_pos more, run, Function.iterate_succ_apply]
      · intro m less
        cases m with
        | zero => exact more
        | succ m => exact earlier m (by omega)
    · refine ⟨0, by omega, ?_, by simp, fun _ => more⟩
      simp only [loop, if_neg more, zero_add, Function.iterate_one]

theorem continues_iterate {eventType : Int} {answers : Nat → Option Int} {s : PollForEvent}
    (first : s.timeouts = []) (n : Nat) :
    ((attempt answers)^[n + 1] s).continues eventType ↔
      rdKafkaEventType (polledEvent answers n) ≠ eventType ∧ (n + 1 : Nat) < s.attempts := by
  rw [continues, attempt_iterate_eventResponse answers first, (attempt_iterate_counters answers (n + 1)).1,
    Bool.decide_and, Bool.and_eq_true, decide_eq_true_eq, decide_eq_true_eq, sub_pos]

section Polls
variable {logAttempts : Nat → Int} (eventType : Int) (answers : Nat → Option Int) {timeoutMs : Int32} {a : Nat}

/-- The loop ends at the first poll that returns the type, or at the last attempt. -/
theorem polls_eq (attempts : (start logAttempts timeoutMs).attempts = a) (one : 1 ≤ a) :
    ∃ n < a, polls logAttempts eventType answers timeoutMs =
        (attempt answers)^[n + 1] (start logAttempts timeoutMs) ∧
      (∀ m < n, rdKafkaEventType (polledEvent answers m) ≠ eventType) ∧
      (rdKafkaEventType (polledEvent answers n) = eventType ∨ n + 1 = a) := by
  obtain ⟨-, first, -⟩ := start_fresh logAttempts timeoutMs
  obtain ⟨n, bound, run, earlier, last⟩ := loop_eq eventType answers
    ((start logAttempts timeoutMs).attempts - 1).toNat (start logAttempts timeoutMs)
  refine ⟨n, by omega, run, fun m less => ((continues_iterate first m).mp (earlier m less)).1, ?_⟩
  by_cases final : n + 1 = a
  · exact .inr final
  · have stopped := mt (continues_iterate first n).mpr (last (by omega))
    have attemptsLeft : (n + 1 : Nat) < (start logAttempts timeoutMs).attempts := by omega
    exact .inl (not_not.mp fun other => stopped ⟨other, attemptsLeft⟩)

end Polls

theorem polledEvent_eq_some {answers : Nat → Option Int} {poll : Nat} {event : PolledEvent} :
    polledEvent answers poll = some event ↔ answers poll = some event.type ∧ event.poll = poll := by
  cases event
  simp only [polledEvent, Option.map_eq_some_iff, PolledEvent.mk.injEq]
  constructor
  · rintro ⟨type, answered, rfl, rfl⟩
    exact ⟨answered, rfl⟩
  · rintro ⟨answered, rfl⟩
    exact ⟨_, answered, rfl, rfl⟩

/-- Events of different polls differ. -/
theorem polledEvents_nodup (answers : Nat → Option Int) (n : Nat) :
    ((List.range n).filterMap (polledEvent answers)).Nodup := by
  refine List.Nodup.filterMap ?_ List.nodup_range
  intro i j event first second
  rw [← (polledEvent_eq_some.mp first).2, ← (polledEvent_eq_some.mp second).2]

/-- The sum of the timeouts of a run. -/
theorem sum_doublings (e : Int) (n : Nat) : ((List.range n).map fun i => 2 ^ i * e).sum = (2 ^ n - 1) * e := by
  induction n with
  | zero => simp
  | succ n ih =>
    rw [List.range_succ, List.map_append, List.sum_append, ih, List.map_singleton, List.sum_singleton]
    ring

/-- The first timeout is positive, and all attempts together stay within the timeout. -/
theorem start_budget {timeoutMs : Int32} (positive : 0 < timeoutMs.toInt) :
    ∃ a : Nat, 1 ≤ a ∧ (start realAttempts timeoutMs).attempts = a ∧
      0 < (start realAttempts timeoutMs).expTimeoutMs ∧
      (2 ^ a - 1) * (start realAttempts timeoutMs).expTimeoutMs ≤ timeoutMs.toInt := by
  by_cases large : 2000 < timeoutMs.toInt
  · obtain ⟨n, seconds⟩ := Int.eq_ofNat_of_zero_le (show 0 ≤ timeoutMs.toInt / 1000 by omega)
    have attempts : realAttempts (timeoutMs.toInt / 1000).toNat = (Nat.log 2 n + 1 : Nat) := by
      rw [realAttempts_eq, seconds, Int.toNat_natCast, Nat.cast_succ]
    rw [start_eq large attempts (by omega)]
    have power : 2 ^ Nat.log 2 n ≤ n := Nat.pow_log_le_self 2 (by omega)
    have divisor : (2 : Int) ^ (Nat.log 2 n + 1) ≤ 2 * n := by
      rw [pow_succ]
      exact_mod_cast (by omega : 2 ^ Nat.log 2 n * 2 ≤ 2 * n)
    have two : (2 : Int) ≤ 2 ^ (Nat.log 2 n + 1) := by
      exact_mod_cast Nat.le_self_pow (Nat.succ_ne_zero _) 2
    have started : 1 ≤ timeoutMs.toInt / (2 ^ (Nat.log 2 n + 1) - 1) :=
      Int.le_ediv_of_mul_le (by omega) (by omega)
    exact ⟨_, by omega, rfl, started, Int.mul_ediv_self_le (by omega)⟩
  · rw [start_small realAttempts (by omega)]
    exact ⟨1, le_rfl, rfl, positive, by simp⟩

/-- Only the last poll of a run may have returned the type. -/
theorem requested_iff {eventType : Int} {answers : Nat → Option Int} {n : Nat} {event : PolledEvent}
    (earlier : ∀ m < n, rdKafkaEventType (polledEvent answers m) ≠ eventType)
    (requested : event.type = eventType) :
    event ∈ (List.range (n + 1)).filterMap (polledEvent answers) ↔ polledEvent answers n = some event := by
  rw [List.mem_filterMap]
  constructor
  · rintro ⟨m, bound, polled⟩
    rcases Nat.lt_succ_iff_lt_or_eq.mp (List.mem_range.mp bound) with before | rfl
    · refine absurd ?_ (earlier m before)
      rw [polled]
      exact requested
    · exact polled
  · intro polled
    exact ⟨n, List.mem_range.mpr (Nat.lt_succ_self n), polled⟩

section Finish
variable (eventType : Int) (s : PollForEvent)

theorem finish_kept : (s.finish eventType).2.timeouts = s.timeouts ∧ (s.finish eventType).2.polled = s.polled ∧
    (s.finish eventType).2.computed = s.computed ∧ (s.finish eventType).2.divisors = s.divisors := by
  unfold finish
  split <;> exact ⟨rfl, rfl, rfl, rfl⟩

theorem finish_eq_some {event : PolledEvent} :
    (s.finish eventType).1 = some event ↔ s.eventResponse = some event ∧ event.type = eventType := by
  unfold finish
  cases held : s.eventResponse with
  | none => simp
  | some response =>
    by_cases requested : response.type = eventType
    · simp only [rdKafkaEventType, requested, Option.some.injEq]
      grind
    · simp only [rdKafkaEventType]
      grind

/-- The event in hand is returned or destroyed. -/
theorem finish_destroyed : (s.finish eventType).2.destroyed ++ (s.finish eventType).1.toList =
    s.destroyed ++ s.eventResponse.toList := by
  unfold finish
  split
  · exact List.append_nil _
  · rfl

end Finish

section Outcome
variable {eventType : Int} {answers : Nat → Option Int} {s : PollForEvent} {n : Nat}
  (earlier : ∀ m < n, rdKafkaEventType (polledEvent answers m) ≠ eventType)
  (polled : s.polled = (List.range (n + 1)).filterMap (polledEvent answers))
  (response : s.eventResponse = polledEvent answers n)
include earlier polled response

/-- An event of the type is that of the last poll, and is returned. -/
theorem finish_of_mem {event : PolledEvent} (mem : event ∈ s.polled) (type : event.type = eventType) :
    event.poll = n ∧ (s.finish eventType).1 = some event := by
  rw [polled, requested_iff earlier type] at mem
  exact ⟨(polledEvent_eq_some.mp mem).2, (finish_eq_some eventType s).mpr ⟨response.trans mem, type⟩⟩

theorem mem_of_finish {event : PolledEvent} (found : (s.finish eventType).1 = some event) :
    event ∈ s.polled ∧ event.type = eventType := by
  obtain ⟨held, type⟩ := (finish_eq_some eventType s).mp found
  rw [polled, requested_iff earlier type, ← response]
  exact ⟨held, type⟩

theorem finish_eq_none_iff :
    (s.finish eventType).1 = none ↔ ∀ event ∈ s.polled, event.type ≠ eventType := by
  constructor
  · intro none event mem type
    have found := (finish_of_mem earlier polled response mem type).2
    exact Option.some_ne_none event (found.symm.trans none)
  · intro none
    refine Option.eq_none_iff_forall_ne_some.mpr fun event found => ?_
    obtain ⟨mem, type⟩ := mem_of_finish earlier polled response found
    exact none event mem type

end Outcome
end PollForEvent

open PollForEvent

/-- With the formula in real numbers: the polls stop at the first event of the
type, which is returned, all others are destroyed once each, and the timeouts
are positive and add up to the timeout at most. -/
theorem pollForEvent_budget (eventType : Int) (answers : Nat → Option Int) (timeoutMs : Int32)
    (positive : 0 < timeoutMs.toInt) :
    let (returned, s) := pollForEvent realAttempts eventType answers timeoutMs
    (1 ≤ s.timeouts.length ∧
      s.timeouts.length ≤ (start realAttempts timeoutMs).attempts) ∧
    s.polled = (List.range s.timeouts.length).filterMap (polledEvent answers) ∧
    (∀ event ∈ s.polled, event.type = eventType →
      event.poll + 1 = s.timeouts.length ∧ returned = some event) ∧
    (∀ event, returned = some event → event ∈ s.polled ∧ event.type = eventType) ∧
    (returned = none ↔ ∀ event ∈ s.polled, event.type ≠ eventType) ∧
    (s.destroyed ++ returned.toList = s.polled ∧ s.polled.Nodup) ∧
    (∀ timeout ∈ s.timeouts, 0 < timeout) ∧ s.timeouts.sum ≤ timeoutMs.toInt := by
  obtain ⟨a, one, attempts, started, budget⟩ := start_budget positive
  obtain ⟨fresh, first, unpolled, undestroyed⟩ :=
    start_fresh realAttempts timeoutMs
  obtain ⟨n, bound, run, earlier, -⟩ := polls_eq eventType answers attempts one
  have timeouts := attempt_iterate_timeouts answers
    (s := start realAttempts timeoutMs) (n + 1)
  have polled := attempt_iterate_polled answers first (n + 1) unpolled
  have response := attempt_iterate_eventResponse answers first n
  have destroyed := attempt_iterate_destroyed answers
    (s := start realAttempts timeoutMs) (n + 1) (by rw [fresh, unpolled, undestroyed]; rfl)
  rw [← run] at timeouts polled response destroyed
  rw [first, List.nil_append] at timeouts
  unfold pollForEvent
  generalize polls realAttempts eventType answers timeoutMs = s at *
  obtain ⟨keptTimeouts, keptPolled, -⟩ := finish_kept eventType s
  have stops := @finish_of_mem eventType answers s n earlier polled response
  have got := @mem_of_finish eventType answers s n earlier polled response
  have missed := finish_eq_none_iff earlier polled response
  have released := finish_destroyed eventType s
  have length : s.timeouts.length = n + 1 := by rw [timeouts, List.length_map, List.length_range]
  generalize finish eventType s = result at *
  obtain ⟨event?, final⟩ := result
  dsimp only at *
  rw [keptTimeouts, keptPolled]
  refine ⟨⟨by omega, by omega⟩, by rw [length, polled], ?_, fun _ => got, missed, ⟨?_, ?_⟩, ?_, ?_⟩
  · intro event mem type
    obtain ⟨last, found⟩ := stops mem type
    exact ⟨by omega, found⟩
  · rw [released, destroyed]
  · rw [polled]
    exact polledEvents_nodup answers (n + 1)
  · intro timeout mem
    rw [timeouts] at mem
    obtain ⟨i, -, rfl⟩ := List.mem_map.mp mem
    positivity
  · rw [timeouts, sum_doublings]
    have fewer : (2 : Int) ^ (n + 1) ≤ 2 ^ a := pow_le_pow_right₀ (by norm_num) (by omega)
    exact (mul_le_mul_of_nonneg_right (by omega) started.le).trans budget

/-- An event of another type, the requested one, and no more. -/
def otherThenRequested : Nat → Option Int
  | 0 => some 7
  | 1 => some 100
  | _ => none

/-- Five seconds make three attempts, of which the second gets the event. -/
theorem pollForEvent_budget_five_seconds : 0 < (5000 : Int32).toInt ∧
    ∃ s, pollForEvent realAttempts 100 otherThenRequested 5000 = (some ⟨1, 100⟩, s) ∧
      s.polled = [⟨0, 7⟩, ⟨1, 100⟩] ∧ s.destroyed = [⟨0, 7⟩] ∧ s.timeouts = [714, 1428] ∧
      s.destroyed ++ [⟨1, 100⟩] = s.polled ∧ s.timeouts.sum ≤ (5000 : Int32).toInt := by
  have log : Nat.log 2 5 = 2 := Nat.log_eq_of_pow_le_of_lt_pow (by norm_num) (by norm_num)
  have attempts : realAttempts ((5000 : Int32).toInt / 1000).toNat = (3 : Nat) := by
    rw [show ((5000 : Int32).toInt / 1000).toNat = 5 by decide, realAttempts_eq, log]
    rfl
  obtain ⟨s, run, polled, destroyed, timeouts⟩ : ∃ s,
      pollForEvent realAttempts 100 otherThenRequested 5000 = (some ⟨1, 100⟩, s) ∧
        s.polled = [⟨0, 7⟩, ⟨1, 100⟩] ∧ s.destroyed = [⟨0, 7⟩] ∧ s.timeouts = [714, 1428] := by
    rw [pollForEvent, polls, start_eq (by decide) attempts (by decide)]
    exact ⟨_, rfl, by decide, by decide, by decide⟩
  have budget := pollForEvent_budget 100 otherThenRequested 5000 (by decide)
  rw [run] at budget
  obtain ⟨_, _, _, _, _, ⟨released, _⟩, _, sum⟩ := budget
  exact ⟨by decide, s, run, polled, destroyed, timeouts, released, sum⟩

namespace PollForEvent

/-- The wait doubled after the last attempt, by the number of attempts. -/
theorem doubled_bound {t : Int} {a : Nat} (large : 2000 < t) (fits : t < 2 ^ 31) (one : 1 ≤ a) (most : a ≤ 22)
    (attempts : 2 ^ (a - 1) ≤ t / 1000 ∧ t / 1000 < 2 ^ a ∨ t / 1000 = 2 ^ a) :
    (t < 2147483136 → 2 ^ a * (t / (2 ^ a - 1)) < 2 ^ 31) ∧
      (2147483136 ≤ t → a = 22 ∧ t / (2 ^ a - 1) = 512) := by
  interval_cases a <;> omega

/-- The attempts and the first wait for each timeout that is divided. -/
theorem start_attempts {logAttempts : Nat → Int} (accurate : Accurate logAttempts) {timeoutMs : Int32}
    (large : 2000 < timeoutMs.toInt) :
    ∃ a : Nat, 1 ≤ a ∧ a ≤ 22 ∧ logAttempts (timeoutMs.toInt / 1000).toNat = a ∧
      (timeoutMs.toInt < 2147483136 → 2 ^ a * (timeoutMs.toInt / (2 ^ a - 1)) < 2 ^ 31) ∧
      (2147483136 ≤ timeoutMs.toInt → a = 22 ∧ timeoutMs.toInt / (2 ^ a - 1) = 512) := by
  have fits := timeoutMs.toInt_lt
  obtain ⟨n, seconds⟩ := Int.eq_ofNat_of_zero_le (show 0 ≤ timeoutMs.toInt / 1000 by omega)
  have lower : 2 ^ Nat.log 2 n ≤ n := Nat.pow_log_le_self 2 (by omega)
  have upper : n < 2 ^ (Nat.log 2 n + 1) := Nat.lt_pow_succ_log_self (by norm_num) n
  have log : Nat.log 2 n < 22 := Nat.log_lt_of_lt_pow (by omega) (by omega)
  have some : 1 ≤ Nat.log 2 n := Nat.log_pos (by norm_num) (by omega)
  rw [seconds, Int.toNat_natCast]
  rcases accurate_attempts accurate (show 2 ≤ n by omega) (by omega) with next | ⟨power, same⟩
  · refine ⟨Nat.log 2 n + 1, by omega, by omega, by rw [next]; rfl, ?_⟩
    refine doubled_bound large fits (by omega) (by omega) (.inl ?_)
    rw [seconds, Nat.add_sub_cancel]
    exact ⟨by exact_mod_cast lower, by exact_mod_cast upper⟩
  · refine ⟨Nat.log 2 n, some, by omega, same, ?_⟩
    refine doubled_bound large fits some (by omega) (.inr ?_)
    rw [seconds]
    exact_mod_cast power

/-- The values of a run fit an int when the last doubling does. -/
theorem computed_fit {a n : Nat} {e : Int} (natural : 0 ≤ e) (most : a ≤ 22) (less : n < a) :
    (∀ value ∈ [(a : Int), e] ++
        (List.range (n + 1)).flatMap fun i => [(a : Int) - (i + 1 : Nat), 2 ^ (i + 1) * e],
      -2 ^ 31 ≤ value ∧ value < 2 ^ 31) ↔ 2 ^ (n + 1) * e < 2 ^ 31 := by
  constructor
  · intro fit
    refine (fit (2 ^ (n + 1) * e) (List.mem_append_right _ ?_)).2
    exact List.mem_flatMap.mpr ⟨n, List.mem_range.mpr (Nat.lt_succ_self n), by simp⟩
  · intro last value mem
    have doubled : ∀ m ≤ n + 1, 0 ≤ 2 ^ m * e ∧ 2 ^ m * e < 2 ^ 31 := by
      intro m bound
      have power : (2 : Int) ^ m ≤ 2 ^ (n + 1) := pow_le_pow_right₀ (by norm_num) bound
      exact ⟨by positivity, (mul_le_mul_of_nonneg_right power natural).trans_lt last⟩
    have first := doubled 0 (Nat.zero_le _)
    rw [pow_zero, one_mul] at first
    simp only [List.mem_append, List.mem_cons, List.not_mem_nil, or_false, List.mem_flatMap,
      List.mem_range] at mem
    rcases mem with (rfl | rfl) | ⟨i, bound, rfl | rfl⟩
    · omega
    · omega
    · omega
    · have := doubled (i + 1) (by omega)
      omega

end PollForEvent

/-- No int overflows and nothing is divided by zero, but for timeouts below
-2^30, which are doubled once, and for the largest, where the last of the 22
attempts doubles to 2^31. -/
theorem pollForEvent_fits_iff {logAttempts : Nat → Int} (accurate : Accurate logAttempts) (eventType : Int)
    (answers : Nat → Option Int) (timeoutMs : Int32) :
    ((∀ value ∈ (pollForEvent logAttempts eventType answers timeoutMs).2.computed,
          -2 ^ 31 ≤ value ∧ value < 2 ^ 31) ∧
        ∀ divisor ∈ (pollForEvent logAttempts eventType answers timeoutMs).2.divisors, divisor ≠ 0) ↔
      -2 ^ 30 ≤ timeoutMs.toInt ∧
        (2147483136 ≤ timeoutMs.toInt → ∃ i < 21, rdKafkaEventType (polledEvent answers i) = eventType) := by
  obtain ⟨-, -, keptComputed, keptDivisors⟩ :=
    finish_kept eventType (polls logAttempts eventType answers timeoutMs)
  rw [pollForEvent, keptComputed, keptDivisors]
  by_cases large : 2000 < timeoutMs.toInt
  · obtain ⟨a, one, most, attempts, inside, band⟩ := start_attempts accurate large
    have started := start_eq large attempts one
    obtain ⟨n, less, run, earlier, last⟩ :=
      polls_eq eventType answers (congrArg PollForEvent.attempts started) one
    rw [run, attempt_iterate_computed, (attempt_iterate_counters answers (n + 1)).2.2, started]
    have two : (2 : Int) ≤ 2 ^ a := by exact_mod_cast Nat.le_self_pow (by omega) 2
    have natural : 0 ≤ timeoutMs.toInt / (2 ^ a - 1) := Int.ediv_nonneg (by omega) (by omega)
    have divisor : (2 : Rat) ^ a - 1 ≠ 0 := by
      have two : (2 : Rat) ≤ 2 ^ a := by exact_mod_cast two
      linarith
    rw [computed_fit natural most less]
    simp only [List.forall_mem_singleton]
    by_cases upper : timeoutMs.toInt < 2147483136
    · have power : (2 : Int) ^ (n + 1) ≤ 2 ^ a := pow_le_pow_right₀ (by norm_num) (by omega)
      have fits := (mul_le_mul_of_nonneg_right power natural).trans_lt (inside upper)
      exact iff_of_true ⟨fits, divisor⟩ ⟨by omega, by omega⟩
    · obtain ⟨rfl, wait⟩ := band (by omega)
      rw [wait]
      have power : (2 : Int) ^ (n + 1) * 512 < 2 ^ 31 ↔ n < 21 := by
        rw [show (512 : Int) = 2 ^ 9 by norm_num, ← pow_add, pow_lt_pow_iff_right₀ (by norm_num)]
        omega
      rw [power]
      constructor
      · rintro ⟨short, -⟩
        have stopped := last.resolve_right (by omega)
        exact ⟨by omega, fun _ => ⟨n, short, stopped⟩⟩
      · rintro ⟨-, requested⟩
        obtain ⟨i, bound, requested⟩ := requested (by omega)
        refine ⟨?_, divisor⟩
        by_contra long
        exact earlier i (by omega) requested
  · have started := start_small logAttempts (show timeoutMs.toInt ≤ 2000 by omega)
    obtain ⟨n, less, run, -⟩ :=
      polls_eq (a := 1) eventType answers (congrArg PollForEvent.attempts started) le_rfl
    obtain rfl : n = 0 := by omega
    have computed : ((attempt answers)^[0 + 1] (start logAttempts timeoutMs)).computed =
        [0, 2 * timeoutMs.toInt] := by
      rw [attempt_iterate_computed, started]
      rfl
    have divisors : ((attempt answers)^[0 + 1] (start logAttempts timeoutMs)).divisors = [] := by
      rw [started]
      rfl
    rw [run, computed, divisors]
    simp only [List.forall_mem_cons, List.not_mem_nil, IsEmpty.forall_iff, implies_true, and_true]
    omega

/-- The largest timeout, and an event of the type at the first poll. -/
theorem pollForEvent_fits_iff_first : Accurate realAttempts ∧
    ∀ value ∈ (pollForEvent realAttempts 100 (fun _ => some 100) 2147483647).2.computed,
      -2 ^ 31 ≤ value ∧ value < 2 ^ 31 :=
  ⟨accurate_realAttempts, ((pollForEvent_fits_iff accurate_realAttempts 100 (fun _ => some 100) 2147483647).mpr
    ⟨by decide, fun _ => ⟨0, by decide, by decide⟩⟩).1⟩

/-- The largest timeout, and no event. -/
theorem pollForEvent_overflows : Accurate realAttempts ∧
    2 ^ 31 ∈ (pollForEvent realAttempts 100 (fun _ => none) 2147483647).2.computed := by
  refine ⟨accurate_realAttempts, ?_⟩
  have log : Nat.log 2 2147483 = 21 := Nat.log_eq_of_pow_le_of_lt_pow (by norm_num) (by norm_num)
  have attempts : realAttempts ((2147483647 : Int32).toInt / 1000).toNat = (22 : Nat) := by
    rw [show ((2147483647 : Int32).toInt / 1000).toNat = 2147483 by decide, realAttempts_eq, log]
    rfl
  rw [pollForEvent, polls, start_eq (by decide) attempts (by decide)]
  decide

end NodeRdkafka
