import NodeRdkafka.PollingCounter

namespace NodeRdkafka
open Transition Turn

/-- A producer and how many calls of the underlying produce came before its
present connection. -/
structure ProducerSession where
  producer : HighLevelProducer := {}
  earlier : Nat := 0

namespace HighLevelProducer

/-- The interval of the polling counter is set and has not been cleared. -/
def Live (s : HighLevelProducer) : Prop := ∃ interval ∈ s.intervals, s.pollingRefTimeout = some interval

/-- The counter takes the interval for running, and it has been cleared. -/
def Drifted (s : HighLevelProducer) : Prop := s.pollingRef.isRunning = true ∧ ¬ s.Live

end HighLevelProducer

namespace ProducerSession
section Code
variable (outcome callbackThrows : Nat → Option JsError)

def step (s : ProducerSession) (action : HighLevelAction) : Option ProducerSession :=
  (s.producer.step outcome callbackThrows action).map fun producer =>
    match action with
    | .connected => { producer, earlier := producer.attempts.length }
    | _ => { s with producer }

/-- The ids of the messages produced on this connection, which include those
produced since its 'ready'. -/
def recent (s : ProducerSession) : List Nat := (s.producer.attempts.drop s.earlier).map (·.messageId)

/-- The condition on a step: no call produces twice, and after a tick has
cleared the interval behind the counter's back no accepted message is handed
to the underlying produce. -/
def Steady (s : ProducerSession) : HighLevelAction → Prop
  | .produce _ value key =>
    ¬ s.producer.ProducesTwice outcome callbackThrows value key ∧
      (HighLevelProducer.ProducesNow value key → s.producer.refusal outcome = none → ¬ s.producer.Drifted)
  | .settle id part (.ok v) =>
    s.producer.Completes id part v → s.producer.refusal outcome = none → ¬ s.producer.Drifted
  | _ => True

variable {outcome callbackThrows} {s t : ProducerSession} {p q : HighLevelProducer} {id : Nat}

/-- While the producer is connected, a message of this connection that waits
for its report keeps the interval. -/
structure Polled (s : ProducerSession) : Prop where
  counted : s.producer.Counted
  polled : s.producer.isConnected = true → ∀ id ∈ s.producer.outstanding, id ∈ s.recent → s.producer.Live

theorem live_congr (intervals : q.intervals = p.intervals)
    (timeout : q.pollingRefTimeout = p.pollingRefTimeout) : q.Live ↔ p.Live := by
  simp only [HighLevelProducer.Live, intervals, timeout]

/-- While a message waits the counter takes the interval for running. -/
theorem running_of_waiting (counted : p.Counted) (waiting : id ∈ p.outstanding) :
    p.pollingRef.isRunning = true := by
  refine counted.running.mpr ?_
  rw [counted.counter]
  exact_mod_cast Finset.card_pos.mpr ⟨id, counted.waiting waiting⟩

/-- A new call on a producer that has not drifted leaves the interval live. -/
theorem live_openCall (counted : p.Counted) (steady : ¬ p.Drifted) (arguments : ProduceArguments) :
    (HighLevelProducer.openCall arguments p).Live := by
  rw [HighLevelProducer.openCall_fields]
  obtain ⟨_, ⟨running, intervals, timeout⟩ | ⟨_, intervals, timeout⟩⟩ := counted.increment
  · have live : p.Live := by
      by_contra cleared
      exact steady ⟨running, cleared⟩
    exact (live_congr intervals timeout).mpr live
  · exact ⟨p.nextInterval, by simp [intervals], timeout⟩

/-- A message that waits keeps its interval when a call is added. -/
theorem Polled.openCall (polled : s.Polled) (arguments : ProduceArguments) :
    Polled { s with producer := HighLevelProducer.openCall arguments s.producer } := by
  refine ⟨polled.counted.openCall arguments, fun connected other waiting recent => ?_⟩
  simp only [ProducerSession.recent, HighLevelProducer.openCall_fields] at connected waiting recent
  refine live_openCall polled.counted ?_ arguments
  rintro ⟨_, cleared⟩
  exact cleared (polled.polled connected other waiting recent)

/-- Code that hands no accepted message over while the interval has been
cleared leaves each message of the connection its interval. -/
theorem Polled.handed (polled : s.Polled) (counted : q.Counted)
    (hands : HighLevelProducer.HandsOver outcome id s.producer q)
    (steady : (q.callOf id).attempts ≠ (s.producer.callOf id).attempts →
      s.producer.refusal outcome = none → ¬ s.producer.Drifted) : Polled { s with producer := q } := by
  refine ⟨counted, fun connected other waiting recent => ?_⟩
  refine (live_congr hands.intervals hands.pollingRefTimeout).mpr ?_
  have kept := polled.polled (hands.isConnected.symm.trans connected) other
  have running := running_of_waiting counted waiting
  rw [hands.pollingRef] at running
  rcases hands.cases (counted.opened.single counted.once id) with
    ⟨taken, outstanding, _⟩ | ⟨attempt, own, taken, untried, outstanding, _⟩
  · refine kept (outstanding ▸ waiting) ?_
    simpa only [ProducerSession.recent, taken] using recent
  · by_cases accepted : s.producer.refusal outcome = none
    · by_contra cleared
      refine steady ?_ accepted ⟨running, cleared⟩
      rw [HighLevelProducer.HandsOver.attempts_own taken (by simpa using own), untried]
      simp
    · -- a message that was refused is none of those that wait
      rw [if_neg accepted, List.append_nil] at outstanding
      have old : other ∈ s.producer.outstanding := outstanding ▸ waiting
      refine kept old ?_
      have apart : attempt.messageId ≠ other := by
        rintro rfl
        exact polled.counted.attempted _ (.inl old) (own ▸ untried)
      simp only [ProducerSession.recent, taken, List.drop_append, List.map_append, List.mem_append] at recent
      refine recent.resolve_right fun new => ?_
      obtain ⟨found, member, same⟩ := List.mem_map.mp new
      exact apart (List.mem_singleton.mp (List.mem_of_mem_drop member) ▸ same)

theorem Polled.produce {arguments : ProduceArguments} {value key : Serialization} (polled : s.Polled)
    (steady : s.Steady outcome callbackThrows (.produce arguments value key)) (counted : q.Counted)
    (run : s.producer.step outcome callbackThrows (.produce arguments value key) = some q) :
    Polled { s with producer := q } := by
  have opened := polled.counted.opened
  refine (polled.openCall arguments).handed counted (HighLevelProducer.produce_handsOver run) fun tried accepted => ?_
  rw [HighLevelProducer.openCall_callOf opened] at tried
  have now := HighLevelProducer.produce_tried opened run tried
  rw [HighLevelProducer.refusal_open] at accepted
  exact fun drifted => drifted.2 (live_openCall polled.counted (steady.2 now accepted) arguments)

theorem Polled.settle {part : SerializerPart} {result : Except JsError JsValue} (polled : s.Polled)
    (steady : s.Steady outcome callbackThrows (.settle id part result)) (counted : q.Counted)
    (run : s.producer.step outcome callbackThrows (.settle id part result) = some q) :
    Polled { s with producer := q } := by
  refine polled.handed counted (HighLevelProducer.settle_handsOver run).2 fun tried accepted => ?_
  rcases HighLevelProducer.step_attempts polled.counted.opened run (by simp) id with
    same | ⟨part', v, settles, completes, _⟩
  · exact absurd same tried
  · cases settles
    exact steady completes accepted

theorem Polled.report {report : HighLevelReport} (polled : s.Polled) (counted : q.Counted)
    (run : s.producer.step outcome callbackThrows (.report report) = some q) :
    Polled { s with producer := q } := by
  obtain ⟨reported, rfl⟩ := polled.counted.report_run run
  refine ⟨counted, fun connected id waiting recent => ?_⟩
  obtain ⟨other, old⟩ := polled.counted.distinct.mem_erase_iff.mp waiting
  have several : 1 < s.producer.unreported.card :=
    Finset.one_lt_card.mpr ⟨id, polled.counted.waiting old, _, polled.counted.waiting reported, other⟩
  have intervals : (s.producer.heard report).intervals = s.producer.intervals := if_pos several
  exact (live_congr intervals rfl).mpr (polled.polled connected id old recent)

theorem Polled.tick (polled : s.Polled) : Polled { s with producer := s.producer.tick } := by
  have counted := polled.counted.tick
  by_cases online : s.producer.isConnected = true
  · have ticked : s.producer.tick = { s.producer with polls := s.producer.polls + 1 } := if_pos online
    rw [ticked] at counted ⊢
    exact ⟨counted, polled.polled⟩
  · have ticked : s.producer.tick = s.producer.clearPolling := if_neg online
    rw [ticked] at counted ⊢
    exact ⟨counted, fun connected => absurd connected online⟩

theorem Polled.step {action : HighLevelAction} (polled : s.Polled)
    (steady : s.Steady outcome callbackThrows action)
    (run : s.step outcome callbackThrows action = some t) : t.Polled := by
  obtain ⟨q, stepped, rfl⟩ := Option.map_eq_some_iff.mp run
  have single : s.producer.Single outcome callbackThrows action := by
    cases action with
    | produce arguments value key => exact steady.1
    | _ => trivial
  have counted := polled.counted.step single stepped
  cases action with
  | produce arguments value key => exact polled.produce steady counted stepped
  | settle id part result => exact polled.settle steady counted stepped
  | rejection =>
    obtain ⟨id, hands⟩ := HighLevelProducer.rejection_handsOver stepped
    refine polled.handed counted hands fun tried => absurd ?_ tried
    exact (HighLevelProducer.step_attempts polled.counted.opened stepped (by simp) id).resolve_right (by simp)
  | immediate =>
    obtain ⟨id, hands⟩ := HighLevelProducer.immediate_handsOver stepped
    refine polled.handed counted hands fun tried => absurd ?_ tried
    exact (HighLevelProducer.step_attempts polled.counted.opened stepped (by simp) id).resolve_right (by simp)
  | report report => exact polled.report counted stepped
  | tick interval =>
    obtain rfl := HighLevelProducer.step_tick stepped
    exact polled.tick
  | disconnected =>
    cases Option.some.inj stepped
    exact ⟨counted, by simp⟩
  | connected =>
    cases Option.some.inj stepped
    exact ⟨counted, by simp [recent]⟩

end Code
end ProducerSession

/-- In every state of a run that meets the condition the interval is live
while a message of the present connection waits for its report. -/
theorem interval_live {outcome callbackThrows : Nat → Option JsError} {s : ProducerSession}
    {trace : List HighLevelAction}
    (reach : ReachWhile (ProducerSession.Steady outcome callbackThrows)
      (ProducerSession.step outcome callbackThrows) {} trace s)
    (connected : s.producer.isConnected = true) {id : Nat} (recent : id ∈ s.recent)
    (waiting : id ∈ s.producer.outstanding) : s.producer.Live :=
  (reach.invariant ProducerSession.Polled ⟨HighLevelProducer.counted_start, by simp⟩
    fun steady polled run => polled.step steady run).polled connected id waiting recent

def sampleProduce : HighLevelAction :=
  .produce (sampleArguments (.buffer [1]) .null) (noopSerializer (.buffer [1])) (noopSerializer .null)

theorem sampleProduce_single {s : HighLevelProducer} : ¬ s.ProducesTwice (fun _ => none) (fun _ => none)
    (noopSerializer (.buffer [1])) (noopSerializer .null) := by
  rintro ⟨_, _, _, _, style, _⟩
  simp [noopSerializer] at style

/-- The report that comes while the producer is away resets the counter. -/
theorem interval_live_reconnected :
    ∃ s, ReachWhile (ProducerSession.Steady (fun _ => none) fun _ => none)
        (ProducerSession.step (fun _ => none) fun _ => none) {}
        [.connected, sampleProduce, .disconnected, .tick 0,
          .report { messageId := 0, err := some { message := "Local: Purged in queue" }, offset := -1001 },
          .connected, sampleProduce] s ∧
      s.producer.isConnected = true ∧ 1 ∈ s.recent ∧ 1 ∈ s.producer.outstanding ∧ s.producer.Live := by
  obtain ⟨s, reach, connected, recent, waiting⟩ : ∃ s,
      ReachWhile (ProducerSession.Steady (fun _ => none) fun _ => none)
        (ProducerSession.step (fun _ => none) fun _ => none) {}
        [.connected, sampleProduce, .disconnected, .tick 0,
          .report { messageId := 0, err := some { message := "Local: Purged in queue" }, offset := -1001 },
          .connected, sampleProduce] s ∧
      s.producer.isConnected = true ∧ 1 ∈ s.recent ∧ 1 ∈ s.producer.outstanding := by
    refine ⟨_, .prepend trivial rfl <| .prepend ⟨sampleProduce_single, ?_⟩ rfl <| .prepend trivial rfl <|
      .prepend trivial rfl <| .prepend trivial rfl <| .prepend trivial rfl <|
      .prepend ⟨sampleProduce_single, ?_⟩ rfl .start, rfl, by decide, by decide⟩
    · rintro - - ⟨running, _⟩
      exact absurd running (by decide)
    · rintro - - ⟨running, _⟩
      exact absurd running (by decide)
  exact ⟨s, reach, connected, recent, waiting, interval_live reach connected recent waiting⟩

/-- A tick while the producer is away clears the interval, the counter still
takes it for running, and no later call starts it again. -/
theorem interval_lost :
    ∃ s, Reach (ProducerSession.step (fun _ => none) fun _ => none) {}
        [.connected, sampleProduce, .disconnected, .tick 0, .connected, sampleProduce] s ∧
      s.producer.isConnected = true ∧ 1 ∈ s.recent ∧ 1 ∈ s.producer.outstanding ∧ ¬ s.producer.Live := by
  refine ⟨_, reach_iff_replay.mpr rfl, rfl, by decide, by decide, ?_⟩
  rintro ⟨interval, live, _⟩
  exact absurd live (List.not_mem_nil)

end NodeRdkafka
