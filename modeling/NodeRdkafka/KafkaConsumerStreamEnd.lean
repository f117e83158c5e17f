import NodeRdkafka.KafkaConsumerStreamOrder

namespace NodeRdkafka
open Transition

namespace KafkaConsumerStream
variable {ε : Type} {s t u : KafkaConsumerStream ε}

/-- Between the two states nothing but null has been pushed. -/
def PushesOnlyNull (s t : KafkaConsumerStream ε) : Prop :=
  ∃ items, t.pushed = s.pushed ++ items ∧ ∀ item ∈ items, item.isNull = true

theorem PushesOnlyNull.of_same (same : t.pushed = s.pushed) : s.PushesOnlyNull t := ⟨[], by simp [same], by simp⟩

theorem PushesOnlyNull.trans (first : s.PushesOnlyNull t) (second : t.PushesOnlyNull u) : s.PushesOnlyNull u := by
  obtain ⟨early, start, earlyNull⟩ := first
  obtain ⟨late, finish, lateNull⟩ := second
  refine ⟨early ++ late, by rw [finish, start, List.append_assoc], fun item member => ?_⟩
  rcases List.mem_append.mp member with inEarly | inLate
  · exact earlyNull item inEarly
  · exact lateNull item inLate

theorem pushesOnlyNull_iff {items : List JsValue} (grown : t.pushed = s.pushed ++ items) :
    s.PushesOnlyNull t ↔ ∀ item ∈ items, item.isNull = true := by
  constructor
  · rintro ⟨others, same, null⟩
    rw [grown] at same
    rwa [List.append_cancel_left same]
  · exact fun null => ⟨items, grown, null⟩

/-- The item that a result of consume makes onread push. -/
def firstItem (s : KafkaConsumerStream ε) (result : Except ε (List JsValue)) : List JsValue :=
  (s.options.items result).head?.toList

/-- At most one callback, `called` counted, will go on with a read: while it
does, nothing is held. An unsubscribed stream has ended. -/
structure AwaitingWith (s : KafkaConsumerStream ε) (called : Nat) : Prop where
  single : s.resumptions + called ≤ 1
  drained : 0 < s.resumptions + called → s.messages = [] ∧ (s.reading = true ∨ s.ended = true)
  finished : s.unsubscribed = true → s.ended = true

def Awaiting (s : KafkaConsumerStream ε) : Prop := s.AwaitingWith 0

/-- The caller of _read is the one callback that goes on with the read. -/
theorem AwaitingWith.caller {later : Nat} (awaiting : s.AwaitingWith (later + 1)) :
    later = 0 ∧ s.resumptions = 0 ∧ s.messages = [] ∧ (s.reading = true ∨ s.ended = true) := by
  have single := awaiting.single
  obtain ⟨held, waits⟩ := awaiting.drained (by omega)
  exact ⟨by omega, by omega, held, waits⟩

/-- Nothing is called once the stream has pushed. -/
theorem awaiting_of_alone (alone : s.resumptions = 0) (finished : s.unsubscribed = true → s.ended = true) :
    s.Awaiting := ⟨by omega, fun pending => by omega, finished⟩

theorem push_awaiting (awaiting : s.AwaitingWith 1) (item : JsValue) : (s.push item).Awaiting := by
  obtain ⟨_, alone, _, _⟩ := awaiting.caller
  refine awaiting_of_alone alone fun unsubscribed => ?_
  simp [push, awaiting.finished unsubscribed]

theorem retry_awaiting (awaiting : s.AwaitingWith 1) (size : Nat) :
    (s.retry size).Awaiting ∧ (s.retry size).pushed = s.pushed := by
  obtain ⟨_, alone, held, waits⟩ := awaiting.caller
  simp only [resumptions] at alone
  by_cases immediately : s.options.waitInterval = 0
  · rw [retry_immediately size immediately]
    refine ⟨⟨?_, fun _ => ⟨held, waits⟩, awaiting.finished⟩, rfl⟩
    simp only [resumptions, List.length_append, List.length_singleton]
    omega
  · rw [retry_later size immediately]
    refine ⟨⟨?_, fun _ => ⟨held, waits⟩, awaiting.finished⟩, rfl⟩
    simp only [resumptions, List.length_append, List.length_singleton]
    omega

theorem consume_awaiting (awaiting : s.AwaitingWith 1) (fetchSize size : Nat) :
    (s.consume fetchSize size).Awaiting ∧ (s.consume fetchSize size).pushed = s.pushed := by
  obtain ⟨_, alone, held, waits⟩ := awaiting.caller
  refine ⟨⟨?_, fun _ => ⟨held, waits⟩, awaiting.finished⟩, rfl⟩
  simp only [resumptions] at alone
  simp only [consume, resumptions, List.length_append, List.length_singleton]
  omega

/-- A read that finds nothing held pushes nothing. -/
theorem read_awaiting (awaiting : s.AwaitingWith 1) (size : Nat) :
    (s.read size).Awaiting ∧ (s.read size).pushed = s.pushed := by
  obtain ⟨_, alone, held, waits⟩ := awaiting.caller
  simp only [resumptions] at alone
  by_cases connected : s.consumer.isConnected
  · by_cases destroyed : s.destroyed
    · rw [read_destroyed size held connected destroyed]
      exact ⟨awaiting_of_alone alone awaiting.finished, rfl⟩
    · simpa [read, held, connected, destroyed] using consume_awaiting awaiting _ size
  · rw [read_waits size held connected]
    refine ⟨⟨?_, fun _ => ⟨held, waits⟩, awaiting.finished⟩, rfl⟩
    simp only [resumptions, StreamListener.reads_append, StreamListener.reads_read, StreamListener.reads_nil]
    omega

/-- The read goes on with a result: its first item is pushed. -/
theorem onread_awaiting (awaiting : s.AwaitingWith 1) (size : Nat) (result : Except ε (List JsValue)) :
    (s.onread s.options.item size result).Awaiting ∧
      (s.onread s.options.item size result).pushed = s.pushed ++ s.firstItem result := by
  have recorded : (s.record result).AwaitingWith 1 := ⟨awaiting.single, awaiting.drained, awaiting.finished⟩
  obtain ⟨_, alone, held, _⟩ := awaiting.caller
  cases result with
  | error err =>
    have told : AwaitingWith { s.record (.error err) with errors := s.errors ++ [err] } 1 :=
      ⟨awaiting.single, awaiting.drained, awaiting.finished⟩
    have nothing : s.firstItem (.error err) = [] := rfl
    rw [nothing, List.append_nil]
    by_cases listens : s.errorListener
    · rw [onread_retried size listens]
      exact retry_awaiting told size
    · rw [onread_thrown size listens]
      exact ⟨awaiting_of_alone alone awaiting.finished, rfl⟩
  | ok messages =>
    cases messages with
    | nil =>
      have nothing : s.firstItem (.ok []) = [] := by simp [firstItem, StreamOptions.items]
      rw [onread_empty, nothing, List.append_nil]
      exact retry_awaiting recorded size
    | cons message rest =>
      by_cases batches : s.options.streamAsBatch
      · rw [onread_whole size batches]
        exact ⟨push_awaiting recorded _, by simp [push, record, firstItem, StreamOptions.items, batches]⟩
      · rw [onread_itemwise size batches held]
        refine ⟨awaiting_of_alone alone fun unsubscribed => ?_, ?_⟩
        · have ended : s.ended = true := awaiting.finished unsubscribed
          simp [push, record, ended]
        · simp [push, record, firstItem, StreamOptions.items, batches]

/-- A step apart from reading pushes null at most. -/
theorem Apart.pushesOnlyNull (apart : s.Apart t) : s.PushesOnlyNull t := by
  rcases apart with ⟨aside, _⟩ | ⟨unsubscribed, _⟩
  · exact .of_same (congrArg PullBuffer.State.handed aside.pullBuffer)
  · exact ⟨[.null], congrArg PullBuffer.State.handed unsubscribed.pullBuffer, by simp [JsValue.isNull]⟩

theorem Apart.awaiting {called : Nat} (apart : s.Apart t) (awaiting : s.AwaitingWith called) :
    t.AwaitingWith called := by
  obtain ⟨single, drained, finished⟩ := awaiting
  rcases apart with ⟨aside, ended⟩ | ⟨unsubscribed, ended⟩
  · have messages : t.messages = s.messages := congrArg PullBuffer.State.buffer aside.pullBuffer
    refine ⟨aside.resumptions ▸ single, fun pending => ?_, ?_⟩
    · rw [aside.resumptions] at pending
      rw [messages, aside.reading, ended]
      exact drained pending
    · rw [aside.unsubscribed, ended]
      exact finished
  · have messages : t.messages = s.messages := congrArg PullBuffer.State.buffer unsubscribed.pullBuffer
    have resumptions : t.resumptions = s.resumptions := unsubscribed.resumptions
    refine ⟨resumptions ▸ single, fun pending => ⟨?_, Or.inr ended⟩, fun _ => ended⟩
    rw [resumptions] at pending
    exact messages.trans (drained pending).1

/-- One 'ready' event: the one listener that reads pushes nothing. -/
theorem emitReady_awaiting {listeners : List StreamListener}
    (awaiting : s.AwaitingWith (StreamListener.reads listeners)) :
    (s.emitReady listeners).Awaiting ∧ s.PushesOnlyNull (s.emitReady listeners) := by
  induction listeners generalizing s with
  | nil => exact ⟨awaiting, .of_same rfl⟩
  | cons listener later ih =>
    cases listener with
    | read size =>
      rw [StreamListener.reads_read] at awaiting
      obtain ⟨none_later, _, _, _⟩ := awaiting.caller
      obtain ⟨first, same⟩ := read_awaiting (by simpa [none_later] using awaiting) size
      obtain ⟨rest, null⟩ := ih (by rwa [none_later])
      exact ⟨rest, (PushesOnlyNull.of_same same).trans null⟩
    | close =>
      rw [StreamListener.reads_close] at awaiting
      have apart := s.close_apart
      simp only [emitReady]
      split
      · rename_i closed closes
        rw [closes] at apart
        obtain ⟨rest, null⟩ := ih (apart.awaiting awaiting)
        exact ⟨rest, apart.pushesOnlyNull.trans null⟩
      · rename_i closed err closes
        rw [closes] at apart
        have still := apart.awaiting awaiting
        have kept : ({ closed with readyListeners := later ++ closed.readyListeners } :
            KafkaConsumerStream ε).resumptions = closed.resumptions + StreamListener.reads later := by
          simp only [resumptions, StreamListener.reads_append]
          omega
        refine ⟨⟨?_, ?_, still.finished⟩, apart.pushesOnlyNull⟩
        · rw [kept]
          exact still.single
        · rw [kept]
          exact still.drained

/-- What a step pushes, but for a _read that Node asks for. -/
def Pushes (s t : KafkaConsumerStream ε) : StreamAction ε → Prop
  | .read _ => True
  | .consumed _ result => t.pushed = s.pushed ++ s.firstItem result
  | _ => s.PushesOnlyNull t

theorem askStep_awaiting (awaiting : s.Awaiting) (idle : s.reading = false) (unended : s.ended = false) (size : Nat) :
    (read { s with reading := true } size).Awaiting := by
  have alone : s.resumptions = 0 := by
    by_contra pending
    have waits := (awaiting.drained (by omega)).2
    simp [idle, unended] at waits
  by_cases held : s.messages = []
  · have asked : AwaitingWith { s with reading := true } 1 :=
      ⟨Nat.le_of_eq (congrArg (· + 1) alone), fun _ => ⟨held, Or.inl rfl⟩, awaiting.finished⟩
    exact (read_awaiting asked size).1
  · obtain ⟨message, rest, messages⟩ := List.exists_cons_of_ne_nil held
    have shifted : read { s with reading := true } size =
        push { s with messages := rest, reading := true } message := by
      simp [read, pushShift, messages]
    rw [shifted]
    refine awaiting_of_alone alone fun unsubscribed => ?_
    have ended : s.ended = true := awaiting.finished unsubscribed
    simp [push, ended]

/-- A callback that leaves its list leaves room for the read it goes on with. -/
theorem Awaiting.called (awaiting : s.Awaiting) (taken : t.resumptions + 1 = s.resumptions)
    (same : t.messages = s.messages) (reading : t.reading = s.reading) (ended : t.ended = s.ended)
    (unsubscribed : t.unsubscribed = s.unsubscribed) : t.AwaitingWith 1 := by
  have pending := awaiting.drained (by omega)
  refine ⟨taken ▸ awaiting.single, fun _ => ?_, ?_⟩
  · rwa [same, reading, ended]
  · rw [unsubscribed, ended]
    exact awaiting.finished

theorem consumedStep_awaiting (awaiting : s.Awaiting) {index size : Nat} (found : s.consuming[index]? = some size)
    (result : Except ε (List JsValue)) :
    (onread s.options.item { s with consuming := s.consuming.eraseIdx index } size result).Awaiting ∧
      (onread s.options.item { s with consuming := s.consuming.eraseIdx index } size result).pushed =
        s.pushed ++ s.firstItem result := by
  have shorter := Lists.length_eraseIdx_of_some found
  have called : AwaitingWith { s with consuming := s.consuming.eraseIdx index } 1 := by
    refine awaiting.called ?_ rfl rfl rfl rfl
    simp only [resumptions]
    omega
  exact onread_awaiting called size result

theorem step_awaiting {action : StreamAction ε} (awaiting : s.Awaiting) (run : s.step action = some t) :
    t.Awaiting ∧ s.Pushes t action := by
  cases action with
  | read size =>
    simp only [step, Option.ite_none_left_eq_some, Bool.or_eq_true, not_or, Bool.not_eq_true,
      Option.some.injEq] at run
    obtain ⟨⟨idle, unended⟩, rfl⟩ := run
    exact ⟨askStep_awaiting awaiting idle unended size, trivial⟩
  | consumed index result =>
    obtain ⟨size, found, rfl⟩ := Option.map_eq_some_iff.mp run
    have consumed := consumedStep_awaiting awaiting found result
    by_cases objectMode : s.options.objectMode
    · simpa only [Pushes, objectMode, if_true, onreadMessage, item_of_objectMode objectMode] using consumed
    · simpa only [Pushes, objectMode, Bool.false_eq_true, if_false, onreadBuffer, item_of_buffer objectMode]
        using consumed
  | timeout index =>
    obtain ⟨size, found, rfl⟩ := Option.map_eq_some_iff.mp run
    have shorter := Lists.length_eraseIdx_of_some found
    have called : AwaitingWith { s with timers := s.timers.eraseIdx index } 1 := by
      refine awaiting.called ?_ rfl rfl rfl rfl
      simp only [resumptions]
      omega
    obtain ⟨kept, same⟩ := read_awaiting called size
    exact ⟨kept, .of_same same⟩
  | immediate index =>
    obtain ⟨size, found, rfl⟩ := Option.map_eq_some_iff.mp run
    have shorter := Lists.length_eraseIdx_of_some found
    have called : AwaitingWith { s with immediates := s.immediates.eraseIdx index } 1 := by
      refine awaiting.called ?_ rfl rfl rfl rfl
      simp only [resumptions]
      omega
    obtain ⟨kept, same⟩ := read_awaiting called size
    exact ⟨kept, .of_same same⟩
  | ready =>
    cases Option.some.inj run
    have called : AwaitingWith { s with readyListeners := [] } (StreamListener.reads s.readyListeners) := by
      have all : ({ s with readyListeners := [] } : KafkaConsumerStream ε).resumptions +
          StreamListener.reads s.readyListeners = s.resumptions := by
        simp only [resumptions, StreamListener.reads_nil]
        omega
      refine ⟨all ▸ awaiting.single, fun pending => ?_, awaiting.finished⟩
      rw [all] at pending
      exact awaiting.drained pending
    exact emitReady_awaiting called
  | _ =>
    have apart := step_apart id run
    exact ⟨apart.awaiting awaiting, apart.pushesOnlyNull⟩

/-- No result of consume comes back with an item to push. -/
def NothingArrives (s : KafkaConsumerStream ε) : StreamAction ε → Prop
  | .consumed _ result => ∀ item ∈ s.firstItem result, item.isNull = true
  | _ => True

/-- The step that unsubscribes the stream pushes null only. -/
theorem unsubscribes_pushesOnlyNull {action : StreamAction ε} (pushes : s.Pushes t action)
    (run : s.step action = some t) (before : s.unsubscribed = false) (unsubscribed : t.unsubscribed = true) :
    s.PushesOnlyNull t := by
  cases action with
  | read size =>
    simp only [step, Option.ite_none_left_eq_some, Option.some.injEq] at run
    obtain ⟨_, rfl⟩ := run
    simp [before] at unsubscribed
  | consumed index result =>
    obtain ⟨size, _, rfl⟩ := Option.map_eq_some_iff.mp run
    by_cases objectMode : s.options.objectMode
    · simp [objectMode, onreadMessage, before] at unsubscribed
    · simp [objectMode, onreadBuffer, before] at unsubscribed
  | _ => exact pushes

/-- A stream that has ended is not asked for a read, so that only a result of
consume can make it push an item. -/
theorem late_pushes {action : StreamAction ε} (ended : s.ended = true) (pushes : s.Pushes t action)
    (run : s.step action = some t) :
    ∃ items, t.pushed = s.pushed ++ items ∧ ((∀ item ∈ items, item.isNull = true) ↔ s.NothingArrives action) := by
  cases action with
  | read size => simp [step, ended] at run
  | consumed index result => exact ⟨s.firstItem result, pushes, Iff.rfl⟩
  | _ =>
    obtain ⟨items, grown, null⟩ := pushes
    exact ⟨items, grown, iff_of_true null trivial⟩

/-- An unsubscribed stream that has pushed since `s`. -/
structure Late (s t : KafkaConsumerStream ε) : Prop where
  awaiting : t.Awaiting
  unsubscribed : t.unsubscribed = true
  grown : ∃ items, t.pushed = s.pushed ++ items

theorem Late.step {action : StreamAction ε} (late : s.Late t) (run : t.step action = some u) :
    s.Late u ∧ (s.PushesOnlyNull u ↔ s.PushesOnlyNull t ∧ t.NothingArrives action) := by
  obtain ⟨awaiting, unsubscribed, earlier, grown⟩ := late
  obtain ⟨kept, pushes⟩ := step_awaiting awaiting run
  obtain ⟨items, further, null⟩ := late_pushes (awaiting.finished unsubscribed) pushes run
  have still : u.unsubscribed = true := by
    by_contra subscribed
    have before := step_unsubscribed run (by simpa using subscribed)
    simp [before] at unsubscribed
  have whole : u.pushed = s.pushed ++ (earlier ++ items) := by rw [further, grown, List.append_assoc]
  refine ⟨⟨kept, still, _, whole⟩, ?_⟩
  rw [pushesOnlyNull_iff whole, pushesOnlyNull_iff grown, ← null, List.forall_mem_append]

theorem create_awaiting (given : GivenStreamOptions) (consumer : StreamConsumer ε) :
    (create given consumer).Awaiting :=
  awaiting_of_alone (by simp [create, connect, resumptions]) (by simp [create, connect])

end KafkaConsumerStream

/-- From its unsubscribing on a stream pushes null only, in all runs in which
no result of consume comes back with an item after that, and in no other. -/
theorem null_after_unsubscribed_iff {ε : Type} {given : GivenStreamOptions} {consumer : StreamConsumer ε}
    {trace later : List (StreamAction ε)} {action : StreamAction ε} {s t u : KafkaConsumerStream ε}
    (reach : Reach KafkaConsumerStream.step (.create given consumer) trace s) (before : s.unsubscribed = false)
    (run : s.step action = some t) (unsubscribed : t.unsubscribed = true)
    (further : Reach KafkaConsumerStream.step t later u) :
    s.PushesOnlyNull u ↔
      ReachWhile KafkaConsumerStream.NothingArrives KafkaConsumerStream.step t later u := by
  have awaiting := reach.invariant KafkaConsumerStream.Awaiting
    (KafkaConsumerStream.create_awaiting given consumer)
    (fun kept step => (KafkaConsumerStream.step_awaiting kept step).1)
  obtain ⟨kept, pushes⟩ := KafkaConsumerStream.step_awaiting awaiting run
  have null := KafkaConsumerStream.unsubscribes_pushesOnlyNull pushes run before unsubscribed
  have grown : ∃ items, t.pushed = s.pushed ++ items := null.imp fun _ => And.left
  exact (further.good_iff_while s.Late s.PushesOnlyNull ⟨kept, unsubscribed, grown⟩ null
    KafkaConsumerStream.Late.step).2

/-- A stream with a fetch under way. -/
def fetchingRead : List (StreamAction String) := [.consumer { isConnected := true }, .read 16]

theorem null_after_unsubscribed_empty :
    ∃ s t u, Reach KafkaConsumerStream.step (.create {} {}) fetchingRead s ∧ s.step .unsubscribed = some t ∧
      Reach KafkaConsumerStream.step t [.consumed 0 (.ok []), .timeout 0] u ∧ s.PushesOnlyNull u := by
  obtain ⟨s, t, u, reach, before, run, unsubscribed, quiet⟩ :
      ∃ s t u, Reach KafkaConsumerStream.step (.create {} {}) fetchingRead s ∧ s.unsubscribed = false ∧
        s.step .unsubscribed = some t ∧ t.unsubscribed = true ∧
        ReachWhile KafkaConsumerStream.NothingArrives KafkaConsumerStream.step t
          [.consumed 0 (.ok []), .timeout 0] u :=
    ⟨_, _, _, reach_iff_replay.mpr rfl, rfl, rfl, rfl,
      .prepend (by intro item member; cases member) rfl (.prepend trivial rfl .start)⟩
  have null := null_after_unsubscribed_iff reach before run unsubscribed quiet.reach
  exact ⟨s, t, u, reach, run, quiet.reach, null.mpr quiet⟩

/-- A message arrives after the null of 'unsubscribed'. -/
theorem message_after_unsubscribed :
    ∃ s t u, Reach KafkaConsumerStream.step (.create {} {}) fetchingRead s ∧ s.unsubscribed = false ∧
      s.step .unsubscribed = some t ∧
      Reach KafkaConsumerStream.step t [.consumed 0 (.ok [sampleValue 1])] u ∧
      u.pushed = s.pushed ++ [.null, sampleValue 1] ∧ ¬ s.PushesOnlyNull u := by
  refine ⟨_, _, _, reach_iff_replay.mpr rfl, rfl, rfl, reach_iff_replay.mpr rfl, rfl, ?_⟩
  intro null
  have each := (KafkaConsumerStream.pushesOnlyNull_iff (show _ = _ ++ [JsValue.null, sampleValue 1] from rfl)).mp null
  exact absurd (each (sampleValue 1) (by simp)) (by decide)

end NodeRdkafka
