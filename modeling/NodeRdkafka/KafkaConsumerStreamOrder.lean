import NodeRdkafka.KafkaConsumerStream
import NodeRdkafka.Lib.Lists
import NodeRdkafka.Lib.PullBuffer

namespace NodeRdkafka
open Transition

namespace StreamOptions
variable {ε : Type}

/-- The item that a message becomes. -/
def item (options : StreamOptions) (message : JsValue) : JsValue :=
  if options.objectMode then message else message.get "value"

/-- The items that one result of consume is to become. -/
def items (options : StreamOptions) : Except ε (List JsValue) → List JsValue
  | .error _ => []
  | .ok messages =>
    if options.streamAsBatch then (if messages = [] then [] else [.array messages])
    else messages.map options.item

end StreamOptions

/-- How many messages a result of consume returned. -/
def returned {ε : Type} : Except ε (List JsValue) → Nat
  | .error _ => 0
  | .ok messages => messages.length

theorem StreamOptions.items_length {ε : Type} (options : StreamOptions)
    (result : Except ε (List JsValue)) : (options.items result).length ≤ returned result := by
  cases result with
  | error err => exact Nat.le_refl _
  | ok messages =>
    by_cases batches : options.streamAsBatch
    · by_cases free : messages = []
      · simp [items, batches, free]
      · have some_message : 0 < messages.length := List.length_pos_iff.mpr free
        simp only [items, batches, if_true, free, if_false, returned, List.length_singleton]
        omega
    · simp [items, batches, returned]

namespace StreamListener

/-- How many of the listeners will call _read. -/
def reads (listeners : List StreamListener) : Nat := listeners.countP (· ≠ .close)

@[simp] theorem reads_nil : reads [] = 0 := rfl

@[simp] theorem reads_append (left right : List StreamListener) :
    reads (left ++ right) = reads left + reads right := List.countP_append

@[simp] theorem reads_read (size : Nat) (later : List StreamListener) :
    reads (.read size :: later) = reads later + 1 := by simp [reads]

@[simp] theorem reads_close (later : List StreamListener) :
    reads (.close :: later) = reads later := by simp [reads]

end StreamListener

namespace KafkaConsumerStream
variable {ε : Type}

/-- Everything the stream has received, as the items it is to push. -/
def received (s : KafkaConsumerStream ε) : List JsValue := s.results.flatMap s.options.items

/-- The number of messages that the last fetch returned. -/
def lastFetch (s : KafkaConsumerStream ε) : Nat := (s.results.getLast?.map returned).getD 0

/-- The callbacks under way that will go on with a read. -/
def resumptions (s : KafkaConsumerStream ε) : Nat :=
  StreamListener.reads s.readyListeners + s.consuming.length + s.timers.length + s.immediates.length

/-- At most one callback, `called` of them already taken from the lists, goes
on with a read, and none does once the read has pushed. Each fetch found the
stream without messages and without another fetch. -/
structure PacedWith (s : KafkaConsumerStream ε) (called : Nat) : Prop where
  single : s.resumptions + called ≤ if s.reading then 1 else 0
  fetched : ∀ fetch ∈ s.fetches, fetch.held = 0 ∧ fetch.inFlight = 0

def Paced (s : KafkaConsumerStream ε) : Prop := s.PacedWith 0

def demand (s : KafkaConsumerStream ε) : PullBuffer.Demand :=
  if s.reading then (if s.consuming = [] then .waiting else .fetching) else .idle

/-- The stream as a buffer between its consumer and its reader. -/
def pullBuffer (s : KafkaConsumerStream ε) : PullBuffer.State JsValue where
  batches := s.results.map s.options.items
  handed := s.pushed
  buffer := s.messages
  demand := s.demand

/-- Steps of the stream that leave it paced and are runs of the buffer. -/
def Advances (before : PullBuffer.State JsValue) (s : KafkaConsumerStream ε) : Prop :=
  s.Paced ∧ ∃ labels, Reach PullBuffer.step before labels s.pullBuffer

/-- The caller of _read is the one callback that goes on with the read. -/
theorem PacedWith.caller {s : KafkaConsumerStream ε} {later : Nat} (paced : s.PacedWith (later + 1)) :
    s.reading = true ∧ later = 0 ∧ s.consuming = [] ∧ s.resumptions = 0 := by
  have single := paced.single
  split at single
  · rename_i reading
    have alone : s.resumptions = 0 := by omega
    have free : s.consuming.length = 0 := by simp only [resumptions] at alone; omega
    exact ⟨reading, by omega, List.length_eq_zero_iff.mp free, alone⟩
  · omega

/-- A callback that does not go on with its read. -/
theorem PacedWith.dropped {s : KafkaConsumerStream ε} {later : Nat} (paced : s.PacedWith (later + 1)) :
    s.Paced := ⟨Nat.le_trans (by omega) paced.single, paced.fetched⟩

section Equations
variable {s : KafkaConsumerStream ε} (size : Nat)

theorem retry_immediately (immediately : s.options.waitInterval = 0) :
    s.retry size = { s with immediates := s.immediates ++ [size] } := by
  simp [retry, immediately]

theorem retry_later (later : ¬ s.options.waitInterval = 0) :
    s.retry size = { s with timers := s.timers ++ [size] } := by
  simp [retry, later]

theorem read_waits (held : s.messages = []) (unconnected : ¬ s.consumer.isConnected = true) :
    s.read size = { s with readyListeners := s.readyListeners ++ [.read size] } := by
  simp [read, held, unconnected]

theorem read_destroyed (held : s.messages = []) (connected : s.consumer.isConnected = true)
    (destroyed : s.destroyed = true) : s.read size = s := by
  simp [read, held, connected, destroyed]

theorem onread_thrown (silent : ¬ s.errorListener = true) (item : JsValue → JsValue) (err : ε) :
    s.onread item size (.error err) = { s.record (.error err) with errors := s.errors ++ [err] } := by
  simp [onread, emitError, record, silent]

theorem onread_retried (listens : s.errorListener = true) (item : JsValue → JsValue) (err : ε) :
    s.onread item size (.error err) = { s.record (.error err) with errors := s.errors ++ [err] }.retry size := by
  simp [onread, emitError, record, listens]

theorem onread_empty (item : JsValue → JsValue) :
    s.onread item size (.ok []) = (s.record (.ok [])).retry size := by
  simp [onread]

theorem onread_whole (batches : s.options.streamAsBatch = true) (item : JsValue → JsValue) (message : JsValue)
    (rest : List JsValue) :
    s.onread item size (.ok (message :: rest)) =
      (s.record (.ok (message :: rest))).push (.array (message :: rest)) := by
  simp [onread, record, batches]

/-- A batch that arrives with nothing held: its first item is pushed, the rest kept. -/
theorem onread_itemwise (items : ¬ s.options.streamAsBatch = true) (held : s.messages = [])
    (item : JsValue → JsValue) (message : JsValue) (rest : List JsValue) :
    s.onread item size (.ok (message :: rest)) =
      { s.record (.ok (message :: rest)) with messages := rest.map item }.push (item message) := by
  simp [onread, record, items, held, pushShift]

end Equations

theorem push_advances {s : KafkaConsumerStream ε} (paced : s.PacedWith 1) (item : JsValue) :
    (s.push item).Advances { s.pullBuffer with buffer := item :: s.messages } := by
  obtain ⟨reading, _, free, alone⟩ := paced.caller
  refine ⟨⟨by simpa [push, resumptions] using alone, paced.fetched⟩, Reach.single .hand ?_⟩
  simp [PullBuffer.step, pullBuffer, demand, reading, free, push]

theorem pushShift_advances {s : KafkaConsumerStream ε} (paced : s.PacedWith 1)
    (held : s.messages ≠ []) : s.pushShift.Advances s.pullBuffer := by
  obtain ⟨message, rest, messages⟩ := List.exists_cons_of_ne_nil held
  have shifted : PacedWith { s with messages := rest } 1 := ⟨paced.single, paced.fetched⟩
  have advances := push_advances shifted message
  have whole : { s.pullBuffer with buffer := message :: rest } = s.pullBuffer := by
    simp only [pullBuffer, messages]
  simp only [pushShift, messages]
  exact whole ▸ advances

theorem retry_advances {s : KafkaConsumerStream ε} (paced : s.PacedWith 1) (size : Nat) :
    (s.retry size).Advances s.pullBuffer := by
  obtain ⟨reading, _, free, alone⟩ := paced.caller
  simp only [resumptions] at alone
  by_cases immediately : s.options.waitInterval = 0
  · rw [retry_immediately size immediately]
    refine ⟨⟨?_, paced.fetched⟩, Reach.stutter rfl⟩
    simp only [resumptions, reading, if_true, List.length_append, List.length_singleton]
    omega
  · rw [retry_later size immediately]
    refine ⟨⟨?_, paced.fetched⟩, Reach.stutter rfl⟩
    simp only [resumptions, reading, if_true, List.length_append, List.length_singleton]
    omega

theorem consume_advances {s : KafkaConsumerStream ε} (paced : s.PacedWith 1)
    (held : s.messages = []) (fetchSize size : Nat) :
    (s.consume fetchSize size).Advances s.pullBuffer := by
  obtain ⟨reading, _, free, alone⟩ := paced.caller
  refine ⟨⟨?_, ?_⟩, Reach.single .fetch ?_⟩
  · simp only [resumptions, free, List.length_nil] at alone
    simp only [consume, resumptions, free, reading, if_true, List.nil_append, List.length_singleton]
    omega
  · intro fetch member
    simp only [consume, List.mem_append, List.mem_singleton] at member
    rcases member with earlier | rfl
    · exact paced.fetched fetch earlier
    · simp [held, free]
  · simp [PullBuffer.step, pullBuffer, demand, consume, reading, free, held]

theorem read_advances {s : KafkaConsumerStream ε} (paced : s.PacedWith 1) (size : Nat) :
    (s.read size).Advances s.pullBuffer := by
  obtain ⟨reading, _, free, alone⟩ := paced.caller
  by_cases held : s.messages = []
  · by_cases connected : s.consumer.isConnected
    · by_cases destroyed : s.destroyed
      · rw [read_destroyed size held connected destroyed]
        exact ⟨paced.dropped, Reach.stutter rfl⟩
      · simpa [read, held, connected, destroyed] using consume_advances paced held _ size
    · rw [read_waits size held connected]
      refine ⟨⟨?_, paced.fetched⟩, Reach.stutter rfl⟩
      simp only [resumptions] at alone
      simp only [resumptions, reading, if_true, StreamListener.reads_append, StreamListener.reads_read,
        StreamListener.reads_nil]
      omega
  · have shifted : s.read size = s.pushShift := by simp [read, List.length_pos_iff.mpr held]
    exact shifted ▸ pushShift_advances paced held

theorem Advances.prepend {before after : PullBuffer.State JsValue} {t : KafkaConsumerStream ε}
    {label : PullBuffer.Action JsValue} (advances : t.Advances after)
    (first : PullBuffer.step before label = some after) : t.Advances before := by
  obtain ⟨paced, labels, reach⟩ := advances
  exact ⟨paced, label :: labels, reach.prepend first⟩

/-- The read goes on with a result: it reaches the buffer first, and is then
handed out or asked for again. -/
theorem onread_advances {s : KafkaConsumerStream ε} (paced : s.PacedWith 1) (held : s.messages = [])
    (size : Nat) (result : Except ε (List JsValue)) :
    (s.onread s.options.item size result).Advances { s.pullBuffer with demand := .fetching } := by
  obtain ⟨reading, _, free, alone⟩ := paced.caller
  have recorded : (s.record result).PacedWith 1 := ⟨paced.single, paced.fetched⟩
  have arrives {after : PullBuffer.State JsValue} (buffered : after =
      { (s.record result).pullBuffer with buffer := s.options.items result }) :
      PullBuffer.step { s.pullBuffer with demand := .fetching } (.receive (s.options.items result)) =
        some after := by
    rw [buffered]
    simp [PullBuffer.step, pullBuffer, held, record, demand, reading, free]
  cases result with
  | error err =>
    have told : PacedWith { s.record (.error err) with errors := s.errors ++ [err] } 1 :=
      ⟨paced.single, paced.fetched⟩
    have buffered : pullBuffer { s.record (.error err) with errors := s.errors ++ [err] } =
        { (s.record (.error err)).pullBuffer with buffer := s.options.items (.error err) } := by
      simp [pullBuffer, record, demand, held, StreamOptions.items]
    by_cases listens : s.errorListener
    · rw [onread_retried size listens]
      exact (retry_advances told size).prepend (arrives buffered)
    · rw [onread_thrown size listens]
      have stays : Advances _ { s.record (.error err) with errors := s.errors ++ [err] } :=
        ⟨told.dropped, Reach.stutter rfl⟩
      exact stays.prepend (arrives buffered)
  | ok messages =>
    cases messages with
    | nil =>
      rw [onread_empty]
      refine (retry_advances recorded size).prepend (arrives ?_)
      simp [pullBuffer, record, held, StreamOptions.items]
    | cons message rest =>
      by_cases batches : s.options.streamAsBatch
      · rw [onread_whole size batches]
        refine (push_advances recorded (.array (message :: rest))).prepend (arrives ?_)
        simp [record, held, StreamOptions.items, batches]
      · rw [onread_itemwise size batches held]
        have buffered : PacedWith { s.record (.ok (message :: rest)) with
            messages := rest.map s.options.item } 1 := ⟨paced.single, paced.fetched⟩
        refine (push_advances buffered (s.options.item message)).prepend (arrives ?_)
        simp [pullBuffer, record, demand, StreamOptions.items, batches]

theorem Advances.trans {before : PullBuffer.State JsValue} {s t : KafkaConsumerStream ε}
    (first : s.Advances before) (second : t.Advances s.pullBuffer) : t.Advances before := by
  obtain ⟨_, earlier, reach⟩ := first
  obtain ⟨paced, later, further⟩ := second
  exact ⟨paced, earlier ++ later, reach.trans further⟩

/-- A step aside: nothing that reading goes by has changed. -/
structure Aside (s t : KafkaConsumerStream ε) : Prop where
  pullBuffer : t.pullBuffer = s.pullBuffer
  reading : t.reading = s.reading
  resumptions : t.resumptions = s.resumptions
  fetches : t.fetches = s.fetches
  unsubscribed : t.unsubscribed = s.unsubscribed

theorem Aside.paced {s t : KafkaConsumerStream ε} {called : Nat} (aside : s.Aside t)
    (paced : s.PacedWith called) : t.PacedWith called := by
  obtain ⟨single, fetched⟩ := paced
  refine ⟨?_, aside.fetches ▸ fetched⟩
  rw [aside.resumptions, aside.reading]
  exact single

theorem Aside.trans {s t u : KafkaConsumerStream ε} (first : s.Aside t) (second : t.Aside u) : s.Aside u where
  pullBuffer := second.pullBuffer.trans first.pullBuffer
  reading := second.reading.trans first.reading
  resumptions := second.resumptions.trans first.resumptions
  fetches := second.fetches.trans first.fetches
  unsubscribed := second.unsubscribed.trans first.unsubscribed

theorem Aside.onUnsubscribed {s t : KafkaConsumerStream ε} (aside : s.Aside t) :
    s.onUnsubscribed.Aside t.onUnsubscribed where
  pullBuffer := by
    have batches := congrArg PullBuffer.State.batches aside.pullBuffer
    have handed := congrArg PullBuffer.State.handed aside.pullBuffer
    have buffer := congrArg PullBuffer.State.buffer aside.pullBuffer
    simp only [KafkaConsumerStream.pullBuffer] at batches handed buffer
    simp [KafkaConsumerStream.pullBuffer, KafkaConsumerStream.onUnsubscribed, push, demand, batches, handed, buffer]
  reading := rfl
  resumptions := aside.resumptions
  fetches := aside.fetches
  unsubscribed := rfl

theorem Aside.advances {s t : KafkaConsumerStream ε} (aside : s.Aside t) (paced : s.Paced) :
    t.Advances s.pullBuffer := ⟨aside.paced paced, Reach.stutter aside.pullBuffer⟩

/-- A step aside, or one that unsubscribes the stream on its way. -/
def Apart (s t : KafkaConsumerStream ε) : Prop :=
  s.Aside t ∧ t.ended = s.ended ∨ s.onUnsubscribed.Aside t ∧ t.ended = true

theorem Apart.after {s t u : KafkaConsumerStream ε} (apart : t.Apart u) (aside : s.Aside t)
    (ended : t.ended = s.ended) : s.Apart u := by
  rcases apart with ⟨next, same⟩ | ⟨next, closed⟩
  · exact Or.inl ⟨aside.trans next, same.trans ended⟩
  · exact Or.inr ⟨aside.onUnsubscribed.trans next, closed⟩

theorem Apart.aside {s t : KafkaConsumerStream ε} (apart : s.Apart t) (before : t.unsubscribed = false) :
    s.Aside t := by
  rcases apart with ⟨aside, _⟩ | ⟨unsubscribed, _⟩
  · exact aside
  · have after : t.unsubscribed = true := unsubscribed.unsubscribed
    simp [before] at after

theorem close_apart (s : KafkaConsumerStream ε) : s.Apart s.close.1 := by
  unfold close
  split
  · exact Or.inl ⟨⟨rfl, rfl, rfl, rfl, rfl⟩, rfl⟩
  · split
    · exact Or.inl ⟨⟨rfl, rfl, by simp [resumptions], rfl, rfl⟩, rfl⟩
    · split
      · exact Or.inl ⟨⟨rfl, rfl, rfl, rfl, rfl⟩, rfl⟩
      · exact Or.inr ⟨⟨rfl, rfl, rfl, rfl, rfl⟩, by simp [onUnsubscribed, push, JsValue.isNull]⟩

theorem destroy_apart (s : KafkaConsumerStream ε) : s.Apart s.destroy.1 := by
  unfold destroy
  split
  · exact Or.inl ⟨⟨rfl, rfl, rfl, rfl, rfl⟩, rfl⟩
  · exact (close_apart _).after ⟨rfl, rfl, rfl, rfl, rfl⟩ rfl

theorem emitError_apart (s : KafkaConsumerStream ε) (err : ε) : s.Apart (s.emitError err (·.destroy.1)) := by
  unfold emitError
  split
  · exact (destroy_apart _).after ⟨rfl, rfl, rfl, rfl, rfl⟩ rfl
  · exact Or.inl ⟨⟨rfl, rfl, rfl, rfl, rfl⟩, rfl⟩

theorem connectCallback_apart (s : KafkaConsumerStream ε) (outcome : StreamConnect ε) :
    s.Apart (s.connectCallback outcome) := by
  cases outcome with
  | failed err => exact s.emitError_apart err
  | subscribeThrew err => exact s.emitError_apart err
  | subscribed => exact Or.inl ⟨⟨rfl, rfl, rfl, rfl, rfl⟩, rfl⟩

@[simp] theorem pushShift_unsubscribed (s : KafkaConsumerStream ε) :
    s.pushShift.unsubscribed = s.unsubscribed := by
  unfold pushShift
  split <;> rfl

@[simp] theorem retry_unsubscribed (s : KafkaConsumerStream ε) (size : Nat) :
    (s.retry size).unsubscribed = s.unsubscribed := by
  unfold retry
  split <;> rfl

@[simp] theorem read_unsubscribed (s : KafkaConsumerStream ε) (size : Nat) :
    (s.read size).unsubscribed = s.unsubscribed := by
  unfold read
  split
  · exact s.pushShift_unsubscribed
  · split
    · rfl
    · split <;> rfl

@[simp] theorem onread_unsubscribed (item : JsValue → JsValue) (s : KafkaConsumerStream ε) (size : Nat)
    (result : Except ε (List JsValue)) : (s.onread item size result).unsubscribed = s.unsubscribed := by
  cases result with
  | error err =>
    by_cases listens : s.errorListener <;> simp [onread, emitError, record, listens]
  | ok messages =>
    by_cases empty : messages.length < 1
    · simp [onread, empty, record]
    · by_cases batches : s.options.streamAsBatch <;> simp [onread, empty, record, batches, push]

theorem emitReady_unsubscribed {listeners : List StreamListener} {s : KafkaConsumerStream ε}
    (before : (s.emitReady listeners).unsubscribed = false) : s.unsubscribed = false := by
  induction listeners generalizing s with
  | nil => exact before
  | cons listener later ih =>
    cases listener with
    | read size => simpa using ih before
    | close =>
      simp only [emitReady] at before
      have apart := s.close_apart
      split at before
      · rename_i t closed
        rw [closed] at apart
        exact (apart.aside (ih before)).unsubscribed.symm.trans (ih before)
      · rename_i t err closed
        rw [closed] at apart
        have aside : s.Aside t := apart.aside before
        exact aside.unsubscribed.symm.trans before

/-- One 'ready' event: by pacing, only one of the listeners reads. -/
theorem emitReady_advances {listeners : List StreamListener} {s : KafkaConsumerStream ε}
    (paced : s.PacedWith (StreamListener.reads listeners))
    (before : (s.emitReady listeners).unsubscribed = false) :
    (s.emitReady listeners).Advances s.pullBuffer := by
  induction listeners generalizing s with
  | nil => exact ⟨paced, Reach.stutter rfl⟩
  | cons listener later ih =>
    cases listener with
    | read size =>
      rw [StreamListener.reads_read] at paced
      obtain ⟨_, none_later, _, _⟩ := paced.caller
      have first := read_advances (by simpa [none_later] using paced) size
      exact first.trans (ih (none_later ▸ first.1) before)
    | close =>
      rw [StreamListener.reads_close] at paced
      simp only [emitReady] at before ⊢
      have apart := s.close_apart
      split at before
      · rename_i t closed
        rw [closed] at apart
        have aside : s.Aside t := apart.aside (emitReady_unsubscribed before)
        exact aside.pullBuffer ▸ ih (aside.paced paced) before
      · rename_i t err closed
        rw [closed] at apart
        have aside : s.Aside t := apart.aside before
        have still := aside.paced paced
        refine ⟨⟨?_, still.fetched⟩, Reach.stutter aside.pullBuffer⟩
        have single := still.single
        simp only [resumptions] at single
        simp only [resumptions, StreamListener.reads_append]
        omega

/-- A callback that leaves its list leaves room for the read it goes on with. -/
theorem Paced.called {s t : KafkaConsumerStream ε} (paced : s.Paced)
    (taken : t.resumptions + 1 = s.resumptions) (reading : t.reading = s.reading)
    (fetches : t.fetches = s.fetches) : t.PacedWith 1 := by
  refine ⟨?_, fetches ▸ paced.fetched⟩
  have single := paced.single
  rw [reading]
  omega

theorem askStep_advances {s : KafkaConsumerStream ε} (paced : s.Paced) (idle : s.reading = false)
    (size : Nat) : (read { s with reading := true } size).Advances s.pullBuffer := by
  have single := paced.single
  simp only [idle, Bool.false_eq_true, if_false, resumptions] at single
  have free : s.consuming = [] := List.length_eq_zero_iff.mp (by omega)
  have asked : PacedWith { s with reading := true } 1 := by
    refine ⟨?_, paced.fetched⟩
    simp only [resumptions, if_true]
    omega
  have first : PullBuffer.step s.pullBuffer .ask = some (pullBuffer { s with reading := true }) := by
    simp [PullBuffer.step, pullBuffer, demand, idle, free]
  exact (read_advances asked size).prepend first

theorem consumedStep_advances {s : KafkaConsumerStream ε} (paced : s.Paced)
    (drained : s.demand = .fetching → s.messages = []) {index size : Nat}
    (found : s.consuming[index]? = some size) (result : Except ε (List JsValue)) :
    (onread s.options.item { s with consuming := s.consuming.eraseIdx index } size result).Advances
      s.pullBuffer := by
  have shorter := Lists.length_eraseIdx_of_some found
  have called : PacedWith { s with consuming := s.consuming.eraseIdx index } 1 := by
    refine paced.called ?_ rfl rfl
    simp only [resumptions]
    omega
  have reading : s.reading = true := called.caller.1
  have inFlight : s.consuming ≠ [] := by
    intro none_inFlight
    simp [none_inFlight] at shorter
  have fetching : s.demand = .fetching := by simp [demand, reading, inFlight]
  have advances := onread_advances called (drained fetching) size result
  have same : { pullBuffer { s with consuming := s.consuming.eraseIdx index } with demand := .fetching } =
      s.pullBuffer := by
    simp [pullBuffer, fetching]
  exact same ▸ advances

/-- A timer or an immediate goes on with the read it was set for. -/
theorem resumedStep_advances {s t : KafkaConsumerStream ε} (paced : s.Paced)
    (taken : t.resumptions + 1 = s.resumptions) (same : t.pullBuffer = s.pullBuffer)
    (reading : t.reading = s.reading) (fetches : t.fetches = s.fetches) (size : Nat) :
    (t.read size).Advances s.pullBuffer :=
  same ▸ read_advances (paced.called taken reading fetches) size

theorem readyStep_advances {s : KafkaConsumerStream ε} (paced : s.Paced)
    (before : (emitReady { s with readyListeners := [] } s.readyListeners).unsubscribed = false) :
    (emitReady { s with readyListeners := [] } s.readyListeners).Advances s.pullBuffer := by
  refine emitReady_advances (s := { s with readyListeners := [] }) ⟨?_, paced.fetched⟩ before
  have single := paced.single
  simp only [resumptions] at single
  simp only [resumptions, StreamListener.reads_nil]
  omega

theorem item_of_objectMode {options : StreamOptions} (objectMode : options.objectMode = true) :
    options.item = id := by
  funext message
  simp [StreamOptions.item, objectMode]

theorem item_of_buffer {options : StreamOptions} (objectMode : ¬ options.objectMode = true) :
    options.item = (·.get "value") := by
  funext message
  simp [StreamOptions.item, objectMode]

/-- The actions that may go on with a read. -/
def MayRead : StreamAction ε → Prop
  | .read _ | .consumed _ _ | .timeout _ | .immediate _ | .ready => True
  | _ => False

/-- Every other step is taken apart from reading. -/
theorem step_apart {s t : KafkaConsumerStream ε} {action : StreamAction ε} (other : ¬ MayRead action)
    (run : s.step action = some t) : s.Apart t := by
  cases action with
  | read | consumed | timeout | immediate | ready => exact absurd trivial other
  | consumer | connect | onError =>
    cases Option.some.inj run
    exact Or.inl ⟨⟨rfl, rfl, rfl, rfl, rfl⟩, rfl⟩
  | connectCallback outcome =>
    simp only [step, Option.ite_none_left_eq_some, Option.some.injEq] at run
    obtain ⟨_, rfl⟩ := run
    exact (connectCallback_apart _ outcome).after ⟨rfl, rfl, rfl, rfl, rfl⟩ rfl
  | unsubscribed =>
    cases Option.some.inj run
    exact Or.inr ⟨⟨rfl, rfl, rfl, rfl, rfl⟩, by simp [onUnsubscribed, push, JsValue.isNull]⟩
  | ended =>
    simp only [step, Option.ite_none_right_eq_some, Option.some.injEq] at run
    obtain ⟨_, rfl⟩ := run
    split
    · exact (destroy_apart _).after ⟨rfl, rfl, rfl, rfl, rfl⟩ rfl
    · exact Or.inl ⟨⟨rfl, rfl, rfl, rfl, rfl⟩, rfl⟩
  | destroy =>
    cases Option.some.inj run
    exact s.destroy_apart
  | close cb =>
    cases Option.some.inj run
    exact (close_apart _).after ⟨rfl, rfl, rfl, rfl, rfl⟩ rfl
  | disconnected =>
    simp only [step, Option.ite_none_left_eq_some, Option.some.injEq] at run
    obtain ⟨_, rfl⟩ := run
    exact Or.inl ⟨⟨rfl, rfl, rfl, rfl, rfl⟩, rfl⟩

/-- Every step before the stream is unsubscribed is a run of the buffer. -/
theorem step_advances {s t : KafkaConsumerStream ε} {action : StreamAction ε} (paced : s.Paced)
    (drained : s.demand = .fetching → s.messages = []) (run : s.step action = some t)
    (before : t.unsubscribed = false) : t.Advances s.pullBuffer := by
  cases action with
  | read size =>
    simp only [step, Option.ite_none_left_eq_some, Bool.or_eq_true, not_or, Bool.not_eq_true,
      Option.some.injEq] at run
    obtain ⟨⟨idle, _⟩, rfl⟩ := run
    exact askStep_advances paced idle size
  | consumed index result =>
    obtain ⟨size, found, rfl⟩ := Option.map_eq_some_iff.mp run
    have advances := consumedStep_advances paced drained found result
    by_cases objectMode : s.options.objectMode
    · simpa only [objectMode, if_true, onreadMessage, item_of_objectMode objectMode] using advances
    · simpa only [objectMode, Bool.false_eq_true, if_false, onreadBuffer, item_of_buffer objectMode] using advances
  | timeout index =>
    obtain ⟨size, found, rfl⟩ := Option.map_eq_some_iff.mp run
    have shorter := Lists.length_eraseIdx_of_some found
    have taken : resumptions { s with timers := s.timers.eraseIdx index } + 1 = s.resumptions := by
      simp only [resumptions]
      omega
    exact resumedStep_advances paced taken rfl rfl rfl size
  | immediate index =>
    obtain ⟨size, found, rfl⟩ := Option.map_eq_some_iff.mp run
    have shorter := Lists.length_eraseIdx_of_some found
    have taken : resumptions { s with immediates := s.immediates.eraseIdx index } + 1 = s.resumptions := by
      simp only [resumptions]
      omega
    exact resumedStep_advances paced taken rfl rfl rfl size
  | ready =>
    cases Option.some.inj run
    exact readyStep_advances paced before
  | _ => exact ((step_apart id run).aside before).advances paced

/-- No step takes back that the stream was unsubscribed. -/
theorem step_unsubscribed {s t : KafkaConsumerStream ε} {action : StreamAction ε}
    (run : s.step action = some t) (before : t.unsubscribed = false) : s.unsubscribed = false := by
  cases action with
  | read size =>
    simp only [step, Option.ite_none_left_eq_some, Option.some.injEq] at run
    obtain ⟨_, rfl⟩ := run
    simpa using before
  | consumed index result =>
    obtain ⟨size, _, rfl⟩ := Option.map_eq_some_iff.mp run
    by_cases objectMode : s.options.objectMode <;>
      simpa [objectMode, onreadMessage, onreadBuffer] using before
  | timeout index =>
    obtain ⟨size, _, rfl⟩ := Option.map_eq_some_iff.mp run
    simpa using before
  | immediate index =>
    obtain ⟨size, _, rfl⟩ := Option.map_eq_some_iff.mp run
    simpa using before
  | ready =>
    cases Option.some.inj run
    have earlier := emitReady_unsubscribed before
    exact earlier
  | _ => exact ((step_apart id run).aside before).unsubscribed.symm.trans before

/-- Until it is unsubscribed, a stream runs as a buffer between its consumer
and its reader. -/
theorem reach_advances {given : GivenStreamOptions} {consumer : StreamConsumer ε}
    {trace : List (StreamAction ε)} {s : KafkaConsumerStream ε}
    (reach : Reach step (create given consumer) trace s) (before : s.unsubscribed = false) :
    s.Advances PullBuffer.empty := by
  induction reach with
  | start => exact ⟨⟨by simp [create, connect, resumptions], by simp [create, connect]⟩, Reach.stutter rfl⟩
  | @next earlier later action trace _ run ih =>
    have advances := ih (step_unsubscribed run before)
    obtain ⟨labels, simulated⟩ := advances.2
    have drained := (PullBuffer.reach_sound simulated).drained
    exact advances.trans (step_advances advances.1 drained run before)

theorem pullBuffer_received (s : KafkaConsumerStream ε) : s.pullBuffer.batches.flatten = s.received := by
  simp only [pullBuffer, received, List.flatMap]

theorem pullBuffer_lastFetch (s : KafkaConsumerStream ε) :
    (s.pullBuffer.batches.getLastD []).length ≤ s.lastFetch := by
  have last : s.pullBuffer.batches.getLast? = s.results.getLast?.map s.options.items := by
    simp [pullBuffer]
  rw [List.getLastD_eq_getLast?, last]
  cases found : s.results.getLast? with
  | none => simp
  | some result =>
    simp only [Option.map_some, Option.getD_some, lastFetch, found]
    exact s.options.items_length result

end KafkaConsumerStream

/-- Until it is unsubscribed, a stream pushes what it receives, in order and
each item once, fetches only with nothing left and nothing under way, and
never holds more than its last fetch. -/
theorem consumerStream_order {ε : Type} {given : GivenStreamOptions} {consumer : StreamConsumer ε}
    {trace : List (StreamAction ε)} {s : KafkaConsumerStream ε}
    (reach : Reach KafkaConsumerStream.step (.create given consumer) trace s)
    (before : s.unsubscribed = false) :
    s.pushed ++ s.messages = s.received ∧
      (∀ fetch ∈ s.fetches, fetch.held = 0 ∧ fetch.inFlight = 0) ∧
      s.messages.length ≤ s.lastFetch := by
  obtain ⟨paced, labels, simulated⟩ := KafkaConsumerStream.reach_advances reach before
  have sound := PullBuffer.reach_sound simulated
  have ordered : s.pushed ++ s.messages = s.received := sound.inOrder.trans s.pullBuffer_received
  have held := sound.fresh.length_le
  exact ⟨ordered, paced.fetched, held.trans s.pullBuffer_lastFetch⟩

def sampleValue (byte : UInt8) : JsValue := .object [("value", .buffer [byte])]

/-- A read that waits for the consumer, fails once, and then finds two messages. -/
def retriedRead : List (StreamAction String) :=
  [.onError true, .read 16, .consumer { isConnected := true }, .ready, .consumed 0 (.error "timed out"),
   .timeout 0, .consumed 0 (.ok [sampleValue 1, sampleValue 2])]

theorem consumerStream_order_retried :
    ∃ s, Reach KafkaConsumerStream.step (.create { objectMode := some false } {}) retriedRead s ∧
      s.pushed ++ s.messages = s.received ∧ s.pushed = [.buffer [1]] ∧ s.messages = [.buffer [2]] := by
  obtain ⟨s, reach, before, pushed, messages⟩ :
      ∃ s, Reach KafkaConsumerStream.step (.create { objectMode := some false } {}) retriedRead s ∧
        s.unsubscribed = false ∧ s.pushed = [.buffer [1]] ∧ s.messages = [.buffer [2]] :=
    ⟨_, reach_iff_replay.mpr rfl, rfl, rfl, rfl⟩
  have ordered := consumerStream_order reach before
  exact ⟨s, reach, ordered.1, pushed, messages⟩

end NodeRdkafka
