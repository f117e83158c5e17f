import NodeRdkafka.KafkaConsumer

namespace NodeRdkafka

/-- The members of a Producer that its operations check. Nothing sets
m_is_closing of a producer. -/
structure NativeProducer (σ : Type) where
  mClient : Option σ := none
  mIsClosing : Bool := false

def NativeProducer.isConnected {σ : Type} (p : NativeProducer σ) : Bool := !p.mIsClosing && p.mClient.isSome

/-- What an operation returns: a baton, or a JavaScript exception. -/
inductive NativeReturn
  | baton (baton : Baton Unit)
  | thrown (message : String)

namespace NativeReturn

def ofCode (code : ErrorCode) : NativeReturn := .baton (.ofCode code)

def ofErrstr (code : ErrorCode) (errstr : String) : NativeReturn := .baton (.ofErrstr code errstr)

/-- The baton of a RdKafka::Error, with its text and flags. -/
def ofError (answer : Option RdError) : NativeReturn := .baton (KafkaConsumer.rdkafkaErrorToBaton answer)

def isError : NativeReturn → Bool
  | baton b => b.err ≠ ErrorCode.errNoError
  | thrown _ => true

end NativeReturn

/-- An operation run in one step, by the client pointers that it dereferences,
none for NULL, and by what it returns. -/
structure HandleUse (σ : Type) where
  dereferenced : List (Option σ)
  returned : NativeReturn

namespace HandleUse
variable {σ : Type}

/-- The shape of most operations: one check, then a call on m_client. -/
def checked (allowed : Bool) (refusal : NativeReturn) (client : Option σ) (returned : NativeReturn) :
    HandleUse σ :=
  if allowed then { dereferenced := [client], returned }
  else { dereferenced := [], returned := refusal }

/-- An operation that goes on unless its first part returns an error. -/
def andThen (first later : HandleUse σ) : HandleUse σ :=
  if first.returned.isError then first
  else { dereferenced := first.dereferenced ++ later.dereferenced, returned := later.returned }

/-- A check of the operation before one that the function below it repeats. -/
def behind (allowed : Bool) (refusal : NativeReturn) (inner : HandleUse σ) : HandleUse σ :=
  if allowed then inner else { dereferenced := [], returned := refusal }

section Producer
variable (p : NativeProducer σ) (answer : ErrorCode) (error : Option RdError)

def produce : HandleUse σ := checked p.isConnected (.ofCode ErrorCode.errState) p.mClient (.ofCode answer)

def createTopic (errstr : String) : HandleUse σ :=
  checked p.isConnected (.ofCode ErrorCode.errState) p.mClient
    (if errstr.isEmpty then .ofCode ErrorCode.errNoError else .ofErrstr ErrorCode.errTopicException errstr)

/-- NodeProduce with a topic object, which makes the topic first. -/
def produceTopic (errstr : String) : HandleUse σ := (createTopic p errstr).andThen (produce p answer)

def poll : HandleUse σ :=
  checked p.isConnected (.thrown "Producer is disconnected") p.mClient (.ofCode ErrorCode.errNoError)

/-- ProducerFlush::Execute, around Producer::Flush. -/
def flush : HandleUse σ :=
  behind p.isConnected (.thrown "Producer is disconnected")
    (checked p.isConnected (.ofCode ErrorCode.errState) p.mClient (.ofCode answer))

/-- What the transactional methods share. -/
def transactional : HandleUse σ :=
  checked p.isConnected (.ofCode ErrorCode.errState) p.mClient (.ofError error)

def initTransactions : HandleUse σ := transactional p error

def beginTransaction : HandleUse σ := transactional p error

def commitTransaction : HandleUse σ := transactional p error

def abortTransaction : HandleUse σ := transactional p error

/-- The group metadata are asked of the client of the consumer, which is not checked. -/
def sendOffsetsToTransaction (c : KafkaConsumer σ) : HandleUse σ :=
  behind p.isConnected (.ofCode ErrorCode.errState)
    { dereferenced := [c.mClient, p.mClient], returned := .ofError error }

end Producer

section Consumer
variable (c : KafkaConsumer σ) (answer : ErrorCode) (error : Option RdError)

def assign : HandleUse σ :=
  checked c.isConnected (.ofErrstr ErrorCode.errState "KafkaConsumer is disconnected") c.mClient (.ofCode answer)

/-- NodeUnassign, around KafkaConsumer::Unassign. -/
def unassign : HandleUse σ :=
  behind (c.isClosing || c.isConnected) (.thrown "KafkaConsumer is disconnected")
    (checked (c.isClosing || c.isConnected) (.ofCode ErrorCode.errState) c.mClient (.ofCode answer))

def incrementalAssign : HandleUse σ :=
  checked c.isConnected (.ofErrstr ErrorCode.errState "KafkaConsumer is disconnected") c.mClient (.ofError error)

def incrementalUnassign : HandleUse σ :=
  checked (c.isClosing || c.isConnected) (.ofCode ErrorCode.errState) c.mClient (.ofError error)

def refreshAssignments : HandleUse σ :=
  checked c.isConnected (.ofCode ErrorCode.errState) c.mClient (.ofCode answer)

def subscribe : HandleUse σ := checked c.isConnected (.ofCode ErrorCode.errState) c.mClient (.ofCode answer)

def subscription : HandleUse σ :=
  checked c.isConnected (.ofErrstr ErrorCode.errState "Consumer is not connected") c.mClient (.ofCode answer)

/-- Without a subscription there is nothing to do, and no error. -/
def unsubscribe : HandleUse σ :=
  checked (c.isConnected && c.isSubscribed) (.ofCode ErrorCode.errNoError) c.mClient (.ofCode ErrorCode.errNoError)

/-- The overloads of Commit and CommitSync, by the text of the refusal. NodeCommit
and NodeCommitSync check first. -/
def committing (refusal : NativeReturn) : HandleUse σ :=
  behind c.isConnected (.thrown "KafkaConsumer is disconnected")
    (checked c.isConnected refusal c.mClient (.ofCode answer))

def notConnected : NativeReturn := .ofErrstr ErrorCode.errState "KafkaConsumer is not connected"

def commitList : HandleUse σ := committing c answer (.ofCode ErrorCode.errState)

def commitOne : HandleUse σ := committing c answer notConnected

def commit : HandleUse σ := committing c answer notConnected

def commitSyncList : HandleUse σ := committing c answer notConnected

def commitSyncOne : HandleUse σ := committing c answer (.ofCode ErrorCode.errState)

def commitSync : HandleUse σ := committing c answer notConnected

def seek : HandleUse σ := checked c.isConnected notConnected c.mClient (.ofCode answer)

def committed : HandleUse σ := checked c.isConnected notConnected c.mClient (.ofCode answer)

def position : HandleUse σ := checked c.isConnected notConnected c.mClient (.ofCode answer)

def getWatermarkOffsets : HandleUse σ :=
  checked c.isConnected (.ofCode ErrorCode.errState) c.mClient (.ofCode answer)

def pause : HandleUse σ := checked c.isConnected (.ofCode ErrorCode.errState) c.mClient (.ofCode answer)

def resume : HandleUse σ := checked c.isConnected (.ofCode ErrorCode.errState) c.mClient (.ofCode answer)

def offsetsStore : HandleUse σ :=
  checked (c.isConnected && c.isSubscribed) (.ofCode ErrorCode.errState) c.mClient (.ofCode answer)

/-- A message of one of these codes is data for the caller, and no error. -/
def consumed : ErrorCode :=
  if answer ∈ [ErrorCode.errPartitionEof, ErrorCode.errTimedOut, ErrorCode.errTimedOutQueue] then
    ErrorCode.errNoError
  else answer

def consume : HandleUse σ := checked c.isConnected notConnected c.mClient (.ofCode (consumed answer))

/-- The loop of KafkaConsumerConsumeNum over the answers of the calls that it
makes, after `got` messages. An error is reported only before the first. -/
def consumeNum : Nat → List ErrorCode → HandleUse σ
  | _, [] => { dereferenced := [], returned := .ofCode ErrorCode.errNoError }
  | got, answer :: rest =>
    let one := consume c answer
    if one.returned.isError then
      if got = 0 then one else { one with returned := .ofCode ErrorCode.errNoError }
    else
      one.andThen (consumeNum (if answer = ErrorCode.errNoError then got + 1 else got) rest)

/-- NodeConsumeLoop up to the first call of the thread that it starts. -/
def consumeLoop (consuming : Bool) : HandleUse σ :=
  behind (!consuming) (.thrown "Consume was already called")
    (behind c.isConnected (.thrown "Connect must be called before consume") (consume c answer))

end Consumer
end HandleUse

/-- The operations of the two clients, with what librdkafka answers. -/
inductive NativeOperation
  | produce (answer : ErrorCode)
  | produceTopic (answer : ErrorCode) (errstr : String)
  | poll
  | flush (answer : ErrorCode)
  | initTransactions (error : Option RdError)
  | beginTransaction (error : Option RdError)
  | commitTransaction (error : Option RdError)
  | abortTransaction (error : Option RdError)
  | sendOffsetsToTransaction (error : Option RdError)
  | assign (answer : ErrorCode)
  | unassign (answer : ErrorCode)
  | incrementalAssign (error : Option RdError)
  | incrementalUnassign (error : Option RdError)
  | refreshAssignments (answer : ErrorCode)
  | subscribe (answer : ErrorCode)
  | subscription (answer : ErrorCode)
  | unsubscribe
  | commit (answer : ErrorCode)
  | commitList (answer : ErrorCode)
  | commitOne (answer : ErrorCode)
  | commitSync (answer : ErrorCode)
  | commitSyncList (answer : ErrorCode)
  | commitSyncOne (answer : ErrorCode)
  | seek (answer : ErrorCode)
  | committed (answer : ErrorCode)
  | position (answer : ErrorCode)
  | getWatermarkOffsets (answer : ErrorCode)
  | pause (answer : ErrorCode)
  | resume (answer : ErrorCode)
  | offsetsStore (answer : ErrorCode)
  | consume (answer : ErrorCode)
  | consumeNum (answers : List ErrorCode)
  | consumeLoop (answer : ErrorCode) (consuming : Bool)

namespace NativeOperation
variable {σ : Type}

/-- The operation started in a state of the two clients. -/
def run (p : NativeProducer σ) (c : KafkaConsumer σ) : NativeOperation → HandleUse σ
  | produce answer => .produce p answer
  | produceTopic answer errstr => .produceTopic p answer errstr
  | poll => .poll p
  | flush answer => .flush p answer
  | initTransactions error => .initTransactions p error
  | beginTransaction error => .beginTransaction p error
  | commitTransaction error => .commitTransaction p error
  | abortTransaction error => .abortTransaction p error
  | sendOffsetsToTransaction error => .sendOffsetsToTransaction p error c
  | assign answer => .assign c answer
  | unassign answer => .unassign c answer
  | incrementalAssign error => .incrementalAssign c error
  | incrementalUnassign error => .incrementalUnassign c error
  | refreshAssignments answer => .refreshAssignments c answer
  | subscribe answer => .subscribe c answer
  | subscription answer => .subscription c answer
  | unsubscribe => .unsubscribe c
  | commit answer => .commit c answer
  | commitList answer => .commitList c answer
  | commitOne answer => .commitOne c answer
  | commitSync answer => .commitSync c answer
  | commitSyncList answer => .commitSyncList c answer
  | commitSyncOne answer => .commitSyncOne c answer
  | seek answer => .seek c answer
  | committed answer => .committed c answer
  | position answer => .position c answer
  | getWatermarkOffsets answer => .getWatermarkOffsets c answer
  | pause answer => .pause c answer
  | resume answer => .resume c answer
  | offsetsStore answer => .offsetsStore c answer
  | consume answer => .consume c answer
  | consumeNum answers => .consumeNum c 0 answers
  | consumeLoop answer consuming => .consumeLoop c answer consuming

/-- The states in which the consumer of the transaction has no handle, though
the producer is connected. -/
def LacksConsumer (p : NativeProducer σ) (c : KafkaConsumer σ) : NativeOperation → Prop
  | sendOffsetsToTransaction _ => p.isConnected = true ∧ c.mClient = none
  | _ => False

/-- The operations that have nothing to do: to end a subscription that there is
not, and to consume no messages. -/
def AsksNothing (c : KafkaConsumer σ) : NativeOperation → Prop
  | unsubscribe => c.isSubscribed = false
  | consumeNum answers => answers = []
  | _ => False

end NativeOperation

namespace HandleUse
variable {σ : Type} {p : NativeProducer σ} {c : KafkaConsumer σ}

/-- No NULL handle is dereferenced. -/
def NullFree (u : HandleUse σ) : Prop := ∀ client ∈ u.dereferenced, client ≠ none

/-- A handle is used, or an error returned. -/
def Answers (u : HandleUse σ) : Prop := u.dereferenced ≠ [] ∨ u.returned.isError = true

structure Sound (u : HandleUse σ) : Prop where
  nullFree : u.NullFree
  answers : u.Answers

theorem checked_sound {allowed : Bool} {refusal returned : NativeReturn} {client : Option σ}
    (held : allowed = true → client ≠ none) (error : refusal.isError = true) :
    (checked allowed refusal client returned).Sound := by
  unfold checked
  split
  · rename_i yes
    exact ⟨by simpa [NullFree] using held yes, Or.inl (by simp)⟩
  · exact ⟨by simp [NullFree], Or.inr error⟩

theorem behind_sound {allowed : Bool} {refusal : NativeReturn} {inner : HandleUse σ}
    (error : refusal.isError = true) (sound : allowed = true → inner.Sound) :
    (behind allowed refusal inner).Sound := by
  unfold behind
  split
  · rename_i yes
    exact sound yes
  · exact ⟨by simp [NullFree], Or.inr error⟩

theorem andThen_nullFree {first later : HandleUse σ} (nullFree : first.NullFree)
    (next : later.NullFree) : (first.andThen later).NullFree := by
  unfold andThen
  split
  · exact nullFree
  · intro client member
    rcases List.mem_append.mp member with earlier | after
    · exact nullFree client earlier
    · exact next client after

/-- A first part that returns no error has used a handle. -/
theorem andThen_sound {first later : HandleUse σ} (sound : first.Sound) (next : later.NullFree) :
    (first.andThen later).Sound := by
  refine ⟨andThen_nullFree sound.nullFree next, ?_⟩
  unfold andThen
  split
  · exact sound.answers
  · rename_i fine
    rcases sound.answers with used | error
    · exact Or.inl (by simp [used])
    · exact absurd error fine

theorem producer_held (connected : p.isConnected = true) : p.mClient ≠ none := by
  intro null
  simp [NativeProducer.isConnected, null] at connected

theorem consumer_held (connected : c.isConnected = true) : c.mClient ≠ none := by
  intro null
  simp [KafkaConsumer.isConnected, null] at connected

theorem closing_held (open_or_closing : (c.isClosing || c.isConnected) = true) : c.mClient ≠ none := by
  intro null
  simp [KafkaConsumer.isClosing, KafkaConsumer.isConnected, null] at open_or_closing

theorem subscribed_held (subscribed : (c.isConnected && c.isSubscribed) = true) : c.mClient ≠ none :=
  consumer_held (Bool.and_eq_true_iff.mp subscribed).1

theorem consume_sound (c : KafkaConsumer σ) (answer : ErrorCode) : (consume c answer).Sound :=
  checked_sound consumer_held rfl

theorem consumeNum_nullFree (c : KafkaConsumer σ) (got : Nat) (answers : List ErrorCode) :
    (consumeNum c got answers).NullFree := by
  induction answers generalizing got with
  | nil => simp [consumeNum, NullFree]
  | cons answer rest ih =>
    have one := (consume_sound c answer).nullFree
    unfold consumeNum
    dsimp only
    split
    · split
      · exact one
      · exact one
    · exact andThen_nullFree one (ih _)

theorem consumeNum_sound (c : KafkaConsumer σ) {answers : List ErrorCode} (asked : answers ≠ []) :
    (consumeNum c 0 answers).Sound := by
  obtain ⟨answer, rest, rfl⟩ := List.exists_cons_of_ne_nil asked
  unfold consumeNum
  dsimp only
  split
  · exact consume_sound c answer
  · exact andThen_sound (consume_sound c answer) (consumeNum_nullFree c _ rest)

/-- The check of the producer says nothing about the consumer. -/
theorem sendOffsets_nullFree_iff (error : Option RdError) :
    (sendOffsetsToTransaction p error c).NullFree ↔ ¬ (p.isConnected = true ∧ c.mClient = none) := by
  unfold sendOffsetsToTransaction behind
  split
  · rename_i connected
    simp [NullFree, connected, producer_held connected]
  · rename_i disconnected
    simp [NullFree, disconnected]

theorem sendOffsets_answers (error : Option RdError) : (sendOffsetsToTransaction p error c).Answers := by
  unfold sendOffsetsToTransaction behind
  split
  · exact Or.inl (by simp)
  · exact Or.inr rfl

/-- Every check but the one of sendOffsetsToTransaction covers what is used
behind it, and every refusal but that of unsubscribe is an error. -/
theorem run_sound {op : NativeOperation} (checks : ∀ error, op ≠ .sendOffsetsToTransaction error)
    (asks : ¬ op.AsksNothing c) : (op.run p c).Sound := by
  cases op with
  | sendOffsetsToTransaction error => exact absurd rfl (checks error)
  | consumeNum answers => exact consumeNum_sound c asks
  | unsubscribe =>
    have subscribed : c.isSubscribed = true := by simpa [NativeOperation.AsksNothing] using asks
    have connected : c.isConnected = true := (Bool.and_eq_true_iff.mp subscribed).1
    have used : (HandleUse.unsubscribe c).dereferenced = [c.mClient] := by
      simp [HandleUse.unsubscribe, checked, connected, subscribed]
    exact ⟨by simpa [NativeOperation.run, NullFree, used] using consumer_held connected,
      Or.inl (by simp [NativeOperation.run, used])⟩
  | produce answer => exact checked_sound producer_held rfl
  | produceTopic answer errstr =>
    exact andThen_sound (checked_sound producer_held rfl) (checked_sound producer_held rfl).nullFree
  | poll => exact checked_sound producer_held rfl
  | flush answer => exact behind_sound rfl fun _ => checked_sound producer_held rfl
  | initTransactions error => exact checked_sound producer_held rfl
  | beginTransaction error => exact checked_sound producer_held rfl
  | commitTransaction error => exact checked_sound producer_held rfl
  | abortTransaction error => exact checked_sound producer_held rfl
  | unassign answer => exact behind_sound rfl fun _ => checked_sound closing_held rfl
  | incrementalUnassign error => exact checked_sound closing_held rfl
  | offsetsStore answer => exact checked_sound subscribed_held rfl
  | commit answer | commitList answer | commitOne answer =>
    exact behind_sound rfl fun _ => checked_sound consumer_held rfl
  | commitSync answer | commitSyncList answer | commitSyncOne answer =>
    exact behind_sound rfl fun _ => checked_sound consumer_held rfl
  | consumeLoop answer consuming =>
    exact behind_sound rfl fun _ => behind_sound rfl fun _ => consume_sound c answer
  | incrementalAssign error => exact checked_sound consumer_held rfl
  | assign answer | refreshAssignments answer => exact checked_sound consumer_held rfl
  | subscribe answer | subscription answer | getWatermarkOffsets answer =>
    exact checked_sound consumer_held rfl
  | seek answer | committed answer | position answer => exact checked_sound consumer_held rfl
  | pause answer | resume answer => exact checked_sound consumer_held rfl
  | consume answer => exact consume_sound c answer

/-- An operation with nothing to do dereferences nothing and returns no error. -/
theorem run_nothing {op : NativeOperation} (nothing : op.AsksNothing c) :
    (op.run p c).NullFree ∧ ¬ (op.run p c).Answers := by
  have silent : op.run p c = { dereferenced := [], returned := .ofCode ErrorCode.errNoError } := by
    cases op with
    | unsubscribe =>
      have unsubscribed : c.isSubscribed = false := nothing
      simp [NativeOperation.run, unsubscribe, checked, unsubscribed]
    | consumeNum answers =>
      have none_asked : answers = [] := nothing
      rw [none_asked]
      rfl
    | _ => exact nothing.elim
  rw [silent]
  exact ⟨by simp [NullFree], by simp [Answers, NativeReturn.isError, NativeReturn.ofCode, Baton.ofCode, Baton.err]⟩

end HandleUse

/-- An operation dereferences no NULL handle, in any state of the two clients,
unless it sends offsets to a transaction for a consumer without a handle. Then
it also uses a handle or returns an error, except where it has nothing to do. -/
theorem operation_nullFree_iff {σ : Type} (p : NativeProducer σ) (c : KafkaConsumer σ) (op : NativeOperation) :
    ((op.run p c).NullFree ↔ ¬ op.LacksConsumer p c) ∧
      ((op.run p c).NullFree ∧ (op.run p c).Answers ↔ ¬ op.LacksConsumer p c ∧ ¬ op.AsksNothing c) := by
  by_cases sends : ∃ error, op = .sendOffsetsToTransaction error
  · obtain ⟨error, rfl⟩ := sends
    have nullFree := HandleUse.sendOffsets_nullFree_iff (p := p) (c := c) error
    have answers := HandleUse.sendOffsets_answers (p := p) (c := c) error
    refine ⟨nullFree, ?_⟩
    constructor
    · rintro ⟨free, _⟩
      exact ⟨nullFree.mp free, id⟩
    · rintro ⟨holds, _⟩
      exact ⟨nullFree.mpr holds, answers⟩
  · have checks : ∀ error, op ≠ .sendOffsetsToTransaction error := fun error same => sends ⟨error, same⟩
    have holds : ¬ op.LacksConsumer p c := by
      cases op <;> first | exact id | exact absurd rfl (checks _)
    by_cases nothing : op.AsksNothing c
    · obtain ⟨free, silent⟩ := HandleUse.run_nothing (p := p) nothing
      simp [free, silent, holds, nothing]
    · have sound := HandleUse.run_sound (p := p) checks nothing
      simp [sound.nullFree, sound.answers, holds, nothing]

/-- A connected producer sends offsets for a consumer that was never connected. -/
theorem null_consumer_dereferenced :
    NativeProducer.isConnected { mClient := some 1 } = true ∧
      (NativeOperation.run { mClient := some 1 } ({} : KafkaConsumer Nat)
        (.sendOffsetsToTransaction none)).dereferenced = [none, some 1] ∧
      ¬ (NativeOperation.run { mClient := some 1 } ({} : KafkaConsumer Nat)
        (.sendOffsetsToTransaction none)).NullFree := by
  refine ⟨rfl, rfl, ?_⟩
  intro nullFree
  exact nullFree none (List.mem_cons_self ..) rfl

end NodeRdkafka
