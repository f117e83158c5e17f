import NodeRdkafka.ConnectionThreads

namespace NodeRdkafka
open LockedThreads Transition

/-- The native methods of a KafkaConsumer. A connect is taken with what librdkafka
answers to it, whether a token waits to be set and whether there are partitions to
resume; a consume with the number of its rounds. -/
inductive KafkaConsumerCall
  | connect (created token resumes : Bool)
  | disconnect
  | setToken
  | getMetadata (named : Bool)
  | queryWatermarkOffsets
  | offsetsForTimes
  | getWatermarkOffsets
  | consume (rounds : Nat)
  | subscription
  | subscribe
  | unsubscribe (subscribed : Bool)
  | seek
  | pause
  | resume
  | committed
  | position
  | assign
  | unassign
  | incrementalAssign
  | incrementalUnassign
  | assignments
  | rebalanceProtocol
  | commit
  | commitSync
  | offsetsStore (subscribed : Bool)
  deriving DecidableEq

namespace KafkaConsumerCall

def role : KafkaConsumerCall → ConnectionRole
  | connect _ _ _ | disconnect => .lifecycle
  | _ => .caller

/-- KafkaConsumer::Connect. The partitions are resumed without the lock. -/
def connectCode (created token resumes : Bool) : ConnectionCode :=
  .ifConnected .done (.lock .write (.act (SharedConnection.createClient created) (.unlock
    (ConnectionCode.ifClient
      (ConnectionCode.giveToken token (if resumes then .act SharedConnection.useClient .done else .done)) .done))))

/-- KafkaConsumer::Disconnect. m_is_closing is set before the lock is taken, and reset
after it is given back; in between the handle is closed and deleted. -/
def disconnectCode : ConnectionCode :=
  .ifConnected
    (.act (SharedConnection.setClosing true) (.lock .write (.act SharedConnection.useClient
      (.act SharedConnection.deleteClient (.act SharedConnection.clearClient (.unlock
        (.act (SharedConnection.setClosing false) .done)))))))
    (.act (SharedConnection.setClosing false) .done)

/-- `!IsClosing() && !IsConnected()`, with a call on m_client after it. -/
def closingOrConnected : ConnectionCode :=
  .look fun s =>
    if s.isClosing then .act SharedConnection.useClient .done
    else ConnectionCode.unlocked

/-- The calls that make sure of a subscription too, and so check twice. -/
def ifSubscribed (subscribed : Bool) : ConnectionCode :=
  .ifConnected (.ifConnected (if subscribed then .act SharedConnection.useClient .done else .done) .done) .done

/-- The rounds of KafkaConsumerConsumeNum or of the consume loop. -/
def consumeCode : Nat → ConnectionCode
  | 0 => .done
  | rounds + 1 => .doubleChecked .read (consumeCode rounds) .done

def code : KafkaConsumerCall → ConnectionCode
  | connect created token resumes => connectCode created token resumes
  | disconnect => disconnectCode
  | setToken => .setToken
  | getMetadata named => .getMetadata named
  | queryWatermarkOffsets => .queryWatermarkOffsets
  | offsetsForTimes => .offsetsForTimes
  | getWatermarkOffsets => .doubleChecked .read .done .done
  | consume rounds => consumeCode rounds
  | unsubscribe subscribed | offsetsStore subscribed => ifSubscribed subscribed
  | unassign | incrementalUnassign => closingOrConnected
  | subscription | subscribe | seek | pause | resume | committed | position | assign | incrementalAssign
  | assignments | rebalanceProtocol | commit | commitSync => .unlocked

/-- The calls that look at m_client again behind the lock before they use it, the
calls of the life cycle, and those that have nothing to do. -/
def Guarded : KafkaConsumerCall → Prop
  | connect _ _ _ | disconnect | getMetadata _ | queryWatermarkOffsets | offsetsForTimes | getWatermarkOffsets
  | consume _ => True
  | unsubscribe subscribed | offsetsStore subscribed => subscribed = false
  | setToken | subscription | subscribe | seek | pause | resume | committed | position | assign | unassign
  | incrementalAssign | incrementalUnassign | assignments | rebalanceProtocol | commit | commitSync => False

end KafkaConsumerCall

abbrev kafkaConsumerSystem : System SharedConnection ConnectionRole KafkaConsumerCall :=
  connectionSystem KafkaConsumerCall.role KafkaConsumerCall.code

namespace KafkaConsumerCall

/-- Alone to make and to delete handles, a call of the life cycle keeps what its
check has shown. -/
theorem ifConnected_lifecycle {yes no : ConnectionCode}
    (connected : Disciplined true (some false) none .present yes)
    (other : Disciplined true (some false) none .absent no) :
    Disciplined true (some false) none .sound (.ifConnected yes no) := by
  refine .look (fun s => if s.isConnected then .present else .absent) ?_ ?_ ?_
  · intro s known
    split
    · exact Disciplined.present_of_isConnected known.client ‹_›
    · rename_i refused
      have opened : s.mIsClosing = false := known.closing false rfl
      exact ⟨known.client, by simpa [SharedConnection.isConnected, opened] using refused⟩
  · intro s _
    split <;> simp [ClientKnowledge.Lasts]
  · intro s _
    by_cases is : s.isConnected = true
    · simpa only [if_pos is] using connected
    · simpa only [if_neg is] using other

theorem connect_disciplined (created token resumes : Bool) :
    Disciplined true (some false) none .sound (connectCode created token resumes) := by
  have finished : ∀ k : ClientKnowledge, k ≠ .tidy → Disciplined true (some false) none k .done :=
    fun k kept => .done (by simp) (fun _ _ => kept)
  have resumed : Disciplined true (some false) none .present
      (if resumes then .act SharedConnection.useClient .done else .done) := by
    cases resumes
    · exact finished .present (by simp)
    · exact .use_present (finished .present (by simp))
  have given : Disciplined true (some false) none .present
      (.giveToken token (if resumes then .act SharedConnection.useClient .done else .done)) := by
    cases token
    · exact resumed
    · refine .lock .present (fun _ present _ => present) (Or.inl (by simp)) (.use_present ?_)
      exact .unlock .present (by simp) (fun _ present => present) (Or.inr (by simp)) (fun _ _ present => present.1)
        resumed
  refine ifConnected_lifecycle (finished .present (by simp)) ?_
  refine .lock .absent (fun _ absent _ => absent) (by simp [ClientKnowledge.Lasts]) (.create (by simp) (by simp) ?_)
  refine .unlock (if created then .present else .absent) (by simp) (fun _ known => known) ?_ ?_ ?_
  · cases created <;> simp [ClientKnowledge.Lasts]
  · cases created <;> exact fun _ _ known => known.1
  · refine .look (fun _ => if created then .present else .absent) (fun _ known => known.client) ?_ ?_
    · cases created <;> simp [ClientKnowledge.Lasts]
    · intro s known
      cases created with
      | false => simpa [known.client.2] using finished .absent (by simp)
      | true => simpa [Option.isSome_iff_ne_none.mpr known.client.2] using given

theorem disconnect_disciplined : Disciplined true (some false) none .sound disconnectCode := by
  have finished : ∀ k : ClientKnowledge, k ≠ .tidy → Disciplined true (some false) none k .done :=
    fun k kept => .done (by simp) (fun _ _ => kept)
  refine ifConnected_lifecycle (.close ?_) (.close (finished .absent (by simp)))
  refine .lock .present (fun _ present _ => present) (Or.inl (by simp)) (.use_present ?_)
  refine .delete (by simp) (fun _ present => present.1) (.clear (by simp) ?_)
  exact .unlock .sound (by simp) (fun _ sound => sound) (Or.inr (by simp)) (fun _ _ sound => sound)
    (.close (finished .sound (by simp)))

theorem consume_disciplined (rounds : Nat) : Disciplined true none none .nothing (consumeCode rounds) := by
  induction rounds with
  | zero => exact .done_caller
  | succ rounds ih => exact .doubleChecked .read ih .done_caller

/-- The guarded calls keep the discipline, with one call of the life cycle at a time. -/
theorem guarded_disciplined (call : KafkaConsumerCall) (guarded : call.Guarded) :
    Disciplines true role code call := by
  have doubleChecked : Disciplined true none none .nothing (.doubleChecked .read .done .done) :=
    .doubleChecked .read .done_caller .done_caller
  cases call with
  | connect created token resumes => exact connect_disciplined created token resumes
  | disconnect => exact disconnect_disciplined
  | getMetadata named => exact .getMetadata named
  | queryWatermarkOffsets | offsetsForTimes | getWatermarkOffsets => exact doubleChecked
  | consume rounds => exact consume_disciplined rounds
  | unsubscribe subscribed | offsetsStore subscribed =>
    obtain rfl : subscribed = false := guarded
    exact .ifConnected_caller (.ifConnected_caller .done_caller .done_caller) .done_caller
  | _ => exact absurd guarded id

/-- How often a call looks at m_client before it uses it. -/
def checks : KafkaConsumerCall → Nat
  | unassign | incrementalUnassign | unsubscribe _ | offsetsStore _ => 2
  | _ => 1

/-- A run of the call on thread 1 in which a disconnect comes between its last look
at m_client and the use that follows. -/
def racedTrace (call : KafkaConsumerCall) : List (LockedThreads.Action KafkaConsumerCall) :=
  .start (connect true false false) :: List.replicate 5 (.run 0) ++
    .start call :: List.replicate call.checks (.run 1) ++
    .start disconnect :: List.replicate 8 (.run 2) ++ if call = setToken then [.run 1] else []

theorem raced_calls (call started : KafkaConsumerCall) (member : .start started ∈ racedTrace call) :
    started = call ∨ started = connect true false false ∨ started = disconnect := by
  unfold racedTrace at member
  split at member <;> simp at member <;> tauto

theorem unguarded_faulty (call : KafkaConsumerCall) (unguarded : ¬call.Guarded) :
    ∃ s, Reach kafkaConsumerSystem.step ⟨{}, []⟩ (racedTrace call) s ∧ s.Faulty := by
  cases call with
  | connect _ _ _ | disconnect | getMetadata _ | queryWatermarkOffsets | offsetsForTimes | getWatermarkOffsets
  | consume _ => exact absurd trivial unguarded
  | unsubscribe subscribed | offsetsStore subscribed =>
    obtain rfl : subscribed = true := by simpa [Guarded] using unguarded
    exact ⟨_, reach_iff_replay.mpr rfl, _, List.mem_cons_of_mem _ (List.mem_cons_self ..), _, _, rfl, rfl⟩
  | _ => exact ⟨_, reach_iff_replay.mpr rfl, _, List.mem_cons_of_mem _ (List.mem_cons_self ..), _, _, rfl, rfl⟩

end KafkaConsumerCall

end NodeRdkafka
