import NodeRdkafka.ConnectionThreads

namespace NodeRdkafka
open LockedThreads Transition

/-- The native methods of a Producer. A connect is taken with what librdkafka answers
to it and whether a token waits to be set; a topic object may not be creatable. -/
inductive ProducerCall
  | connect (created token : Bool)
  | disconnect
  | setToken
  | getMetadata (named : Bool)
  | queryWatermarkOffsets
  | poll
  | produce
  | produceTopic (created : Bool)
  | flush
  | initTransactions
  | beginTransaction
  | commitTransaction
  | abortTransaction
  | sendOffsetsToTransaction
  deriving DecidableEq

namespace ProducerCall

def role : ProducerCall → ConnectionRole
  | connect _ _ => .lifecycle
  | _ => .caller

/-- Producer::Connect, which makes the handle under the read lock. -/
def connectCode (created token : Bool) : ConnectionCode :=
  .ifConnected .done (.lock .read (.act (SharedConnection.createClient created) (.unlock
    (ConnectionCode.ifClient (ConnectionCode.giveToken token .done) .done))))

/-- ProducerFlush::Execute, around Producer::Flush. -/
def flushCode : ConnectionCode := .ifConnected (.doubleChecked .read .done .done) .done

/-- NodeProduce with a topic object, which makes the topic first. -/
def produceTopicCode (created : Bool) : ConnectionCode :=
  .createTopic (if created then .doubleChecked .read .done .done else .done) .done

def code : ProducerCall → ConnectionCode
  | connect created token => connectCode created token
  | disconnect => .disconnect
  | setToken => .setToken
  | getMetadata named => .getMetadata named
  | queryWatermarkOffsets => .queryWatermarkOffsets
  | produce => .doubleChecked .read .done .done
  | produceTopic created => produceTopicCode created
  | flush => flushCode
  | poll | initTransactions | beginTransaction | commitTransaction | abortTransaction
  | sendOffsetsToTransaction => .unlocked

/-- The calls that look at m_client again behind the lock before they use it, and a
connect that does not use the new handle. -/
def Guarded : ProducerCall → Prop
  | connect created token => created = false ∨ token = false
  | disconnect | getMetadata _ | queryWatermarkOffsets | produce | produceTopic _ | flush => True
  | setToken | poll | initTransactions | beginTransaction | commitTransaction | abortTransaction
  | sendOffsetsToTransaction => False

end ProducerCall

abbrev producerSystem : System SharedConnection ConnectionRole ProducerCall :=
  connectionSystem ProducerCall.role ProducerCall.code

namespace ProducerCall

/-- What a connect knows after its check: without a handle none is live. -/
theorem absent_of_not_connected {s : SharedConnection}
    (known : ClientKnowledge.Known (some false) .tidy s) (refused : s.isConnected ≠ true) :
    ClientKnowledge.absent.Holds s := by
  have opened : s.mIsClosing = false := known.closing false rfl
  have null : s.mClient = none := by simpa [SharedConnection.isConnected, opened] using refused
  exact ⟨by simp [SharedConnection.Consistent, null, known.client null], null⟩

theorem connect_disciplined {created token : Bool} (guarded : created = false ∨ token = false) :
    Disciplined false (some false) none .tidy (connectCode created token) := by
  have finished : Disciplined false (some false) none .tidy .done := .done (by simp) (by simp)
  have given : Disciplined false (some false) none (if created then .tidy else .absent)
      (ConnectionCode.ifClient (ConnectionCode.giveToken token .done) .done) := by
    cases created with
    | false =>
      refine .look (fun _ => .absent) (fun _ known => known.client) (by simp [ClientKnowledge.Lasts]) ?_
      intro s known
      simpa [known.client.2] using .done (by simp) (by simp)
    | true =>
      obtain rfl := guarded.resolve_left (by simp)
      refine .look (fun _ => .tidy) (fun _ known => known.client) (by simp [ClientKnowledge.Lasts]) ?_
      intro s _
      split <;> exact finished
  have locked : Disciplined false (some false) none .absent
      (.lock .read (.act (SharedConnection.createClient created) (.unlock
        (ConnectionCode.ifClient (ConnectionCode.giveToken token .done) .done)))) := by
    refine .lock .absent (fun _ absent _ => absent) (by simp [ClientKnowledge.Lasts]) ?_
    refine .create (by simp) (by simp) (.unlock _ (by simp) ?_ ?_ (by simp) given)
    · intro s client
      cases created with
      | false => exact client
      | true => exact fun null => absurd null client.2
    · cases created <;> simp [ClientKnowledge.Lasts]
  refine .look (fun s => if s.isConnected then .tidy else .absent) ?_ ?_ ?_
  · intro s known
    split
    · exact known.client
    · exact absent_of_not_connected known ‹_›
  · intro s _
    split <;> simp [ClientKnowledge.Lasts]
  · intro s _
    by_cases is : s.isConnected = true
    · simpa only [if_pos is] using finished
    · simpa only [if_neg is] using locked

/-- The guarded calls keep the discipline, with any number of disconnects at a time. -/
theorem guarded_disciplined (call : ProducerCall) (guarded : call.Guarded) : Disciplines false role code call := by
  have doubleChecked : Disciplined false none none .nothing (.doubleChecked .read .done .done) :=
    .doubleChecked .read .done_caller .done_caller
  cases call with
  | connect created token => exact connect_disciplined guarded
  | disconnect => exact .disconnect_caller
  | getMetadata named => exact .getMetadata named
  | queryWatermarkOffsets | produce => exact doubleChecked
  | produceTopic created =>
    refine .doubleChecked .read ?_ .done_caller
    cases created
    · exact .done_caller
    · exact doubleChecked
  | flush => exact .ifConnected_caller doubleChecked .done_caller
  | setToken | poll | initTransactions | beginTransaction | commitTransaction | abortTransaction
  | sendOffsetsToTransaction => exact absurd guarded id

/-- A run of the call in which a disconnect comes between a check, or a read of
m_client, and the use that follows. The call is that of thread 1, or the connect itself. -/
def racedTrace : ProducerCall → List (LockedThreads.Action ProducerCall)
  | connect created token =>
    .start (connect created token) :: List.replicate 5 (.run 0) ++
      .start disconnect :: List.replicate 5 (.run 1) ++ [.run 0]
  | setToken =>
    .start (connect true false) :: List.replicate 5 (.run 0) ++ [.start setToken, .run 1, .start disconnect] ++
      List.replicate 5 (.run 2) ++ [.run 1]
  | call =>
    .start (connect true false) :: List.replicate 5 (.run 0) ++ [.start call, .run 1, .start disconnect] ++
      List.replicate 5 (.run 2)

theorem raced_calls (call started : ProducerCall) (member : .start started ∈ racedTrace call) :
    started = call ∨ started = connect true false ∨ started = disconnect := by
  cases call <;> simp [racedTrace] at member <;> tauto

theorem unguarded_faulty (call : ProducerCall) (unguarded : ¬call.Guarded) :
    ∃ s, Reach producerSystem.step ⟨{}, []⟩ (racedTrace call) s ∧ s.Faulty := by
  cases call with
  | connect created token =>
    obtain ⟨rfl, rfl⟩ : created = true ∧ token = true := by simpa [Guarded] using unguarded
    exact ⟨_, reach_iff_replay.mpr rfl, _, List.mem_cons_self .., _, _, rfl, rfl⟩
  | setToken =>
    exact ⟨_, reach_iff_replay.mpr rfl, _, List.mem_cons_of_mem _ (List.mem_cons_self ..), _, _, rfl, rfl⟩
  | poll | initTransactions | beginTransaction | commitTransaction | abortTransaction | sendOffsetsToTransaction =>
    exact ⟨_, reach_iff_replay.mpr rfl, _, List.mem_cons_of_mem _ (List.mem_cons_self ..), _, _, rfl, rfl⟩
  | disconnect | getMetadata _ | queryWatermarkOffsets | produce | produceTopic _ | flush =>
    exact absurd trivial unguarded

end ProducerCall

end NodeRdkafka
