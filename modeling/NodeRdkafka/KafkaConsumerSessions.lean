import NodeRdkafka.KafkaConsumerAssignments

namespace NodeRdkafka
open Transition

/-- The calls on one native consumer. Disconnect is taken in three parts, and
other calls may come between them. -/
inductive SessionAction
  | connect
  | beginDisconnect
  | closeClient
  | endDisconnect
  | subscribe (topics : List String)
  | unsubscribe
  | assignment (action : AssignmentCall)
  deriving DecidableEq

/-- The consumer with the Disconnects under way. `creates` counts the handles
asked for, `clientSubscribed` is whether a subscribe of the present handle
succeeded with no unsubscribe since, and `resumed` is what the last Connect
resumed on its handle. -/
structure ConsumerSession (σ : Type) where
  consumer : KafkaConsumer σ := {}
  closing : Nat := 0
  ending : Nat := 0
  creates : Nat := 0
  clientSubscribed : Bool := false
  resumed : List TopicPartition := []

namespace ConsumerSession
section
variable {σ : Type} (lib : Librdkafka σ)

/-- The constructor leaves a token for the first Connect, or none. -/
def initial (token : Option OauthBearerToken) : ConsumerSession σ :=
  { consumer := { mInitOauthToken := token } }

def created (s : ConsumerSession σ) : Option σ × String := lib.create s.creates

/-- The list that Connect resumes on its handle. -/
def resumes (s : ConsumerSession σ) : List TopicPartition :=
  let (c, baton) := s.consumer.createClient lib (s.created lib)
  if baton.err = ErrorCode.errNoError then c.mPartitions else []

/-- A consumer that is being closed is not connected, so Connect goes on. -/
def connect (s : ConsumerSession σ) : ConsumerSession σ :=
  if s.consumer.isConnected then s
  else
    { s with
      consumer := (s.consumer.connectClient lib (s.created lib)).1
      creates := s.creates + 1
      clientSubscribed := false
      resumed := s.resumes lib }

def beginDisconnect (s : ConsumerSession σ) : ConsumerSession σ :=
  let (c, open_) := s.consumer.beginDisconnect
  { s with consumer := c, closing := if open_ then s.closing + 1 else s.closing }

def closeClient (s : ConsumerSession σ) : Option (ConsumerSession σ) :=
  if 0 < s.closing ∧ s.consumer.mClient.isSome then
    some { s with
      consumer := s.consumer.closeClient, closing := s.closing - 1, ending := s.ending + 1 }
  else none

def endDisconnect (s : ConsumerSession σ) : Option (ConsumerSession σ) :=
  if 0 < s.ending then
    some { s with consumer := s.consumer.endDisconnect, ending := s.ending - 1 }
  else none

/-- The handle is subscribed if it takes the call. -/
def subscribe (s : ConsumerSession σ) (topics : List String) : ConsumerSession σ :=
  let (c, baton) := s.consumer.subscribe lib topics
  { s with
    consumer := c
    clientSubscribed := s.clientSubscribed || decide (baton.err = ErrorCode.errNoError) }

/-- Unsubscribe answers the same whether or not it reaches the handle. -/
def unsubscribe (s : ConsumerSession σ) : ConsumerSession σ :=
  { s with
    consumer := (s.consumer.unsubscribe lib).1
    clientSubscribed := s.clientSubscribed && !s.consumer.isSubscribed }

def step (s : ConsumerSession σ) : SessionAction → Option (ConsumerSession σ)
  | .connect => some (s.connect lib)
  | .beginDisconnect => some s.beginDisconnect
  | .closeClient => s.closeClient
  | .endDisconnect => s.endDisconnect
  | .subscribe topics => some (s.subscribe lib topics)
  | .unsubscribe => some (s.unsubscribe lib)
  | .assignment action => some { s with consumer := (s.consumer.call lib action).1 }

/-- A Connect that gets a handle finds neither a subscription nor partitions
of an earlier one. -/
def Fresh (s : ConsumerSession σ) (action : SessionAction) : Prop :=
  action = .connect → s.consumer.isConnected = false → (s.created lib).1.isSome →
    s.consumer.mIsSubscribed = false ∧ s.consumer.mPartitions = []

instance (s : ConsumerSession σ) (action : SessionAction) : Decidable (Fresh lib s action) :=
  inferInstanceAs (Decidable (_ → _ → _ → _ ∧ _))

end

section
variable {σ : Type} {assigned : σ → Multiset PartitionKey}

/-- What the consumer keeps is about the present handle. -/
structure Current (assigned : σ → Multiset PartitionKey) (s : ConsumerSession σ) : Prop where
  subscribed : s.consumer.isSubscribed = true → s.clientSubscribed = true
  partitions : ∀ client, s.consumer.mClient = some client →
    partitionKeys s.consumer.mPartitions ≤ assigned client
  resumed : s.resumed = []

/-- The invariant behind it, which does without the state of the connection. -/
structure Tracks (assigned : σ → Multiset PartitionKey) (s : ConsumerSession σ) : Prop where
  subscribed : s.consumer.mClient.isSome = true → s.consumer.mIsSubscribed = true →
    s.clientSubscribed = true
  mirror : ∀ client, s.consumer.mClient = some client →
    partitionKeys s.consumer.mPartitions = assigned client
  resumed : s.resumed = []

theorem Tracks.current {s : ConsumerSession σ} (tracks : s.Tracks assigned) : s.Current assigned where
  subscribed subscribed := by
    simp only [KafkaConsumer.isSubscribed, KafkaConsumer.isConnected, Bool.and_eq_true] at subscribed
    exact tracks.subscribed subscribed.1.2 subscribed.2
  partitions client has := (tracks.mirror client has).le
  resumed := tracks.resumed

end
end ConsumerSession

namespace KafkaConsumer
section
variable {σ : Type} {lib : Librdkafka σ} {assigned : σ → Multiset PartitionKey}

/-- The handle that createClient leaves is new, if there is one, and nothing
else of the consumer but its token changes. -/
structure Created (lib : Librdkafka σ) (assigned : σ → Multiset PartitionKey) (n : Nat)
    (before after : KafkaConsumer σ) : Prop where
  unassigned : ∀ client, after.mClient = some client → assigned client = 0
  made : after.mClient.isSome = (lib.create n).1.isSome
  partitions : after.mPartitions = before.mPartitions
  isSubscribed : after.mIsSubscribed = before.mIsSubscribed
  isClosing : after.mIsClosing = before.mIsClosing

theorem createClient_created (documented : lib.Documented assigned) (c : KafkaConsumer σ) (n : Nat) :
    Created lib assigned n c (c.createClient lib (lib.create n)).1 := by
  rcases create : lib.create n with ⟨made, errstr⟩
  cases made with
  | none => constructor <;> simp [createClient, create]
  | some client =>
    have new : assigned client = 0 := documented.create n client (by rw [create])
    by_cases said : errstr = ""
    · cases init : c.mInitOauthToken with
      | none => constructor <;> simp [createClient, create, said, init, new]
      | some token =>
        have kept := (documented.setToken client token).trans new
        by_cases err : (lib.setToken client token).1 = ErrorCode.errNoError <;>
          constructor <;> simp [createClient, create, said, init, err, kept]
    · constructor <;> simp [createClient, create, said, new]

/-- So is the handle that Connect leaves, for a resume assigns nothing. -/
theorem connectClient_created (documented : lib.Documented assigned) (c : KafkaConsumer σ) (n : Nat) :
    Created lib assigned n c (c.connectClient lib (lib.create n)).1 := by
  have created := createClient_created documented c n
  simp only [connectClient]
  split
  · exact created
  · split
    · exact created
    · refine ⟨fun client has => ?_, ?_, created.partitions, created.isSubscribed, created.isClosing⟩
      · obtain ⟨before, hasBefore, rfl⟩ := Option.map_eq_some_iff.mp has
        rw [documented.resume, created.unassigned before hasBefore]
      · rw [Option.isSome_map, created.made]

theorem call_mIsSubscribed (c : KafkaConsumer σ) (action : AssignmentCall) :
    (c.call lib action).1.mIsSubscribed = c.mIsSubscribed := by
  cases action <;> simp only [call, assign, unassign, incrementalAssign, incrementalUnassign,
    refreshAssignments] <;> (repeat' split) <;> rfl

end
end KafkaConsumer

namespace ConsumerSession
section
variable {σ : Type} {lib : Librdkafka σ} {assigned : σ → Multiset PartitionKey}
variable {s t : ConsumerSession σ}

/-- Connect answers at once on a connected consumer, and makes a handle
otherwise. -/
theorem connect_cases (lib : Librdkafka σ) (s : ConsumerSession σ) :
    s.consumer.isConnected = true ∧ s.connect lib = s ∨
      s.consumer.isConnected = false ∧ s.connect lib =
        { s with
          consumer := (s.consumer.connectClient lib (lib.create s.creates)).1
          creates := s.creates + 1
          clientSubscribed := false
          resumed := s.resumes lib } := by
  unfold ConsumerSession.connect
  split
  · rename_i connected
    exact Or.inl ⟨connected, rfl⟩
  · rename_i closed
    exact Or.inr ⟨by simpa using closed, rfl⟩

/-- Nothing is resumed without a handle. -/
theorem resumes_of_refused (refused : (s.created lib).1.isSome = false) : s.resumes lib = [] := by
  rcases create : s.created lib with ⟨client, errstr⟩
  rw [create] at refused
  cases client with
  | some client => cases refused
  | none =>
    have failed : ErrorCode.errState ≠ ErrorCode.errNoError := by decide
    simp only [resumes, create, KafkaConsumer.createClient, Baton.err, Baton.ofErrstr, failed, if_false]

theorem resumes_of_empty (documented : lib.Documented assigned) (empty : s.consumer.mPartitions = []) :
    s.resumes lib = [] := by
  have kept := (KafkaConsumer.createClient_created documented s.consumer s.creates).partitions
  simp only [resumes, created, kept, empty, ite_self]

theorem Tracks.connect (documented : lib.Documented assigned) (fresh : Fresh lib s .connect)
    (tracks : s.Tracks assigned) : (s.connect lib).Tracks assigned := by
  rcases s.connect_cases lib with ⟨_, same⟩ | ⟨closed, connects⟩
  · rwa [same]
  · rw [connects]
    have made := KafkaConsumer.connectClient_created documented s.consumer s.creates
    cases handle : (s.created lib).1.isSome with
    | true =>
      obtain ⟨unsubscribed, empty⟩ := fresh rfl closed handle
      refine ⟨fun _ subscribed => ?_, fun client has => ?_, resumes_of_empty documented empty⟩
      · rw [made.isSubscribed, unsubscribed] at subscribed
        cases subscribed
      · rw [made.partitions, empty, made.unassigned client has]
        rfl
    | false =>
      have gone := made.made.trans handle
      refine ⟨fun has => ?_, fun client has => ?_, resumes_of_refused handle⟩
      · rw [gone] at has
        cases has
      · rw [has] at gone
        cases gone

theorem Tracks.subscribe (tracks : s.Tracks assigned) (documented : lib.Documented assigned)
    (topics : List String) : (s.subscribe lib topics).Tracks assigned := by
  cases connected : s.consumer.isConnected with
  | false =>
    have same : s.consumer.subscribe lib topics = (s.consumer, .ofCode ErrorCode.errState) := by
      simp [KafkaConsumer.subscribe, connected]
    refine ⟨fun has subscribed => ?_, ?_, tracks.resumed⟩
    · simp only [ConsumerSession.subscribe, same] at has subscribed ⊢
      rw [tracks.subscribed has subscribed, Bool.true_or]
    · simpa only [ConsumerSession.subscribe, same] using tracks.mirror
  | true =>
    obtain ⟨client, has⟩ : ∃ client, s.consumer.mClient = some client := by
      simp only [KafkaConsumer.isConnected, Bool.and_eq_true] at connected
      exact Option.isSome_iff_exists.mp connected.2
    have kept := documented.subscribe client topics
    have mirror := tracks.mirror client has
    by_cases accepted : (lib.subscribe client topics).1 = ErrorCode.errNoError
    · refine ⟨fun _ _ => ?_, ?_, tracks.resumed⟩
      · simp [ConsumerSession.subscribe, KafkaConsumer.subscribe, connected, has, accepted, Baton.ofCode,
          Baton.err]
      · simp [ConsumerSession.subscribe, KafkaConsumer.subscribe, connected, has, accepted, kept, mirror]
    · refine ⟨fun _ subscribed => ?_, ?_, tracks.resumed⟩
      · simp only [ConsumerSession.subscribe, KafkaConsumer.subscribe, connected, has, accepted,
          if_false] at subscribed ⊢
        rw [tracks.subscribed (by rw [has]; rfl) subscribed, Bool.true_or]
      · simp [ConsumerSession.subscribe, KafkaConsumer.subscribe, connected, has, accepted, kept, mirror]

theorem Tracks.unsubscribe (tracks : s.Tracks assigned) (documented : lib.Documented assigned) :
    (s.unsubscribe lib).Tracks assigned := by
  cases subscribed : s.consumer.isSubscribed with
  | false =>
    have same : s.consumer.unsubscribe lib = (s.consumer, .ofCode ErrorCode.errNoError) := by
      simp [KafkaConsumer.unsubscribe, subscribed]
    refine ⟨fun has flagged => ?_, ?_, tracks.resumed⟩
    · simp only [ConsumerSession.unsubscribe, same] at has flagged
      simp only [ConsumerSession.unsubscribe, tracks.subscribed has flagged, subscribed, Bool.not_false,
        Bool.and_self]
    · simpa only [ConsumerSession.unsubscribe, same] using tracks.mirror
  | true =>
    obtain ⟨client, has⟩ : ∃ client, s.consumer.mClient = some client := by
      simp only [KafkaConsumer.isSubscribed, KafkaConsumer.isConnected, Bool.and_eq_true] at subscribed
      exact Option.isSome_iff_exists.mp subscribed.1.2
    have kept := documented.unsubscribe client
    have mirror := tracks.mirror client has
    refine ⟨fun _ flagged => ?_, ?_, tracks.resumed⟩
    · simp [ConsumerSession.unsubscribe, KafkaConsumer.unsubscribe, subscribed, has] at flagged
    · simp [ConsumerSession.unsubscribe, KafkaConsumer.unsubscribe, subscribed, has, kept, mirror]

theorem Tracks.call (tracks : s.Tracks assigned) (documented : lib.Documented assigned)
    (action : AssignmentCall) :
    Tracks assigned { s with consumer := (s.consumer.call lib action).1 } := by
  cases handle : s.consumer.mClient with
  | none =>
    have same : (s.consumer.call lib action).1 = s.consumer := by
      cases action <;> simp [KafkaConsumer.call, KafkaConsumer.assign, KafkaConsumer.unassign,
        KafkaConsumer.incrementalAssign, KafkaConsumer.incrementalUnassign,
        KafkaConsumer.refreshAssignments, handle]
    simpa only [same] using tracks
  | some client =>
    have mirrors : s.consumer.Mirrors assigned := ⟨client, handle, tracks.mirror client handle⟩
    obtain ⟨after, hasAfter, mirror⟩ := mirrors.call documented.toAssigns action
    refine ⟨fun _ flagged => ?_, fun current has => ?_, tracks.resumed⟩
    · rw [KafkaConsumer.call_mIsSubscribed] at flagged
      exact tracks.subscribed (by rw [handle]; rfl) flagged
    · cases hasAfter.symm.trans has
      exact mirror

theorem Tracks.step (documented : lib.Documented assigned) {action : SessionAction}
    (fresh : Fresh lib s action) (tracks : s.Tracks assigned) (run : s.step lib action = some t) :
    t.Tracks assigned := by
  cases action with
  | connect =>
    cases Option.some.inj run
    exact tracks.connect documented fresh
  | beginDisconnect =>
    cases Option.some.inj run
    refine ⟨?_, ?_, tracks.resumed⟩
    · simp only [ConsumerSession.beginDisconnect, KafkaConsumer.beginDisconnect_mClient]
      have flag : s.consumer.beginDisconnect.1.mIsSubscribed = s.consumer.mIsSubscribed := by
        unfold KafkaConsumer.beginDisconnect
        split <;> rfl
      simpa only [flag] using tracks.subscribed
    · simpa only [ConsumerSession.beginDisconnect, KafkaConsumer.beginDisconnect_mClient,
        KafkaConsumer.beginDisconnect_mPartitions] using tracks.mirror
  | closeClient =>
    simp only [ConsumerSession.step, ConsumerSession.closeClient] at run
    split at run
    · cases Option.some.inj run
      exact ⟨by simp [KafkaConsumer.closeClient], by simp [KafkaConsumer.closeClient], tracks.resumed⟩
    · cases run
  | endDisconnect =>
    simp only [ConsumerSession.step, ConsumerSession.endDisconnect] at run
    split at run
    · cases Option.some.inj run
      exact ⟨tracks.subscribed, tracks.mirror, tracks.resumed⟩
    · cases run
  | subscribe topics =>
    cases Option.some.inj run
    exact tracks.subscribe documented topics
  | unsubscribe =>
    cases Option.some.inj run
    exact tracks.unsubscribe documented
  | assignment action =>
    cases Option.some.inj run
    exact tracks.call documented action

end
end ConsumerSession

/-- As long as every Connect that gets a handle finds no subscription and no
partitions left over, what the consumer keeps is about the present handle. -/
theorem sessions_current {σ : Type} {lib : Librdkafka σ} {assigned : σ → Multiset PartitionKey}
    (documented : lib.Documented assigned) {token : Option OauthBearerToken}
    {trace : List SessionAction} {s : ConsumerSession σ}
    (reach : ReachWhile (ConsumerSession.Fresh lib) (ConsumerSession.step lib)
      (ConsumerSession.initial token) trace s) : s.Current assigned := by
  have tracks : s.Tracks assigned :=
    reach.invariant (ConsumerSession.Tracks assigned)
      ⟨by simp [ConsumerSession.initial], by simp [ConsumerSession.initial], rfl⟩
      fun fresh tracks run => tracks.step documented fresh run
  exact tracks.current

/-- Any other Connect that gets a handle leaves a state that is not about it. -/
theorem connect_stale {σ : Type} {lib : Librdkafka σ} {assigned : σ → Multiset PartitionKey}
    (documented : lib.Documented assigned) {s : ConsumerSession σ}
    (stale : ¬ConsumerSession.Fresh lib s .connect) (settled : s.consumer.mIsClosing = false) :
    ¬(s.connect lib).Current assigned := by
  intro current
  simp only [ConsumerSession.Fresh, forall_const, not_forall] at stale
  obtain ⟨closed, handle, leftover⟩ := stale
  rcases s.connect_cases lib with ⟨connected, _⟩ | ⟨_, connects⟩
  · rw [connected] at closed
    cases closed
  · rw [connects] at current
    have made := KafkaConsumer.connectClient_created documented s.consumer s.creates
    have has : (s.consumer.connectClient lib (lib.create s.creates)).1.mClient.isSome = true :=
      made.made.trans handle
    apply leftover
    constructor
    · cases flag : s.consumer.mIsSubscribed with
      | false => rfl
      | true =>
        have subscribed :
            (s.consumer.connectClient lib (lib.create s.creates)).1.isSubscribed = true := by
          simp [KafkaConsumer.isSubscribed, KafkaConsumer.isConnected, made.isClosing, settled, has,
            made.isSubscribed, flag]
        exact (current.subscribed subscribed).symm
    · obtain ⟨client, present⟩ := Option.isSome_iff_exists.mp has
      have none_ := current.partitions client present
      rw [made.partitions, made.unassigned client present, Multiset.le_zero] at none_
      simpa [partitionKeys] using none_

/-- A librdkafka without a group: a table, whatever its protocol. -/
theorem tableLibrdkafka_documented (protocol : String) :
    (tableLibrdkafka protocol).Documented partitionKeys where
  toAssigns := tableLibrdkafka_assigns protocol
  create _ client made := by
    cases Option.some.inj made
    rfl
  setToken _ _ := rfl
  resume _ _ := rfl
  subscribe _ _ := rfl
  unsubscribe _ := rfl

def sessionPartition : TopicPartition := { topic := "t", partition := 0, offset := 0 }

/-- Two connections, the first left without subscription and assignment. -/
def tidySessions : List SessionAction :=
  [.connect, .subscribe ["t"], .assignment (.assign [sessionPartition]), .assignment .unassign,
   .unsubscribe, .beginDisconnect, .closeClient, .endDisconnect, .connect, .subscribe ["t"]]

theorem sessions_current_tidy :
    ∃ s, ReachWhile (ConsumerSession.Fresh (tableLibrdkafka "EAGER"))
        (ConsumerSession.step (tableLibrdkafka "EAGER")) (ConsumerSession.initial none) tidySessions s ∧
      s.consumer.isSubscribed = true ∧ s.creates = 2 ∧ s.Current partitionKeys := by
  have outcome : (replayWhile (ConsumerSession.Fresh (tableLibrdkafka "EAGER"))
      (ConsumerSession.step (tableLibrdkafka "EAGER")) (ConsumerSession.initial none) tidySessions).map
        (fun s => (s.consumer.isSubscribed, s.creates)) = some (true, 2) := by decide +kernel
  obtain ⟨s, run, result⟩ := Option.map_eq_some_iff.mp outcome
  have reach := ReachWhile.of_replayWhile run
  simp only [Prod.mk.injEq] at result
  exact ⟨s, reach, result.1, result.2, sessions_current (tableLibrdkafka_documented "EAGER") reach⟩

/-- The second connection has the subscription and the partition of the
first, and asks for the partition to be resumed. -/
theorem sessions_stale_after_reconnect :
    ∃ s, Reach (ConsumerSession.step (tableLibrdkafka "EAGER")) (ConsumerSession.initial none)
        [.connect, .subscribe ["t"], .assignment (.assign [sessionPartition]), .beginDisconnect,
         .closeClient, .endDisconnect, .connect] s ∧
      s.consumer.isSubscribed = true ∧ s.clientSubscribed = false ∧
      s.consumer.mPartitions = [sessionPartition] ∧ s.consumer.mClient = some [] ∧
      s.resumed = [sessionPartition] ∧ ¬s.Current partitionKeys := by
  refine ⟨_, reach_iff_replay.mpr rfl, rfl, rfl, rfl, rfl, rfl, fun current => ?_⟩
  exact absurd current.resumed (by decide)

end NodeRdkafka
