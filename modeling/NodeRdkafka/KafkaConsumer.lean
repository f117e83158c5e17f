import Mathlib.Data.Multiset.UnionInter
import NodeRdkafka.Errors
import NodeRdkafka.TopicPartition

namespace NodeRdkafka

/-- A RdKafka::Error, which a successful call does not return. -/
structure RdError where
  code : ErrorCode
  str : String
  isFatal : Bool := false
  isRetriable : Bool := false
  txnRequiresAbort : Bool := false
  deriving DecidableEq

structure OauthBearerToken where
  token : String
  expiry : Int64
  deriving DecidableEq

/-- The part of librdkafka that a consumer uses: what each call on a handle
answers, and what it makes of the state of the handle. `create` answers the
n-th attempt to make one, with an error text. -/
structure Librdkafka (σ : Type) where
  create : Nat → Option σ × String
  setToken : σ → OauthBearerToken → ErrorCode × String × σ
  resume : σ → List TopicPartition → σ
  subscribe : σ → List String → ErrorCode × σ
  unsubscribe : σ → σ
  assign : σ → List TopicPartition → ErrorCode × σ
  unassign : σ → ErrorCode × σ
  incrementalAssign : σ → List TopicPartition → Option RdError × σ
  incrementalUnassign : σ → List TopicPartition → Option RdError × σ
  assignment : σ → ErrorCode × List TopicPartition
  rebalanceProtocol : σ → String
  /-- RdKafka::TopicPartition::destroy, by what it leaves of the vector. -/
  destroy : List TopicPartition → List TopicPartition

/-- The members of a KafkaConsumer. The constructor leaves m_partition_cnt
uninitialised, which is none. It is an int and an unbounded one here: what it
counts are entries of a vector, each an object with the name of its topic, and
2^31 of them do not fit into the memory of a process. -/
structure KafkaConsumer (σ : Type) where
  mClient : Option σ := none
  mIsClosing : Bool := false
  mInitOauthToken : Option OauthBearerToken := none
  mPartitions : List TopicPartition := []
  mPartitionCnt : Option Int := none
  mIsSubscribed : Bool := false

namespace KafkaConsumer
section
variable {σ : Type} (lib : Librdkafka σ)

def isConnected (c : KafkaConsumer σ) : Bool := !c.mIsClosing && c.mClient.isSome

def isClosing (c : KafkaConsumer σ) : Bool := c.mClient.isSome && c.mIsClosing

def isSubscribed (c : KafkaConsumer σ) : Bool := c.isConnected && c.mIsSubscribed

def rdkafkaErrorToBaton : Option RdError → Baton Unit
  | none => .ofCode ErrorCode.errNoError
  | some error => .ofTxn error.code error.str error.isFatal error.isRetriable error.txnRequiresAbort

/-- Connect between its check and the resume: the handle and its token. -/
def createClient (c : KafkaConsumer σ) (created : Option σ × String) : KafkaConsumer σ × Baton Unit :=
  match created with
  | (none, errstr) => ({ c with mClient := none }, .ofErrstr ErrorCode.errState errstr)
  | (some client, errstr) =>
    if errstr ≠ "" then ({ c with mClient := some client }, .ofErrstr ErrorCode.errState errstr)
    else
      match c.mInitOauthToken with
      | none => ({ c with mClient := some client }, .ofCode ErrorCode.errNoError)
      | some token =>
        let (err, errstr, client) := lib.setToken client token
        let c := { c with mClient := some client, mInitOauthToken := none }
        if err ≠ ErrorCode.errNoError then (c, .ofErrstr err errstr) else (c, .ofCode err)

/-- The part of Connect past its check. The partitions of the consumer are
resumed on the new handle. -/
def connectClient (c : KafkaConsumer σ) (created : Option σ × String) : KafkaConsumer σ × Baton Unit :=
  let (c, baton) := c.createClient lib created
  if baton.err ≠ ErrorCode.errNoError then (c, baton)
  else if c.mPartitions = [] then (c, .ofCode ErrorCode.errNoError)
  else
    ({ c with mClient := c.mClient.map (lib.resume · c.mPartitions) }, .ofCode ErrorCode.errNoError)

def connect (c : KafkaConsumer σ) (created : Option σ × String) : KafkaConsumer σ × Baton Unit :=
  if c.isConnected then (c, .ofCode ErrorCode.errNoError) else c.connectClient lib created

def startClosing (c : KafkaConsumer σ) : KafkaConsumer σ := { c with mIsClosing := true }

/-- The client is closed and deleted under the lock. -/
def closeClient (c : KafkaConsumer σ) : KafkaConsumer σ := { c with mClient := none }

def endDisconnect (c : KafkaConsumer σ) : KafkaConsumer σ := { c with mIsClosing := false }

/-- Disconnect up to the call of close: whether there is a client to close. -/
def beginDisconnect (c : KafkaConsumer σ) : KafkaConsumer σ × Bool :=
  if c.isConnected then (c.startClosing, true) else (c.endDisconnect, false)

def assign (c : KafkaConsumer σ) (partitions : List TopicPartition) : KafkaConsumer σ × Baton Unit :=
  match c.isConnected, c.mClient with
  | true, some client =>
    let (errcode, client) := lib.assign client partitions
    if errcode = ErrorCode.errNoError then
      ({ c with mClient := some client, mPartitionCnt := some partitions.length,
                mPartitions := partitions }, .ofCode errcode)
    else ({ c with mClient := some client }, .ofCode errcode)
  | _, _ => (c, .ofErrstr ErrorCode.errState "KafkaConsumer is disconnected")

def unassign (c : KafkaConsumer σ) : KafkaConsumer σ × Baton Unit :=
  match c.isClosing || c.isConnected, c.mClient with
  | true, some client =>
    let (errcode, client) := lib.unassign client
    if errcode = ErrorCode.errNoError then
      ({ c with mClient := some client, mPartitions := lib.destroy c.mPartitions, mPartitionCnt := some 0 },
        .ofCode ErrorCode.errNoError)
    else ({ c with mClient := some client }, .ofCode errcode)
  | _, _ => (c, .ofCode ErrorCode.errState)

def incrementalAssign (c : KafkaConsumer σ) (partitions : List TopicPartition) :
    KafkaConsumer σ × Baton Unit :=
  match c.isConnected, c.mClient with
  | true, some client =>
    let (error, client) := lib.incrementalAssign client partitions
    if error.isNone then
      ({ c with mClient := some client, mPartitionCnt := c.mPartitionCnt.map (· + partitions.length),
                mPartitions := c.mPartitions ++ partitions }, rdkafkaErrorToBaton error)
    else ({ c with mClient := some client }, rdkafkaErrorToBaton error)
  | _, _ => (c, .ofErrstr ErrorCode.errState "KafkaConsumer is disconnected")

end

/-- The comparison of the nested loops of IncrementalUnassign. -/
def samePartition (p q : TopicPartition) : Bool := p.partition = q.partition ∧ p.topic = q.topic

/-- The inner loop: the first match is erased and counted. -/
def erasePartition (mirror : List TopicPartition × Option Int) (p : TopicPartition) :
    List TopicPartition × Option Int :=
  if mirror.1.any (samePartition p) then
    (mirror.1.eraseP (samePartition p), mirror.2.map (· - 1))
  else mirror

section
variable {σ : Type} (lib : Librdkafka σ)

def incrementalUnassign (c : KafkaConsumer σ) (partitions : List TopicPartition) :
    KafkaConsumer σ × Baton Unit :=
  match c.isClosing || c.isConnected, c.mClient with
  | true, some client =>
    let (error, client) := lib.incrementalUnassign client partitions
    if error.isNone then
      let (remaining, mPartitionCnt) := partitions.foldl erasePartition (c.mPartitions, c.mPartitionCnt)
      ({ c with mClient := some client, mPartitions := remaining, mPartitionCnt },
        rdkafkaErrorToBaton error)
    else ({ c with mClient := some client }, rdkafkaErrorToBaton error)
  | _, _ => (c, .ofCode ErrorCode.errState)

def refreshAssignments (c : KafkaConsumer σ) : KafkaConsumer σ × Baton Unit :=
  match c.isConnected, c.mClient with
  | true, some client =>
    let (err, partitionList) := lib.assignment client
    if err = ErrorCode.errNoError then
      ({ c with mPartitionCnt := some partitionList.length, mPartitions := partitionList },
        .ofCode ErrorCode.errNoError)
    else (c, .ofCode err)
  | _, _ => (c, .ofCode ErrorCode.errState)

def subscribe (c : KafkaConsumer σ) (topics : List String) : KafkaConsumer σ × Baton Unit :=
  match c.isConnected, c.mClient with
  | true, some client =>
    let (errcode, client) := lib.subscribe client topics
    if errcode = ErrorCode.errNoError then
      ({ c with mClient := some client, mIsSubscribed := true }, .ofCode ErrorCode.errNoError)
    else ({ c with mClient := some client }, .ofCode errcode)
  | _, _ => (c, .ofCode ErrorCode.errState)

def unsubscribe (c : KafkaConsumer σ) : KafkaConsumer σ × Baton Unit :=
  match c.isSubscribed, c.mClient with
  | true, some client =>
    ({ c with mClient := some (lib.unsubscribe client), mIsSubscribed := false },
      .ofCode ErrorCode.errNoError)
  | _, _ => (c, .ofCode ErrorCode.errNoError)

def rebalanceProtocol (c : KafkaConsumer σ) : String :=
  match c.isConnected, c.mClient with
  | true, some client => lib.rebalanceProtocol client
  | _, _ => "NONE"

end
end KafkaConsumer

/-- How librdkafka and JavaScript tell partitions apart. -/
abbrev PartitionKey := String × Int32

def TopicPartition.key (tp : TopicPartition) : PartitionKey := (tp.topic, tp.partition)

/-- A list of partitions without regard to order and offsets. -/
def partitionKeys (list : List TopicPartition) : Multiset PartitionKey := (list.map (·.key) : List _)

/-- What the calls of librdkafka do to the assignment of a handle, `assigned`. -/
structure Librdkafka.Assigns {σ : Type} (lib : Librdkafka σ) (assigned : σ → Multiset PartitionKey) :
    Prop where
  assign : ∀ client list, (lib.assign client list).1 = ErrorCode.errNoError →
    (partitionKeys list).Nodup ∧ assigned (lib.assign client list).2 = partitionKeys list
  assign_failed : ∀ client list, (lib.assign client list).1 ≠ ErrorCode.errNoError →
    assigned (lib.assign client list).2 = assigned client
  unassign : ∀ client, (lib.unassign client).1 = ErrorCode.errNoError →
    assigned (lib.unassign client).2 = 0
  unassign_failed : ∀ client, (lib.unassign client).1 ≠ ErrorCode.errNoError →
    assigned (lib.unassign client).2 = assigned client
  incrementalAssign : ∀ client list, (lib.incrementalAssign client list).1 = none →
    (partitionKeys list).Nodup ∧ Disjoint (partitionKeys list) (assigned client) ∧
      assigned (lib.incrementalAssign client list).2 = assigned client + partitionKeys list
  incrementalAssign_failed : ∀ client list, (lib.incrementalAssign client list).1 ≠ none →
    assigned (lib.incrementalAssign client list).2 = assigned client
  incrementalUnassign : ∀ client list, (lib.incrementalUnassign client list).1 = none →
    (partitionKeys list).Nodup ∧ partitionKeys list ≤ assigned client ∧
      assigned (lib.incrementalUnassign client list).2 = assigned client - partitionKeys list
  incrementalUnassign_failed : ∀ client list, (lib.incrementalUnassign client list).1 ≠ none →
    assigned (lib.incrementalUnassign client list).2 = assigned client
  assignment : ∀ client, (lib.assignment client).1 = ErrorCode.errNoError →
    partitionKeys (lib.assignment client).2 = assigned client
  destroy : ∀ list, lib.destroy list = []

/-- No other call changes it, and a new handle has none. -/
structure Librdkafka.Documented {σ : Type} (lib : Librdkafka σ)
    (assigned : σ → Multiset PartitionKey) : Prop extends lib.Assigns assigned where
  create : ∀ n client, (lib.create n).1 = some client → assigned client = 0
  setToken : ∀ client token, assigned (lib.setToken client token).2.2 = assigned client
  resume : ∀ client list, assigned (lib.resume client list) = assigned client
  subscribe : ∀ client topics, assigned (lib.subscribe client topics).2 = assigned client
  unsubscribe : ∀ client, assigned (lib.unsubscribe client) = assigned client

end NodeRdkafka
