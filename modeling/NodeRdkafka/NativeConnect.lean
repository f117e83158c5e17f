import NodeRdkafka.KafkaConsumerAssignments

namespace NodeRdkafka

/-- The members of a Connection that Connect works on. -/
structure NativeConnection (σ : Type) where
  mClient : Option σ := none
  mIsClosing : Bool := false
  mInitOauthToken : Option OauthBearerToken := none

namespace NativeConnection
variable {σ : Type} (lib : Librdkafka σ)

def isConnected (c : NativeConnection σ) : Bool := !c.mIsClosing && c.mClient.isSome

/-- A stored token is given to the new client, and is gone before the answer is known. -/
def giveToken (c : NativeConnection σ) (client : σ) : NativeConnection σ × Baton Unit :=
  match c.mInitOauthToken with
  | none => ({ c with mClient := some client }, .ofCode ErrorCode.errNoError)
  | some token =>
    let (err, errstr, client) := lib.setToken client token
    let c := { c with mClient := some client, mInitOauthToken := none }
    if err ≠ ErrorCode.errNoError then (c, .ofErrstr err errstr) else (c, .ofCode ErrorCode.errNoError)

/-- What the Connects share past their check. Producer::Connect does not read
the error text once it has a client. -/
def connectClient (readsErrstr : Bool) (c : NativeConnection σ) (created : Option σ × String) :
    NativeConnection σ × Baton Unit :=
  match created with
  | (none, errstr) => ({ c with mClient := none }, .ofErrstr ErrorCode.errState errstr)
  | (some client, errstr) =>
    if readsErrstr && errstr ≠ "" then
      ({ c with mClient := some client }, .ofErrstr ErrorCode.errState errstr)
    else c.giveToken lib client

/-- A handle is made, and Connect returns an error all the same: for an error
text that came with the handle, or for a stored token that is refused. -/
def FailsWithHandle (readsErrstr : Bool) (c : NativeConnection σ) (created : Option σ × String) : Prop :=
  ∃ handle, created.1 = some handle ∧
    if readsErrstr = true ∧ created.2 ≠ "" then c.mIsClosing = false
    else ∃ token, c.mInitOauthToken = some token ∧ (lib.setToken handle token).1 ≠ ErrorCode.errNoError

end NativeConnection

/-- The members of an AdminClient, with the handle that its queue is for. -/
structure AdminClient (σ : Type) where
  connection : NativeConnection σ := {}
  rkqu : Option σ := none

section Connect
variable {σ : Type} (lib : Librdkafka σ)

def Producer.connect (p : NativeConnection σ) (created : Option σ × String) : NativeConnection σ × Baton Unit :=
  if p.isConnected then (p, .ofCode ErrorCode.errNoError) else p.connectClient lib false created

/-- There is no check whether the client is connected. -/
def AdminClient.connect (a : AdminClient σ) (created : Option σ × String) : AdminClient σ × Baton Unit :=
  let (connection, baton) := a.connection.connectClient lib true created
  if baton.err ≠ ErrorCode.errNoError then ({ a with connection }, baton)
  else ({ connection, rkqu := a.rkqu <|> connection.mClient }, baton)

def KafkaConsumer.connection (c : KafkaConsumer σ) : NativeConnection σ :=
  { mClient := c.mClient, mIsClosing := c.mIsClosing, mInitOauthToken := c.mInitOauthToken }

end Connect

/-- A native client that JavaScript can connect. -/
inductive NativeClient (σ : Type)
  | producer (p : NativeConnection σ)
  | consumer (c : KafkaConsumer σ)
  | admin (a : AdminClient σ)

namespace NativeClient
variable {σ : Type} (lib : Librdkafka σ)

def connection : NativeClient σ → NativeConnection σ
  | .producer p => p
  | .consumer c => c.connection
  | .admin a => a.connection

def readsErrstr : NativeClient σ → Bool
  | .producer _ => false
  | .consumer _ | .admin _ => true

def connect (created : Option σ × String) : NativeClient σ → NativeClient σ × Baton Unit
  | .producer p => (Producer.connect lib p created).map .producer id
  | .consumer c => (c.connect lib created).map .consumer id
  | .admin a => (a.connect lib created).map .admin id

/-- After an error the client is not connected, and has the token that it had
before: another Connect does the whole work again. -/
def Atomic (before after : NativeClient σ) (baton : Baton Unit) : Prop :=
  baton.err ≠ ErrorCode.errNoError →
    after.connection.isConnected = false ∧
      after.connection.mInitOauthToken = before.connection.mInitOauthToken

end NativeClient

namespace NativeConnection
variable {σ : Type} {lib : Librdkafka σ}

/-- The error of a Connect that has made a handle, and what is left of the token. -/
theorem giveToken_spec (lib : Librdkafka σ) (c : NativeConnection σ) (client : σ) :
    ((c.giveToken lib client).2.err ≠ ErrorCode.errNoError ↔
        ∃ token, c.mInitOauthToken = some token ∧ (lib.setToken client token).1 ≠ ErrorCode.errNoError) ∧
      ((c.giveToken lib client).2.err ≠ ErrorCode.errNoError →
        (c.giveToken lib client).1.mInitOauthToken ≠ c.mInitOauthToken) := by
  unfold giveToken
  cases stored : c.mInitOauthToken with
  | none => exact ⟨by simp [Baton.err, Baton.ofCode], by simp [Baton.err, Baton.ofCode]⟩
  | some token =>
    rcases answer : lib.setToken client token with ⟨err, errstr, after⟩
    simp only [answer]
    split
    · rename_i failed
      refine ⟨⟨fun _ => ⟨token, rfl, ?_⟩, fun _ => failed⟩, by simp⟩
      simpa [answer] using failed
    · rename_i passed
      refine ⟨⟨fun error => absurd rfl error, ?_⟩, fun error => absurd rfl error⟩
      rintro ⟨token', same, refused⟩
      cases Option.some.inj same
      rw [answer] at refused
      exact absurd refused passed

theorem connectClient_some (c : NativeConnection σ) (readsErrstr : Bool) (handle : σ) (errstr : String) :
    c.connectClient lib readsErrstr (some handle, errstr) =
      if readsErrstr = true ∧ errstr ≠ "" then
        ({ c with mClient := some handle }, .ofErrstr ErrorCode.errState errstr)
      else c.giveToken lib handle := by
  simp [connectClient]

/-- What the shared part leaves behind when it returns an error. -/
theorem connectClient_atomic_iff (c : NativeConnection σ) (readsErrstr : Bool) (created : Option σ × String) :
    ((c.connectClient lib readsErrstr created).2.err ≠ ErrorCode.errNoError →
        (c.connectClient lib readsErrstr created).1.isConnected = false ∧
          (c.connectClient lib readsErrstr created).1.mInitOauthToken = c.mInitOauthToken) ↔
      ¬ c.FailsWithHandle lib readsErrstr created := by
  obtain ⟨made, errstr⟩ := created
  cases made with
  | none => simp [connectClient, isConnected, FailsWithHandle]
  | some handle =>
    rw [connectClient_some]
    simp only [FailsWithHandle, Option.some.injEq, exists_eq_left']
    split
    · have error : ErrorCode.errState ≠ ErrorCode.errNoError := by decide
      simp [isConnected, Baton.err, Baton.ofErrstr, error]
    · obtain ⟨error, lost⟩ := giveToken_spec lib c handle
      rw [← error]
      exact ⟨fun atomic failed => lost failed (atomic failed).2, fun passed failed => absurd failed passed⟩

end NativeConnection

theorem KafkaConsumer.createClient_shared {σ : Type} (lib : Librdkafka σ) (c : KafkaConsumer σ)
    (created : Option σ × String) :
    (c.createClient lib created).1.connection = (c.connection.connectClient lib true created).1 ∧
      (c.createClient lib created).2.err = (c.connection.connectClient lib true created).2.err := by
  obtain ⟨made, errstr⟩ := created
  cases made with
  | none => exact ⟨rfl, rfl⟩
  | some client =>
    by_cases text : errstr = ""
    · simp only [createClient, NativeConnection.connectClient, NativeConnection.giveToken, connection, text]
      cases c.mInitOauthToken with
      | none => exact ⟨rfl, rfl⟩
      | some token =>
        by_cases refused : (lib.setToken client token).1 = ErrorCode.errNoError
        · simp [refused, Baton.err, Baton.ofCode]
        · simp [refused, Baton.err]
    · simp [createClient, NativeConnection.connectClient, connection, text]

namespace NativeClient
variable {σ : Type} {client : NativeClient σ}

/-- Each Connect returns the error of the shared part, and after an error it
has done nothing else. -/
theorem connect_shared (lib : Librdkafka σ) (created : Option σ × String)
    (disconnected : client.connection.isConnected = false) :
    (client.connect lib created).2.err =
        (client.connection.connectClient lib client.readsErrstr created).2.err ∧
      ((client.connect lib created).2.err ≠ ErrorCode.errNoError →
        (client.connect lib created).1.connection =
          (client.connection.connectClient lib client.readsErrstr created).1) := by
  cases client with
  | producer p =>
    have missing : p.isConnected = false := disconnected
    simp [connect, Producer.connect, missing, connection, readsErrstr]
  | admin a =>
    simp only [connect, AdminClient.connect, connection, readsErrstr]
    split
    · exact ⟨rfl, fun _ => rfl⟩
    · exact ⟨rfl, fun _ => rfl⟩
  | consumer c =>
    have missing : c.isConnected = false := disconnected
    obtain ⟨shared, error⟩ := c.createClient_shared lib created
    simp only [connect, KafkaConsumer.connect, missing, Bool.false_eq_true, if_false, KafkaConsumer.connectClient,
      connection, readsErrstr, ← error, ← shared]
    split
    · exact ⟨rfl, fun _ => rfl⟩
    · rename_i passed
      rw [not_not] at passed
      rw [passed]
      split <;> exact ⟨rfl, fun failed => absurd rfl failed⟩

end NativeClient

/-- Connect of a client that is not connected is atomic if and only if it does
not fail with a handle. -/
theorem connect_atomic_iff {σ : Type} (lib : Librdkafka σ) {client : NativeClient σ}
    {created : Option σ × String} (disconnected : client.connection.isConnected = false) :
    client.Atomic (client.connect lib created).1 (client.connect lib created).2 ↔
      ¬ client.connection.FailsWithHandle lib client.readsErrstr created := by
  obtain ⟨error, unchanged⟩ := NativeClient.connect_shared lib created disconnected
  rw [← NativeConnection.connectClient_atomic_iff, NativeClient.Atomic, ← error]
  constructor
  · intro atomic failed
    rw [← unchanged failed]
    exact atomic failed
  · intro atomic failed
    rw [unchanged failed]
    exact atomic failed

def storedToken : OauthBearerToken := { token := "eyJ", expiry := 92233720368547 }

/-- A librdkafka without memory that refuses to make a handle once. -/
theorem connect_atomic_no_handle :
    (NativeClient.producer { mInitOauthToken := some storedToken }).Atomic
      (NativeClient.connect (tableLibrdkafka "NONE") (none, "No such file")
        (.producer { mInitOauthToken := some storedToken })).1
      (NativeClient.connect (tableLibrdkafka "NONE") (none, "No such file")
        (.producer { mInitOauthToken := some storedToken })).2 :=
  (connect_atomic_iff (tableLibrdkafka "NONE") rfl).mpr fun ⟨_, made, _⟩ => by cases made

/-- A librdkafka that refuses every token. -/
def refusingLibrdkafka : Librdkafka (List TopicPartition) :=
  { tableLibrdkafka "NONE" with setToken := fun handle _ => (ErrorCode.errInvalidArg, "Invalid token", handle) }

/-- A producer whose stored token is refused: Connect returns the error and
leaves the producer connected without a token, and the next Connect succeeds
at once, with no token on the handle. -/
theorem refused_token_leaves_handle :
    (Producer.connect refusingLibrdkafka { mInitOauthToken := some storedToken } (some [], "")).2.err =
        ErrorCode.errInvalidArg ∧
      (Producer.connect refusingLibrdkafka { mInitOauthToken := some storedToken } (some [], "")).1 =
        { mClient := some [], mInitOauthToken := none } ∧
      (Producer.connect refusingLibrdkafka { mClient := some [], mInitOauthToken := none } (none, "")).2.err =
        ErrorCode.errNoError ∧
      ¬ (NativeClient.producer { mInitOauthToken := some storedToken }).Atomic
        (NativeClient.connect refusingLibrdkafka (some [], "")
          (.producer { mInitOauthToken := some storedToken })).1
        (NativeClient.connect refusingLibrdkafka (some [], "")
          (.producer { mInitOauthToken := some storedToken })).2 := by
  refine ⟨rfl, rfl, rfl, fun atomic => ?_⟩
  have lost := (atomic (by decide)).2
  cases lost

end NodeRdkafka
