import NodeRdkafka.NativeConnect
import NodeRdkafka.Rebalance

namespace NodeRdkafka
open Transition

namespace NativeClient
variable {σ : Type} (lib : Librdkafka σ)

def setConnection (connection : NativeConnection σ) : NativeClient σ → NativeClient σ
  | .producer _ => .producer connection
  | .consumer c =>
    .consumer { c with
      mClient := connection.mClient
      mIsClosing := connection.mIsClosing
      mInitOauthToken := connection.mInitOauthToken }
  | .admin a => .admin { a with connection }

/-- Whether Connect asks librdkafka for a handle; AdminClient::Connect always does. -/
def attempts (client : NativeClient σ) : Bool :=
  match client with
  | .producer _ | .consumer _ => !client.connection.isConnected
  | .admin _ => true

/-- The token that a Connect gives to the handle that it makes, if librdkafka takes it. -/
def offered (client : NativeClient σ) (created : Option σ × String) : Option OauthBearerToken :=
  match created with
  | (none, _) => none
  | (some handle, errstr) =>
    if client.readsErrstr = true ∧ errstr ≠ "" then none
    else client.connection.mInitOauthToken.filter fun token => (lib.setToken handle token).1 = ErrorCode.errNoError

end NativeClient

/-- A native client with the tokens that the application gives it. `given` is the last one
that setOauthBearerToken took, `held` the one that the present handle has, and `made` records
both for each handle as its Connect leaves it. -/
structure TokenSession (σ : Type) where
  client : NativeClient σ
  creates : Nat := 0
  given : Option OauthBearerToken := none
  held : Option OauthBearerToken := none
  made : List (Option OauthBearerToken × Option OauthBearerToken) := []

/-- The calls, and the parts of a Disconnect: the closing flag and the end of the handle. -/
inductive TokenAction
  | setOauthBearerToken (tokenStr : JsValue)
  | connect
  | closing (mIsClosing : Bool)
  | closeClient

namespace TokenSession
section
variable {σ : Type} (lib : Librdkafka σ)

def connection (s : TokenSession σ) : NativeConnection σ := s.client.connection

def created (s : TokenSession σ) : Option σ × String := lib.create s.creates

/-- The expiry of all tokens, the greatest int64 over 100000. -/
def expiry : Int64 := 9223372036854775807 / 100000

/-- NodeSetToken: without a handle the token is kept for the next Connect. -/
def setToken (s : TokenSession σ) (token : OauthBearerToken) : TokenSession σ :=
  match s.connection.mClient with
  | none =>
    { s with client := s.client.setConnection { s.connection with mInitOauthToken := some token }, given := some token }
  | some handle =>
    let (err, _, handle) := lib.setToken handle token
    let s := { s with client := s.client.setConnection { s.connection with mClient := some handle } }
    -- Otherwise the call throws the text of the error.
    if err = ErrorCode.errNoError then { s with given := some token, held := some token } else s

/-- setOauthBearerToken and refreshOauthBearerToken throw without a text. -/
def setOauthBearerToken (s : TokenSession σ) : JsValue → TokenSession σ
  | .string token => if token.isEmpty then s else s.setToken lib { token, expiry }
  | _ => s

def connect (s : TokenSession σ) : TokenSession σ :=
  let client := (s.client.connect lib (s.created lib)).1
  if s.client.attempts then
    let held := s.client.offered lib (s.created lib)
    { s with
      client
      creates := s.creates + 1
      held
      made := if (s.created lib).1.isSome then s.made ++ [(s.given, held)] else s.made }
  else { s with client }

def step (s : TokenSession σ) : TokenAction → Option (TokenSession σ)
  | .setOauthBearerToken tokenStr => some (s.setOauthBearerToken lib tokenStr)
  | .connect => some (s.connect lib)
  | .closing mIsClosing => some { s with client := s.client.setConnection { s.connection with mIsClosing } }
  | .closeClient => some { s with client := s.client.setConnection { s.connection with mClient := none }, held := none }

/-- A Connect that makes a handle finds the token that was given last still stored, and
librdkafka takes it; or none was ever given. -/
def FindsToken (s : TokenSession σ) (action : TokenAction) : Prop :=
  action = .connect → s.client.attempts = true → ∀ handle, (s.created lib).1 = some handle →
    ∀ token, s.given = some token →
      ¬(s.client.readsErrstr = true ∧ (s.created lib).2 ≠ "") ∧
        s.connection.mInitOauthToken = some token ∧ (lib.setToken handle token).1 = ErrorCode.errNoError

end

section
variable {σ : Type} {lib : Librdkafka σ} {s t : TokenSession σ}

/-- Each handle got the token that had been given last. -/
def Current (s : TokenSession σ) : Prop := ∀ m ∈ s.made, m.2 = m.1

/-- What every run keeps. The last two hold as long as each handle got its token: the
present one has the last one given, and no other is stored. -/
structure Kept (s : TokenSession σ) : Prop where
  stored : s.given = none → s.connection.mInitOauthToken = none
  waiting : s.Current → s.connection.mClient = none → ∀ token, s.connection.mInitOauthToken = some token →
    s.given = some token
  held : s.Current → s.connection.mClient.isSome = true →
    s.held = s.given ∧ s.connection.mInitOauthToken = none

end
end TokenSession

namespace NativeClient
variable {σ : Type} {lib : Librdkafka σ} {client : NativeClient σ}

@[simp] theorem setConnection_connection (connection : NativeConnection σ) :
    (client.setConnection connection).connection = connection := by
  cases client <;> rfl

/-- What the Connects share leaves a handle if one was made, and uses up the token. -/
theorem connectClient_made (lib : Librdkafka σ) (c : NativeConnection σ) (readsErrstr : Bool) (created : Option σ × String) :
    (c.connectClient lib readsErrstr created).1.mClient.isSome = created.1.isSome ∧
      (c.connectClient lib readsErrstr created).1.mInitOauthToken =
        if created.1.isSome = true ∧ ¬(readsErrstr = true ∧ created.2 ≠ "") then none
        else c.mInitOauthToken := by
  obtain ⟨made, errstr⟩ := created
  cases made with
  | none => simp [NativeConnection.connectClient]
  | some handle =>
    rw [NativeConnection.connectClient_some]
    by_cases text : readsErrstr = true ∧ errstr ≠ ""
    · simp [text]
    · rw [if_neg text, if_pos ⟨rfl, text⟩, NativeConnection.giveToken]
      cases stored : c.mInitOauthToken with
      | none => simp
      | some token => by_cases taken : (lib.setToken handle token).1 = ErrorCode.errNoError <;> simp [taken]

theorem connect_connection (attempts : client.attempts = true) (created : Option σ × String) :
    (client.connect lib created).1.connection.mClient.isSome = created.1.isSome ∧
      (client.connect lib created).1.connection.mInitOauthToken =
        if created.1.isSome = true ∧ ¬(client.readsErrstr = true ∧ created.2 ≠ "") then none
        else client.connection.mInitOauthToken := by
  cases client with
  | producer p =>
    have missing : p.isConnected = false := by simpa [NativeClient.attempts, connection] using attempts
    have shared := connectClient_made lib p false created
    simpa [connect, Producer.connect, missing, connection, readsErrstr] using shared
  | consumer c =>
    have missing : c.isConnected = false := by
      rw [NativeClient.attempts, Bool.not_eq_true'] at attempts
      exact attempts
    have shared := connectClient_made lib c.connection true created
    rw [← (c.createClient_shared lib created).1] at shared
    simp only [connect, KafkaConsumer.connect, missing, KafkaConsumer.connectClient, Bool.false_eq_true, if_false,
      connection, readsErrstr, Prod.map_fst, true_and]
    simp only [true_and] at shared
    split
    · exact shared
    · split
      · exact shared
      · exact ⟨by simpa [KafkaConsumer.connection] using shared.1, shared.2⟩
  | admin a =>
    have shared := connectClient_made lib a.connection true created
    simp only [connect, AdminClient.connect, connection, readsErrstr, Prod.map_fst, true_and]
    simp only [true_and] at shared
    split <;> exact shared

theorem connect_refused (attempts : client.attempts = false) (created : Option σ × String) :
    (client.connect lib created).1 = client := by
  cases client with
  | producer p =>
    have connected : p.isConnected = true := by simpa [NativeClient.attempts, connection] using attempts
    simp [connect, Producer.connect, connected]
  | consumer c =>
    have connected : c.isConnected = true := by
      simpa [NativeClient.attempts, connection, KafkaConsumer.connection, NativeConnection.isConnected,
        KafkaConsumer.isConnected] using attempts
    simp [connect, KafkaConsumer.connect, connected]
  | admin a => cases attempts

end NativeClient

namespace TokenSession
variable {σ : Type} {lib : Librdkafka σ} {s t : TokenSession σ}

theorem offered_eq_given_iff (kept : s.Kept) {handle : σ} (made : (s.created lib).1 = some handle) :
    s.client.offered lib (s.created lib) = s.given ↔ ∀ token, s.given = some token →
      ¬(s.client.readsErrstr = true ∧ (s.created lib).2 ≠ "") ∧
        s.connection.mInitOauthToken = some token ∧ (lib.setToken handle token).1 = ErrorCode.errNoError := by
  have same : s.created lib = (some handle, (s.created lib).2) := Prod.ext made rfl
  generalize (s.created lib).2 = errstr at same
  rw [same]
  cases given : s.given with
  | none =>
    have nothing : s.client.connection.mInitOauthToken = none := kept.stored given
    simp [NativeClient.offered, nothing]
  | some token =>
    by_cases text : s.client.readsErrstr = true ∧ errstr ≠ ""
    · simp only [NativeClient.offered, if_pos text]
      simp [text]
    · simp only [NativeClient.offered, if_neg text]
      simp [text, Option.filter_eq_some_iff, connection]

theorem Kept.setToken (kept : s.Kept) (token : OauthBearerToken) :
    (s.setToken lib token).Kept ∧ (s.setToken lib token).made = s.made := by
  unfold TokenSession.setToken
  cases has : s.connection.mClient with
  | none =>
    dsimp only
    refine ⟨⟨nofun, fun _ _ other same => ?_, fun _ there => ?_⟩, rfl⟩
    · simpa [connection] using same
    · have handle : s.connection.mClient.isSome = true := by simpa [connection] using there
      simp [has] at handle
  | some handle =>
    dsimp only
    split
    · refine ⟨⟨nofun, fun _ none => ?_, fun current _ => ⟨rfl, ?_⟩⟩, rfl⟩
      · simp [connection] at none
      · have used := (kept.held current (by simp [has])).2
        simpa [connection] using used
    · refine ⟨⟨fun none => ?_, fun _ none => ?_, fun current _ => ?_⟩, rfl⟩
      · have nothing := kept.stored none
        simpa [connection] using nothing
      · simp [connection] at none
      · have used := kept.held current (by simp [has])
        simpa [connection] using used

theorem Kept.setOauthBearerToken (kept : s.Kept) (tokenStr : JsValue) :
    (s.setOauthBearerToken lib tokenStr).Kept ∧ (s.setOauthBearerToken lib tokenStr).made = s.made := by
  unfold TokenSession.setOauthBearerToken
  split
  · split
    · exact ⟨kept, rfl⟩
    · exact kept.setToken _
  · exact ⟨kept, rfl⟩

theorem connect_refused (refused : s.client.attempts = false) : s.connect lib = s := by
  rw [TokenSession.connect, refused, NativeClient.connect_refused refused]
  rfl

/-- A Connect records its handle with the token that it got. -/
theorem connect_made (lib : Librdkafka σ) (attempts : s.client.attempts = true) : (s.connect lib).made =
    if (s.created lib).1.isSome = true then s.made ++ [(s.given, s.client.offered lib (s.created lib))]
    else s.made := by
  rw [TokenSession.connect, attempts, if_pos rfl]

theorem connect_current (kept : s.Kept) : (s.connect lib).Current ↔ s.Current ∧ s.FindsToken lib .connect := by
  cases attempts : s.client.attempts with
  | false =>
    rw [connect_refused attempts]
    simp [FindsToken, attempts]
  | true =>
    rw [Current, connect_made lib attempts]
    cases made : (s.created lib).1 with
    | none => simp [Current, FindsToken, made]
    | some handle =>
      have finds := offered_eq_given_iff kept made
      simp only [Option.isSome_some, if_true, List.mem_append, List.mem_singleton, or_imp, forall_and, forall_eq,
        FindsToken, attempts, made, Option.some.injEq, forall_eq', true_imp_iff, finds, Current]

theorem Kept.connect (kept : s.Kept) : (s.connect lib).Kept := by
  cases attempts : s.client.attempts with
  | false => rwa [connect_refused attempts]
  | true =>
    obtain ⟨there, used⟩ := NativeClient.connect_connection attempts (s.created lib)
    have stays : ∀ token, s.Current → s.connection.mInitOauthToken = some token → s.given = some token := by
      intro token current stored
      cases has : s.connection.mClient with
      | none => exact kept.waiting current has token stored
      | some handle => simp [(kept.held current (by simp [has])).2] at stored
    have connection : (s.connect lib).connection = (s.client.connect lib (s.created lib)).1.connection := by
      rw [TokenSession.connect, attempts, if_pos rfl]
      rfl
    have given : (s.connect lib).given = s.given := by
      rw [TokenSession.connect, attempts, if_pos rfl]
    have held : (s.connect lib).held = s.client.offered lib (s.created lib) := by
      rw [TokenSession.connect, attempts, if_pos rfl]
    refine ⟨fun never => ?_, fun current gone token stored => ?_, fun current made' => ?_⟩
    · have nothing : s.client.connection.mInitOauthToken = none := kept.stored (given.symm.trans never)
      rw [connection, used, nothing, ite_self]
    · rw [connection, ← Option.isNone_iff_eq_none, ← Option.not_isSome, Bool.not_eq_true', there] at gone
      rw [connection, used, if_neg (by simp [gone])] at stored
      rw [given]
      exact stays token ((connect_current kept).mp current).1 stored
    · rw [connection, there] at made'
      have got : s.client.offered lib (s.created lib) = s.given := by
        have last := connect_made lib attempts
        rw [if_pos made'] at last
        exact current (s.given, s.client.offered lib (s.created lib)) (last ▸ List.mem_append_right _ List.mem_cons_self)
      refine ⟨held.trans (got.trans given.symm), ?_⟩
      rw [connection, used]
      split
      · rfl
      · rename_i unread
        obtain ⟨handle, made⟩ := Option.isSome_iff_exists.mp made'
        cases last : s.given with
        | none => exact kept.stored last
        | some token =>
          have finds := ((offered_eq_given_iff kept made).mp got token last).1
          exact absurd ⟨made', finds⟩ unread

theorem Kept.step {action : TokenAction} (kept : s.Kept) (run : s.step lib action = some t) : t.Kept := by
  cases action with
  | setOauthBearerToken tokenStr => exact Option.some.inj run ▸ (kept.setOauthBearerToken tokenStr).1
  | connect => exact Option.some.inj run ▸ kept.connect
  | closing mIsClosing =>
    cases Option.some.inj run
    refine ⟨by simpa [connection] using kept.stored, fun current none => ?_, fun current there => ?_⟩
    · have waiting := kept.waiting current (by simpa [connection] using none)
      simpa [connection] using waiting
    · have held := kept.held current (by simpa [connection] using there)
      simpa [connection] using held
  | closeClient =>
    cases Option.some.inj run
    refine ⟨by simpa [connection] using kept.stored, fun current none token stored => ?_, fun _ there => ?_⟩
    · have stored' : s.connection.mInitOauthToken = some token := by simpa [connection] using stored
      cases has : s.connection.mClient with
      | none => exact kept.waiting current has token stored'
      | some handle =>
        have used := (kept.held current (by simp [has])).2
        simp [used] at stored'
    · simp [connection] at there

theorem step_current {action : TokenAction} (kept : s.Kept) (run : s.step lib action = some t) :
    t.Current ↔ s.Current ∧ s.FindsToken lib action := by
  cases action with
  | setOauthBearerToken tokenStr =>
    cases Option.some.inj run
    simp [Current, FindsToken, (kept.setOauthBearerToken tokenStr).2]
  | connect => exact Option.some.inj run ▸ connect_current kept
  | closing mIsClosing | closeClient =>
    cases Option.some.inj run
    simp [Current, FindsToken]

end TokenSession

/-- A token is given once, and the client connects twice. -/
def reconnectWithToken : List TokenAction :=
  [.setOauthBearerToken (.string "eyJ"), .connect, .closing true, .closeClient, .closing false, .connect]

end NodeRdkafka
