import Mathlib.Order.WellFounded
import NodeRdkafka.Lib.LockedThreads

namespace NodeRdkafka
open LockedThreads

/-- The members of a Connection that its methods share across threads. A handle is
the number of its creation, and `live` are the handles that have not been deleted.
Reads and writes of the members are atomic here. -/
structure SharedConnection where
  mClient : Option Nat := none
  mIsClosing : Bool := false
  created : Nat := 0
  live : List Nat := []
  deriving DecidableEq

namespace SharedConnection

def isConnected (s : SharedConnection) : Bool := !s.mIsClosing && s.mClient.isSome

def isClosing (s : SharedConnection) : Bool := s.mClient.isSome && s.mIsClosing

/-- A method of a handle is called. It is undefined for a deleted handle. -/
def useHandle (handle : Nat) (s : SharedConnection) : Option SharedConnection :=
  if handle ∈ s.live then some s else none

/-- A method of `*m_client` is called, which is undefined for NULL too. -/
def useClient (s : SharedConnection) : Option SharedConnection :=
  match s.mClient with
  | some handle => s.useHandle handle
  | none => none

/-- `delete m_client`: nothing for NULL, undefined for a deleted handle. -/
def deleteClient (s : SharedConnection) : Option SharedConnection :=
  match s.mClient with
  | some handle => if handle ∈ s.live then some { s with live := s.live.erase handle } else none
  | none => some s

def clearClient (s : SharedConnection) : Option SharedConnection := some { s with mClient := none }

/-- `m_client = create(..)`, which answers NULL for a failure. What m_client pointed
to before is not deleted. -/
def createClient (succeeds : Bool) (s : SharedConnection) : Option SharedConnection :=
  if succeeds then
    some { s with mClient := some s.created, created := s.created + 1, live := s.created :: s.live }
  else some { s with mClient := none }

def setClosing (closing : Bool) (s : SharedConnection) : Option SharedConnection :=
  some { s with mIsClosing := closing }

/-- The handle of m_client, if any, is all there is. -/
def Consistent (s : SharedConnection) : Prop := s.live = s.mClient.toList

end SharedConnection
open SharedConnection

abbrev ConnectionCode := Code SharedConnection

namespace ConnectionCode

def ifConnected (yes no : ConnectionCode) : ConnectionCode :=
  .look fun s => if s.isConnected then yes else no

def ifClient (yes no : ConnectionCode) : ConnectionCode :=
  .look fun s => if s.mClient.isSome then yes else no

/-- The shape of most methods that lock: a check, the lock until the end of the
block, the check again, and then a call on m_client. -/
def doubleChecked (mode : Mode) (after refused : ConnectionCode) : ConnectionCode :=
  ifConnected (.lock mode (ifConnected (.act useClient (.unlock after)) (.unlock refused))) refused

/-- The shape of the methods that do not lock. -/
def unlocked : ConnectionCode := ifConnected (.act useClient .done) .done

/-- Connection::NodeSetToken, which reads m_client before it locks. -/
def setToken : ConnectionCode :=
  .look fun s =>
    match s.mClient with
    | none => .lock .write (.unlock .done)
    | some handle => .lock .write (.act (useHandle handle) (.unlock .done))

/-- Connection::CreateTopic, and what its callers do after it. -/
def createTopic (after refused : ConnectionCode) : ConnectionCode := doubleChecked .read after refused

def queryWatermarkOffsets : ConnectionCode := doubleChecked .read .done .done

def offsetsForTimes : ConnectionCode := doubleChecked .read .done .done

/-- Connection::GetMetadata. A topic that cannot be created is left out. -/
def getMetadata (named : Bool) : ConnectionCode :=
  let metadata := doubleChecked .read .done .done
  if named then createTopic metadata metadata else metadata

/-- The end of a Connect whose handle was created, for a token that waits for it:
the token is set under the write lock. -/
def giveToken (token : Bool) (after : ConnectionCode) : ConnectionCode :=
  if token then .lock .write (.act useClient (.unlock after)) else after

/-- AdminClient::Disconnect and Producer::Disconnect. The check is not made again
behind the lock. -/
def disconnect : ConnectionCode :=
  ifConnected (.lock .write (.act deleteClient (.act clearClient (.unlock .done)))) .done

end ConnectionCode

/-- Only the calls that connect, and for some classes those that disconnect, keep
out of each other's way. -/
inductive ConnectionRole
  | caller
  | lifecycle
  deriving DecidableEq

def connectionSystem {μ : Type} (role : μ → ConnectionRole) (code : μ → ConnectionCode) :
    System SharedConnection ConnectionRole μ where
  role := role
  code := code
  clash q r := q = .lifecycle ∧ r = .lifecycle
  clash_comm q r := by simp [and_comm]

/-- What a thread knows of the handles. -/
inductive ClientKnowledge
  | nothing
  | tidy
  | sound
  | present
  | absent
  | emptied
  deriving DecidableEq

namespace ClientKnowledge

def Holds : ClientKnowledge → SharedConnection → Prop
  | nothing, _ => True
  | tidy, s => s.mClient = none → s.live = []
  | sound, s => s.Consistent
  | present, s => s.Consistent ∧ s.mClient ≠ none
  | absent, s => s.Consistent ∧ s.mClient = none
  | emptied, s => s.live = []

/-- The knowledge that lasts while others run. `closing` is what m_is_closing is
known to be, which only a call of the life cycle knows. Where such a call is alone
to delete handles, it keeps what it knows without the lock. -/
def Lasts (solo : Bool) (closing : Option Bool) (held : Option Mode) : ClientKnowledge → Prop
  | nothing => closing = none
  | tidy => closing ≠ none ∧ held = none
  | sound => held ≠ none ∨ (closing ≠ none ∧ solo = true)
  | present => held ≠ none ∨ (closing ≠ none ∧ solo = true)
  | absent => closing ≠ none
  | emptied => held = some .write

/-- What a thread knows is so. -/
structure Known (closing : Option Bool) (k : ClientKnowledge) (s : SharedConnection) : Prop where
  closing : ∀ b, closing = some b → s.mIsClosing = b
  client : k.Holds s

/-- What a call knows when it starts. -/
def initial (solo : Bool) : ConnectionRole → ClientKnowledge
  | .caller => nothing
  | .lifecycle => if solo then sound else tidy

end ClientKnowledge
open ClientKnowledge

def ConnectionRole.closing : ConnectionRole → Option Bool
  | caller => none
  | lifecycle => some false

/-- The discipline of a piece of code, from what is known where it starts: every use of a
handle is known to be defined, handles are deleted under the write lock, and made
where there is known to be none. -/
inductive Disciplined (solo : Bool) : Option Bool → Option Mode → ClientKnowledge → ConnectionCode → Prop
  | done {closing k} (opened : closing ≠ some true) (kept : closing ≠ none → solo = true → k ≠ .tidy) :
      Disciplined solo closing none k .done
  | look {closing held k next} (know : SharedConnection → ClientKnowledge)
      (learns : ∀ s, Known closing k s → (know s).Holds s)
      (lasts : ∀ s, Known closing k s → (know s).Lasts solo closing held)
      (rest : ∀ s, Known closing k s → Disciplined solo closing held (know s) (next s)) :
      Disciplined solo closing held k (.look next)
  | lock {closing mode k next} (later : ClientKnowledge)
      (learns : ∀ s, k.Holds s → s.Consistent → later.Holds s) (lasts : later.Lasts solo closing (some mode))
      (rest : Disciplined solo closing (some mode) later next) :
      Disciplined solo closing none k (.lock mode next)
  | unlock {closing held k next} (later : ClientKnowledge) (holding : held ≠ none)
      (learns : ∀ s, k.Holds s → later.Holds s) (lasts : later.Lasts solo closing none)
      (restored : held = some .write → ∀ s, k.Holds s → s.Consistent)
      (rest : Disciplined solo closing none later next) : Disciplined solo closing held k (.unlock next)
  | use {closing held k effect next} (defined : ∀ s, k.Holds s → effect s = some s)
      (rest : Disciplined solo closing held k next) : Disciplined solo closing held k (.act effect next)
  | delete {closing k next} (alone : solo = true → closing ≠ none) (known : ∀ s, k.Holds s → s.Consistent)
      (rest : Disciplined solo closing (some .write) .emptied next) :
      Disciplined solo closing (some .write) k (.act deleteClient next)
  | clear {closing next} (alone : solo = true → closing ≠ none)
      (rest : Disciplined solo closing (some .write) .sound next) :
      Disciplined solo closing (some .write) .emptied (.act clearClient next)
  | create {closing held succeeds next} (lifecycle : closing ≠ none) (holding : held ≠ none)
      (rest : Disciplined solo closing held (if succeeds then .present else .absent) next) :
      Disciplined solo closing held .absent (.act (createClient succeeds) next)
  | close {b after held k next} (rest : Disciplined solo (some after) held k next) :
      Disciplined solo (some b) held k (.act (setClosing after) next)

namespace SharedConnection

theorem Consistent.useClient {s : SharedConnection} (consistent : s.Consistent) (client : s.mClient ≠ none) :
    s.useClient = some s := by
  obtain ⟨handle, points⟩ := Option.ne_none_iff_exists'.mp client
  have live : handle ∈ s.live := by simp [show s.live = s.mClient.toList from consistent, points]
  simp [SharedConnection.useClient, useHandle, points, live]

theorem Consistent.deleteClient {s : SharedConnection} (consistent : s.Consistent) :
    s.deleteClient = some { s with live := [] } := by
  obtain ⟨client, closing, created, live⟩ := s
  cases show live = client.toList from consistent
  cases client <;> simp [SharedConnection.deleteClient]

end SharedConnection

variable {solo : Bool}

/-- The discipline of a call, from what it knows when it starts. -/
def Disciplines {μ : Type} (solo : Bool) (role : μ → ConnectionRole) (code : μ → ConnectionCode)
    (call : μ) : Prop :=
  Disciplined solo (role call).closing none (initial solo (role call)) (code call)

theorem createClient_of_absent (succeeds : Bool) {s : SharedConnection}
    (absent : ClientKnowledge.absent.Holds s) :
    ∃ t, s.createClient succeeds = some t ∧ t.mIsClosing = s.mIsClosing ∧
      (if succeeds then present else ClientKnowledge.absent).Holds t := by
  obtain ⟨client, closing, created, live⟩ := s
  obtain ⟨consistent, none'⟩ := absent
  cases none'
  cases show live = [] from consistent
  cases succeeds
  · exact ⟨_, rfl, rfl, rfl, rfl⟩
  · exact ⟨_, rfl, rfl, rfl, by simp⟩

/-- An effect of disciplined code is defined, and leaves what the code relies on next. -/
theorem Disciplined.act_step {closing : Option Bool} {held : Option Mode} {k : ClientKnowledge}
    {effect : SharedConnection → Option SharedConnection} {next : ConnectionCode} {s : SharedConnection}
    (disciplined : Disciplined solo closing held k (.act effect next)) (lasts : k.Lasts solo closing held)
    (known : Known closing k s) : ∃ t later after, effect s = some t ∧ (later = none ↔ closing = none) ∧
      after.Lasts solo later held ∧ Disciplined solo later held after next ∧ Known later after t := by
  cases disciplined with
  | use defined rest => exact ⟨s, closing, k, defined s known.client, Iff.rfl, lasts, rest, known⟩
  | delete alone consistent rest =>
    refine ⟨{ s with live := [] }, closing, .emptied, (consistent s known.client).deleteClient, Iff.rfl, rfl,
      rest, known.closing, rfl⟩
  | clear alone rest =>
    exact ⟨{ s with mClient := none }, closing, .sound, rfl, Iff.rfl, Or.inl (by simp), rest, known.closing,
      known.client⟩
  | @create _ _ succeeds _ lifecycle holding rest =>
    obtain ⟨t, made, same, client⟩ := createClient_of_absent succeeds known.client
    refine ⟨t, closing, _, made, Iff.rfl, ?_, rest, fun b is => same.trans (known.closing b is), client⟩
    cases succeeds
    · exact lifecycle
    · exact Or.inl holding
  | @close b after _ _ _ rest =>
    refine ⟨{ s with mIsClosing := after }, some after, k, rfl, by simp, ?_, rest, ?_, ?_⟩
    · cases k <;> simp_all [Lasts]
    · simp
    · cases k <;> exact known.client

/-- What an effect of disciplined code leaves of the shared state: m_is_closing and
the consistency of the handles are in the hands of the life cycle and of the writers. -/
theorem Disciplined.act_guards {closing : Option Bool} {held : Option Mode} {k : ClientKnowledge}
    {effect : SharedConnection → Option SharedConnection} {next : ConnectionCode} {s t : SharedConnection}
    (disciplined : Disciplined solo closing held k (.act effect next)) (known : Known closing k s)
    (run : effect s = some t) :
    (closing = none → t.mIsClosing = s.mIsClosing ∧ (tidy.Holds s → tidy.Holds t) ∧
      (solo = true → s.Consistent → t.Consistent)) ∧
    (held ≠ some .write → s.Consistent → t.Consistent) := by
  cases disciplined with
  | use defined rest =>
    cases run.symm.trans (defined s known.client)
    exact ⟨fun _ => ⟨rfl, fun tidy => tidy, fun _ consistent => consistent⟩, fun _ consistent => consistent⟩
  | delete alone consistent rest =>
    cases run.symm.trans (consistent s known.client).deleteClient
    exact ⟨fun caller => ⟨rfl, fun _ _ => rfl, fun is => absurd caller (alone is)⟩,
      fun reading => absurd rfl reading⟩
  | clear alone rest =>
    cases run
    exact ⟨fun caller => ⟨rfl, fun _ _ => known.client, fun is => absurd caller (alone is)⟩,
      fun reading => absurd rfl reading⟩
  | @create _ _ succeeds _ lifecycle holding rest =>
    obtain ⟨u, made, _, client⟩ := createClient_of_absent succeeds known.client
    cases run.symm.trans made
    refine ⟨fun caller => absurd caller lifecycle, fun _ _ => ?_⟩
    cases succeeds <;> exact client.1
  | close rest =>
    cases run
    exact ⟨fun impossible => (nomatch impossible), fun _ consistent => consistent⟩

/-- Without the lock a thread does not keep what it knows of the handle, when
another may delete it. -/
theorem not_keeps {closing closing' : Option Bool} {held : Option Mode} (free : held = none)
    (alone : solo = true → closing ≠ none) (apart : closing = none ∨ closing' = none) :
    ¬(held ≠ none ∨ (closing' ≠ none ∧ solo = true)) := by
  rintro (holding | ⟨lifecycle, is⟩)
  · exact holding free
  · exact apart.elim (alone is) lifecycle

/-- An effect of disciplined code leaves true what another thread knows. -/
theorem Disciplined.act_known {closing closing' : Option Bool} {held held' : Option Mode}
    {k k' : ClientKnowledge} {effect : SharedConnection → Option SharedConnection} {next : ConnectionCode}
    {s t : SharedConnection}
    (disciplined : Disciplined solo closing held k (.act effect next)) (known : Known closing k s)
    (run : effect s = some t) (apart : closing = none ∨ closing' = none) (compatible : Compatible held' held)
    (lasts : k'.Lasts solo closing' held') (other : Known closing' k' s) : Known closing' k' t := by
  cases disciplined with
  | use defined rest => cases run.symm.trans (defined s known.client); exact other
  | delete alone consistent rest =>
    cases run.symm.trans (consistent s known.client).deleteClient
    have free : held' = none := compatible.2 rfl
    refine ⟨other.closing, ?_⟩
    cases k' with
    | nothing => trivial
    | tidy => exact fun _ => rfl
    | absent => exact ⟨by simp [Consistent, other.client.2], other.client.2⟩
    | emptied => rfl
    | sound | present => exact absurd lasts (not_keeps free alone apart)
  | clear alone rest =>
    cases run
    have free : held' = none := compatible.2 rfl
    have empty : s.live = [] := known.client
    refine ⟨other.closing, ?_⟩
    cases k' with
    | nothing => trivial
    | tidy => exact fun _ => empty
    | absent => exact ⟨empty, rfl⟩
    | emptied => exact empty
    | sound | present => exact absurd lasts (not_keeps free alone apart)
  | @create _ _ succeeds _ lifecycle holding rest =>
    have caller : closing' = none := apart.resolve_left lifecycle
    obtain ⟨u, made, _, client⟩ := createClient_of_absent succeeds known.client
    cases run.symm.trans made
    refine ⟨by simp [caller], ?_⟩
    cases k' with
    | nothing => trivial
    | tidy => exact absurd caller lasts.1
    | absent => exact absurd caller lasts
    | sound => cases succeeds <;> exact client.1
    | present => exact absurd known.client.2 other.client.2
    | emptied => exact absurd (compatible.1 lasts) holding
  | close rest =>
    cases run
    have caller : closing' = none := apart.resolve_left (by simp)
    refine ⟨by simp [caller], ?_⟩
    cases k' <;> exact other.client

/-- What a thread of disciplined code relies on. -/
def Relies (solo : Bool) (role : ConnectionRole) (held : Option Mode) (code : ConnectionCode)
    (s : SharedConnection) : Prop :=
  ∃ closing k, (closing = none ↔ role = .caller) ∧ k.Lasts solo closing held ∧
    Disciplined solo closing held k code ∧ Known closing k s

/-- What holds while no call of the life cycle is under way. -/
def AtRest (solo : Bool) : ConnectionRole → SharedConnection → Prop
  | .caller, _ => True
  | .lifecycle, s => s.mIsClosing = false ∧ tidy.Holds s ∧ (solo = true → s.Consistent)

theorem Disciplined.at_rest {closing : Option Bool} {held : Option Mode} {k : ClientKnowledge}
    {s : SharedConnection} (disciplined : Disciplined solo closing held k .done) (lifecycle : closing ≠ none)
    (lasts : k.Lasts solo closing held) (known : Known closing k s) : AtRest solo .lifecycle s := by
  cases disciplined with
  | done opened kept =>
    have not_closing : s.mIsClosing = false := by
      cases closing with
      | none => exact absurd rfl lifecycle
      | some b => cases b with
        | false => exact known.closing false rfl
        | true => exact absurd rfl opened
    have tidied : s.Consistent → tidy.Holds s := fun consistent client => by
      simp [show s.live = s.mClient.toList from consistent, client]
    refine ⟨not_closing, ?_⟩
    cases k with
    | nothing => exact absurd lasts lifecycle
    | tidy => exact ⟨known.client, fun is => absurd rfl (kept lifecycle is)⟩
    | sound => exact ⟨tidied known.client, fun _ => known.client⟩
    | present | absent => exact ⟨tidied known.client.1, fun _ => known.client.1⟩
    | emptied => cases lasts

theorem Relies.act {role : ConnectionRole} {held : Option Mode}
    {effect : SharedConnection → Option SharedConnection} {next : ConnectionCode} {s : SharedConnection}
    (relies : Relies solo role held (.act effect next) s) :
    ∃ t, effect s = some t ∧ Relies solo role held next t := by
  obtain ⟨closing, k, is, lasts, disciplined, known⟩ := relies
  obtain ⟨t, later, after, run, same, lasts', rest, known'⟩ := disciplined.act_step lasts known
  exact ⟨t, run, later, after, same.trans is, lasts', rest, known'⟩

theorem Relies.initial {role : ConnectionRole} {code : ConnectionCode} {s : SharedConnection}
    (disciplined : Disciplined solo role.closing none (initial solo role) code) (rest : AtRest solo role s) :
    Relies solo role none code s := by
  refine ⟨role.closing, ClientKnowledge.initial solo role, ?_, ?_, disciplined, ?_, ?_⟩
  · cases role <;> simp [ConnectionRole.closing]
  · cases role <;> cases solo <;> simp [ClientKnowledge.initial, ConnectionRole.closing, Lasts]
  · cases role with
    | caller => simp [ConnectionRole.closing]
    | lifecycle => simpa [ConnectionRole.closing] using rest.1
  · cases role with
    | caller => trivial
    | lifecycle => cases solo with
      | false => exact rest.2.1
      | true => exact rest.2.2 rfl

/-- Disciplined calls make a proof outline, with the consistency of the handles as
what the lock guards. -/
def disciplineOutline {μ : Type} (solo : Bool) (role : μ → ConnectionRole) (code : μ → ConnectionCode)
    (Ok : μ → Prop) (disciplined : ∀ call, Ok call → Disciplines solo role code call) :
    Outline (connectionSystem role code) Ok where
  inv := Consistent
  rest := AtRest solo
  pre := Relies solo
  shared_rest {r s} shared := by
    cases r with
    | caller => trivial
    | lifecycle => simp [connectionSystem] at shared
  start ok rest := .initial (disciplined _ ok) rest
  done := by
    rintro r h s ⟨closing, k, is, lasts, finished, known⟩
    refine ⟨by cases finished; rfl, ?_⟩
    cases r with
    | caller => trivial
    | lifecycle => exact finished.at_rest (by simp [is]) lasts known
  look := by
    rintro r h next s ⟨closing, k, is, lasts, looking, known⟩
    cases looking with
    | look know learns keeps rest =>
      exact ⟨closing, know s, is, keeps s known, rest s known, known.closing, learns s known⟩
  lock := by
    rintro r h mode next s ⟨closing, k, is, lasts, locking, known⟩
    cases locking with
    | lock later learns keeps rest =>
      refine ⟨rfl, fun consistent => ?_⟩
      exact ⟨closing, later, is, keeps, rest, known.closing, learns s known.client consistent⟩
  unlock := by
    rintro r h next s ⟨closing, k, is, lasts, unlocking, known⟩
    cases unlocking with
    | unlock later holding learns keeps restored rest =>
      exact ⟨holding, ⟨closing, _, is, keeps, rest, known.closing, learns s known.client⟩,
        fun writing => restored writing s known.client⟩
  act relies := relies.act
  act_inv := by
    rintro r h effect next s t ⟨closing, k, is, lasts, acting, known⟩ run reading consistent
    exact (acting.act_guards known run).2 reading consistent
  act_rest := by
    rintro r h effect next s t q ⟨closing, k, is, lasts, acting, known⟩ run differ rest
    cases q with
    | caller => trivial
    | lifecycle =>
      have caller : r = .caller := by cases r with
        | caller => rfl
        | lifecycle => exact absurd rfl differ
      obtain ⟨same, tidied, kept⟩ := (acting.act_guards known run).1 (is.mpr caller)
      exact ⟨same.trans rest.1, tidied rest.2.1, fun alone => kept alone (rest.2.2 alone)⟩
  act_pre := by
    rintro r h effect next s t q g code ⟨closing, k, is, lasts, acting, known⟩ run clash compatible
      ⟨closing', k', is', lasts', disciplined', known'⟩
    have apart : closing = none ∨ closing' = none := by
      cases r with
      | caller => exact Or.inl (is.mpr rfl)
      | lifecycle => cases q with
        | caller => exact Or.inr (is'.mpr rfl)
        | lifecycle => simp [connectionSystem] at clash
    exact ⟨closing', k', is', lasts', disciplined', acting.act_known known run apart compatible lasts' known'⟩

/-- What a run of disciplined calls comes to: no undefined use of a handle, no
deadlock, every call under way returns however the threads are scheduled, and once all
have returned no handle but that of m_client is left over. -/
structure Settled {μ : Type} (sys : System SharedConnection ConnectionRole μ)
    (s : State SharedConnection ConnectionRole) : Prop where
  defined : ¬s.Faulty
  progress : (∃ t ∈ s.threads, t.Live) → ∃ i after, sys.step s (.run i) = some after
  returns : ∀ run : Nat → State SharedConnection ConnectionRole, run 0 = s →
    ¬∀ n, ∃ i, sys.step (run n) (.run i) = some (run (n + 1))
  ledger : (∀ t ∈ s.threads, ¬t.Live) → s.shared.Consistent

theorem settled_of_disciplined {μ : Type} {role : μ → ConnectionRole} {code : μ → ConnectionCode}
    {Ok : μ → Prop} (disciplined : ∀ call, Ok call → Disciplines solo role code call)
    {trace : List (LockedThreads.Action μ)} {s : State SharedConnection ConnectionRole}
    (reach : Transition.Reach (connectionSystem role code).step ⟨{}, []⟩ trace s)
    (calls : ∀ call, .start call ∈ trace → Ok call) : Settled (connectionSystem role code) s := by
  have holds := (disciplineOutline solo role code Ok disciplined).reach_holds (show Consistent {} from rfl)
    (fun r => by cases r <;> simp [disciplineOutline, AtRest, ClientKnowledge.Holds, Consistent]) reach calls
  have returns : ∀ run : Nat → State SharedConnection ConnectionRole, run 0 = s →
      ¬∀ n, ∃ i, (connectionSystem role code).step (run n) (.run i) = some (run (n + 1)) := by
    intro run _ forever
    have ends := wellFounded_iff_isEmpty_descending_chain.mp (run_wellFounded (connectionSystem role code))
    exact ends.elim ⟨run, forever⟩
  refine ⟨holds.not_faulty, holds.progress, returns, fun finished => holds.inv fun t member => ?_⟩
  obtain ⟨i, at_i⟩ := List.getElem?_of_mem member
  simp [holds.ended at_i (finished t member)]

namespace Disciplined
variable {closing : Option Bool} {k : ClientKnowledge} {after refused yes no : ConnectionCode}

theorem ifConnected_caller (connected : Disciplined solo none none .nothing yes)
    (other : Disciplined solo none none .nothing no) :
    Disciplined solo none none .nothing (.ifConnected yes no) := by
  refine .look (fun _ => .nothing) (fun _ _ => trivial) (fun _ _ => rfl) fun s _ => ?_
  split
  · exact connected
  · exact other

theorem present_of_isConnected {s : SharedConnection} (consistent : s.Consistent)
    (connected : s.isConnected = true) : ClientKnowledge.present.Holds s := by
  refine ⟨consistent, fun null => ?_⟩
  simp [SharedConnection.isConnected, null] at connected

theorem ifConnected_locked {mode : Mode} (connected : Disciplined solo none (some mode) .present yes)
    (other : Disciplined solo none (some mode) .sound no) :
    Disciplined solo none (some mode) .sound (.ifConnected yes no) := by
  refine .look (fun s => if s.isConnected then .present else .sound) ?_ ?_ ?_
  · intro s known
    split
    · exact present_of_isConnected known.client ‹_›
    · exact known.client
  · intro s _
    split <;> exact Or.inl (by simp)
  · intro s _
    by_cases is : s.isConnected = true
    · simpa only [if_pos is] using connected
    · simpa only [if_neg is] using other

/-- The end of a critical section of a caller. -/
theorem unlock_caller {mode : Mode} (consistent : ∀ s, k.Holds s → s.Consistent)
    (rest : Disciplined solo none none .nothing after) : Disciplined solo none (some mode) k (.unlock after) :=
  .unlock .nothing (by simp) (fun _ _ => trivial) rfl (fun _ => consistent) rest

theorem use_present {held : Option Mode} (rest : Disciplined solo closing held .present after) :
    Disciplined solo closing held .present (.act useClient after) :=
  .use (fun _ present => present.1.useClient present.2) rest

theorem doubleChecked (mode : Mode) (called : Disciplined solo none none .nothing after)
    (other : Disciplined solo none none .nothing refused) :
    Disciplined solo none none .nothing (.doubleChecked mode after refused) := by
  refine ifConnected_caller (.lock .sound (fun _ _ consistent => consistent) (Or.inl (by simp)) ?_) other
  refine ifConnected_locked (use_present (unlock_caller (fun _ present => present.1) called)) ?_
  exact unlock_caller (fun _ sound => sound) other

theorem done_caller : Disciplined solo none none .nothing .done := .done (by simp) (by simp)

theorem getMetadata (named : Bool) : Disciplined solo none none .nothing (.getMetadata named) := by
  have metadata : Disciplined solo none none .nothing (.doubleChecked .read .done .done) :=
    doubleChecked .read done_caller done_caller
  cases named
  · exact metadata
  · exact doubleChecked .read metadata metadata

/-- Without the check behind the lock, NULL may be deleted, which is nothing. -/
theorem disconnect_caller : Disciplined false none none .nothing .disconnect := by
  refine ifConnected_caller ?_ done_caller
  refine .lock .sound (fun _ _ consistent => consistent) (Or.inl (by simp)) ?_
  refine .delete (by simp) (fun _ sound => sound) (.clear (by simp) ?_)
  exact unlock_caller (fun _ sound => sound) done_caller

end Disciplined

end NodeRdkafka
