import NodeRdkafka.ClientCallbacks
import NodeRdkafka.Lib.Lists
import NodeRdkafka.Rebalance

namespace NodeRdkafka
open Transition

/-- An object with configuration properties, in their order. -/
structure ConfigObject where
  entries : List (String × JsValue)
  keys : (entries.map Prod.fst).Nodup

/-- What librdkafka makes of a configuration: whether it refuses a property after others, or a
callback, and with which text; and the text of a value. -/
structure ConfLibrary where
  set : List (String × String) → String × String → Option String
  setCallback : String → Option String
  toText : JsValue → String

/-- A property that is true or a function, which the constructor puts a closure in the place of. -/
def wrapProperty (name : String) (closure : JsFunction) (entry : String × JsValue) : String × JsValue :=
  (entry.1, if entry.1 = name then
    match entry.2 with
    | .boolean true | .function _ => .function closure
    | value => value
  else entry.2)

def functionProperty (entry : String × JsValue) : Option (String × JsFunction) :=
  match entry.2 with
  | .function cb => some (entry.1, cb)
  | _ => none

theorem functionProperty_key {entry : String × JsValue} {named : String × JsFunction}
    (is : functionProperty entry = some named) : entry = (named.1, .function named.2) := by
  obtain ⟨key, value⟩ := entry
  cases value <;> simp only [functionProperty, Option.some.injEq, reduceCtorEq] at is
  exact is ▸ rfl

namespace ConfigObject

def wrap (conf : ConfigObject) (name : String) (closure : JsFunction) : ConfigObject where
  entries := conf.entries.map (wrapProperty name closure)
  keys := by
    rw [List.map_map]
    exact conf.keys

/-- The properties are deleted. -/
def delete (conf : ConfigObject) (names : List String) : ConfigObject where
  entries := conf.entries.filter (·.1 ∉ names)
  keys := (List.filter_sublist.map Prod.fst).nodup conf.keys

def get (conf : ConfigObject) (name : String) : JsValue := (conf.entries.lookup name).getD .undefined

theorem functions_sublist (entries : List (String × JsValue)) :
    ((entries.filterMap functionProperty).map Prod.fst).Sublist (entries.map Prod.fst) := by
  induction entries with
  | nil => exact List.Sublist.slnil
  | cons entry rest ih =>
    rw [List.filterMap_cons]
    split
    · exact ih.cons _
    · rename_i named is
      rw [List.map_cons, List.map_cons, functionProperty_key is]
      exact ih.cons_cons _

/-- extractFunctions of the constructor. -/
def extractFunctions (conf : ConfigObject) : FunctionConfig where
  entries := conf.entries.filterMap functionProperty
  keys := (functions_sublist conf.entries).nodup conf.keys

end ConfigObject

namespace Conf
section
variable (lib : ConfLibrary)

/-- The text of a value that is no function: IsInt32, IsUint32 and IsBoolean come before Utf8String. -/
def stringValue : JsValue → String
  | .number (.finite value) =>
    if value.den = 1 ∧ -2 ^ 31 ≤ value.num ∧ value.num < 2 ^ 32 then toString value.num
    else lib.toText (.number (.finite value))
  | .boolean value => if value then "true" else "false"
  | value => lib.toText value

/-- The body of the loop of Conf::create, for the callbacks and the texts so far. -/
def createProperty (s : Conf × List (String × String)) (entry : String × JsValue) :
    Except String (Conf × List (String × String)) :=
  match entry.2 with
  | .function cb =>
    match s.1.configureCallback entry.1 cb true with
    | (_, some errstr) => .error errstr
    | (added, none) => .ok ((added.configureCallback entry.1 cb false).1, s.2)
  | value =>
    match lib.set s.2 (entry.1, stringValue lib value) with
    | some errstr => .error errstr
    | none => .ok (s.1, s.2 ++ [(entry.1, stringValue lib value)])

/-- Conf::create, with the texts that librdkafka has been given. -/
def createObject (conf : ConfigObject) : Except String (Conf × List (String × String)) :=
  conf.entries.foldlM (createProperty lib) ({ setError := lib.setCallback }, [])

/-- The properties that are no functions, as texts. -/
def texts (entries : List (String × JsValue)) : List (String × String) :=
  (entries.filter fun entry => (functionProperty entry).isNone).map fun (key, value) => (key, stringValue lib value)

end

variable {lib : ConfLibrary}

theorem createProperty_ok {entry : String × JsValue} {s t : Conf × List (String × String)}
    (run : createProperty lib s entry = .ok t) :
    (∃ cb, functionProperty entry = some (entry.1, cb) ∧ (s.1.configureCallback entry.1 cb true).2 = none ∧
        t = (((s.1.configureCallback entry.1 cb true).1.configureCallback entry.1 cb false).1, s.2)) ∨
      functionProperty entry = none ∧ t = (s.1, s.2 ++ [(entry.1, stringValue lib entry.2)]) := by
  unfold createProperty at run
  split at run
  · rename_i cb is
    refine Or.inl ⟨cb, by rw [functionProperty, is], ?_⟩
    split at run
    · cases run
    · rename_i added configured
      exact ⟨by rw [configured], by rw [configured, ← Except.ok.inj run]⟩
  · rename_i others
    refine Or.inr ⟨?_, ?_⟩
    · rw [functionProperty]
      split
      · rename_i cb is
        exact absurd is (others cb)
      · rfl
    · split at run
      · cases run
      · exact (Except.ok.inj run).symm

/-- The loop gives the other properties to librdkafka, and does with the functions what it
does when there are no others. -/
theorem foldlM_createProperty {entries : List (String × JsValue)} {s t : Conf × List (String × String)}
    (run : entries.foldlM (createProperty lib) s = .ok t) :
    t.2 = s.2 ++ texts lib entries ∧ s.1.createLoop (entries.filterMap functionProperty) = .ok t.1 := by
  induction entries generalizing s with
  | nil =>
    cases run
    exact ⟨(List.append_nil _).symm, rfl⟩
  | cons entry rest ih =>
    rw [List.foldlM_cons] at run
    cases first : createProperty lib s entry with
    | error e =>
      rw [first] at run
      cases run
    | ok next =>
      rw [first] at run
      obtain ⟨strings, loop⟩ := ih run
      rcases createProperty_ok first with ⟨cb, is, configured, rfl⟩ | ⟨other, rfl⟩
      · have kept : texts lib (entry :: rest) = texts lib rest := by simp [texts, is]
        refine ⟨kept ▸ strings, ?_⟩
        rw [List.filterMap_cons, is]
        simp only [createLoop]
        rw [show s.1.configureCallback entry.1 cb true = ((s.1.configureCallback entry.1 cb true).1, none) from
          Prod.ext rfl configured]
        exact loop
      · have first' : texts lib (entry :: rest) = (entry.1, stringValue lib entry.2) :: texts lib rest := by
          simp [texts, other]
        refine ⟨by rw [strings, first', List.append_assoc, List.singleton_append], ?_⟩
        rw [List.filterMap_cons, other]
        exact loop

theorem createLoop_setError {entries : List (String × JsFunction)} {conf created : Conf}
    (run : conf.createLoop entries = .ok created) : created.setError = conf.setError := by
  induction entries generalizing conf with
  | nil => exact Except.ok.inj run ▸ rfl
  | cons entry rest ih =>
    obtain ⟨key, cb⟩ := entry
    simp only [createLoop] at run
    split at run
    · cases run
    · rename_i added configured
      have same := conf.configureCallback_setError key cb true
      rw [configured] at same
      rw [ih run, configureCallback_setError, same]

/-- The property is refused after the texts of others: a function under the key of a dispatcher
that librdkafka takes no callback for, or a text that it does not take. -/
def Refuses (lib : ConfLibrary) (given : List (String × String)) (entry : String × JsValue) (text : String) : Prop :=
  match entry.2 with
  | .function _ => (entry.1 = "rebalance_cb" ∨ entry.1 = "offset_commit_cb") ∧ lib.setCallback entry.1 = some text
  | value => lib.set given (entry.1, stringValue lib value) = some text

theorem configureCallback_error (conf : Conf) (key : String) (cb : JsFunction) {text : String} :
    (conf.configureCallback key cb true).2 = some text ↔
      (key = "rebalance_cb" ∨ key = "offset_commit_cb") ∧ conf.setError key = some text := by
  by_cases rebalance : key = "rebalance_cb"
  · simp [configureCallback, rebalance]
  · by_cases offsetCommit : key = "offset_commit_cb" <;> simp [configureCallback, rebalance, offsetCommit]

theorem createProperty_error_iff {s : Conf × List (String × String)} (own : s.1.setError = lib.setCallback)
    {entry : String × JsValue} {text : String} :
    createProperty lib s entry = .error text ↔ Refuses lib s.2 entry text := by
  unfold createProperty Refuses
  split
  · rename_i cb is
    rw [← own, ← configureCallback_error s.1 entry.1 cb]
    split
    · rename_i errstr configured
      simp [configured]
    · rename_i configured
      simp [configured]
  · split
    · rename_i errstr refused
      simp [refused]
    · rename_i taken
      simp [taken]

/-- Conf::create throws the text of the first property that is refused. -/
theorem createObject_error_iff {conf : ConfigObject} {text : String} :
    createObject lib conf = .error text ↔ ∃ before entry after, conf.entries = before ++ entry :: after ∧
      (∃ s, before.foldlM (createProperty lib) ({ setError := lib.setCallback }, []) = .ok s) ∧
        Refuses lib (texts lib before) entry text := by
  rw [createObject, Lists.foldlM_error_iff]
  constructor
  · rintro ⟨before, entry, after, s, split, run, last⟩
    obtain ⟨strings, loop⟩ := foldlM_createProperty run
    have refused := (createProperty_error_iff (createLoop_setError loop)).mp last
    rw [strings, List.nil_append] at refused
    exact ⟨before, entry, after, split, ⟨s, run⟩, refused⟩
  · rintro ⟨before, entry, after, split, ⟨s, run⟩, refused⟩
    obtain ⟨strings, loop⟩ := foldlM_createProperty run
    refine ⟨before, entry, after, s, split, run, (createProperty_error_iff (createLoop_setError loop)).mpr ?_⟩
    rw [strings, List.nil_append]
    exact refused

theorem createObject_ok {conf : ConfigObject} {created : Conf} {strings : List (String × String)}
    (run : createObject lib conf = .ok (created, strings)) :
    strings = texts lib conf.entries ∧ create lib.setCallback conf.extractFunctions = .ok created := by
  obtain ⟨same, loop⟩ := foldlM_createProperty run
  exact ⟨same, loop⟩

end Conf

/-- The constructors of the library that end in that of Client. -/
inductive ClientKind
  | producer
  | consumer
  deriving DecidableEq

/-- The closures that the constructors make. -/
structure ClientClosures where
  rebalance : JsFunction
  offsetCommit : JsFunction
  event : JsFunction
  delivery : JsFunction

namespace ClientKind

/-- What the constructor makes of its first argument before it calls that of Client. -/
def edited (kind : ClientKind) (closures : ClientClosures) (conf : ConfigObject) : ConfigObject :=
  match kind with
  | .consumer =>
    (conf.wrap "rebalance_cb" closures.rebalance).wrap "offset_commit_cb" closures.offsetCommit
  | .producer => conf.delete ["topic", "partition", "dr_cb", "dr_msg_cb"]

/-- The configuration that native code is given. -/
def globalConf (kind : ClientKind) (closures : ClientClosures) (conf : ConfigObject) : ConfigObject :=
  (kind.edited closures conf).delete ["event_cb"]

def noEventCb (conf : ConfigObject) : Bool :=
  match conf.get "event_cb" with
  | .boolean false => true
  | _ => false

def deliveryReports (kind : ClientKind) (conf : ConfigObject) : Bool :=
  kind = .producer && ((conf.get "dr_msg_cb").truthy || (conf.get "dr_cb").truthy)

/-- The callbacks of the client itself. -/
def eventFunctions (kind : ClientKind) (closures : ClientClosures) (conf : ConfigObject) : FunctionConfig where
  entries := (if noEventCb (kind.edited closures conf) then [] else [("event_cb", closures.event)]) ++
    if kind.deliveryReports conf then [("delivery_cb", closures.delivery)] else []
  keys := by
    cases noEventCb (kind.edited closures conf) <;> cases kind.deliveryReports conf <;> simp

def configs (kind : ClientKind) (closures : ClientClosures) (conf topicConf : ConfigObject) : CbConfigs where
  global := (kind.globalConf closures conf).extractFunctions
  topic := topicConf.extractFunctions
  event := kind.eventFunctions closures conf

section
variable {ε : Type} (lib topicLib : ConfLibrary)

/-- The constructor, with the texts that librdkafka has been given for both configurations. -/
def construct (kind : ClientKind) (closures : ClientClosures) (conf topicConf : ConfigObject) :
    Except String (Client ε × List (String × String) × List (String × String)) :=
  match Conf.createObject lib (kind.globalConf closures conf) with
  | .error errstr => .error errstr
  | .ok (gconfig, settings) =>
    match Conf.createObject topicLib topicConf with
    | .error errstr => .error errstr
    | .ok (tconfig, topicSettings) =>
      .ok ({ configs := kind.configs closures conf topicConf
             connection := { gconfig, tconfig, drCb := if kind = .producer then some {} else none } },
        settings, topicSettings)

end

variable {ε : Type} {lib topicLib : ConfLibrary} {kind : ClientKind} {closures : ClientClosures}
  {conf topicConf : ConfigObject} {start : Client ε} {settings topicSettings : List (String × String)}

/-- The constructor ends in a client that has been created from the functions alone. -/
theorem construct_ok (run : construct lib topicLib kind closures conf topicConf = .ok (start, settings, topicSettings)) :
    settings = Conf.texts lib (kind.globalConf closures conf).entries ∧
      topicSettings = Conf.texts topicLib topicConf.entries ∧
        Client.create (kind.configs closures conf topicConf) lib.setCallback topicLib.setCallback
          (kind = .producer) = .ok start := by
  unfold construct at run
  split at run
  · cases run
  · rename_i gconfig given globalRun
    split at run
    · cases run
    · rename_i tconfig topicGiven topicRun
      cases run
      obtain ⟨strings, created⟩ := Conf.createObject_ok globalRun
      obtain ⟨topicStrings, topicCreated⟩ := Conf.createObject_ok topicRun
      refine ⟨strings, topicStrings, ?_⟩
      simp only [Client.create, configs, created, topicCreated, decide_eq_true_eq]

theorem create_log {configs : CbConfigs} {globalError topicError : String → Option String} {producer : Bool}
    (created : Client.create configs globalError topicError producer = .ok start) : start.log = [] := by
  simp only [Client.create] at created
  split at created
  · exact Except.ok.inj created ▸ rfl
  · cases created
  · cases created

theorem construct_error_iff {text : String} :
    (construct lib topicLib kind closures conf topicConf : Except String (Client ε × _ × _)) = .error text ↔
      Conf.createObject lib (kind.globalConf closures conf) = .error text ∨
        (∃ created, Conf.createObject lib (kind.globalConf closures conf) = .ok created) ∧
          Conf.createObject topicLib topicConf = .error text := by
  unfold construct
  cases global : Conf.createObject lib (kind.globalConf closures conf) with
  | error errstr => simp
  | ok created =>
    obtain ⟨gconfig, given⟩ := created
    cases topic : Conf.createObject topicLib topicConf with
    | error errstr => simp
    | ok created => simp

end ClientKind

end NodeRdkafka
