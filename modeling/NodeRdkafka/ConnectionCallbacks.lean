import NodeRdkafka.Connection

namespace NodeRdkafka

theorem diff_self_eq_nil (functions : List JsFunction) : functions.diff functions = [] := by
  induction functions with
  | nil => rfl
  | cons cb rest ih => rwa [List.diff_cons, List.erase_cons_head]

namespace CbConfigs

theorem functions_length (configs : CbConfigs) (configType : ConfigType) (key : String) :
    (configs.functions configType key).length ≤ 1 := by
  have unique := List.nodup_iff_count_le_one.mp (configs.functionConfig configType).keys key
  rw [List.count_eq_length_filter, List.filter_map, List.length_map] at unique
  simpa [functions, Function.comp_def, beq_eq_decide] using unique

/-- What native code meets under a key is what is configured under it. -/
theorem entries_filter (configs : CbConfigs) (configType : ConfigType) (key : String) :
    (configs.entries.filter fun entry => entry.1 = configType ∧ entry.2.1 = key).map (·.2.2) =
      configs.functions configType key := by
  cases configType <;>
    simp [entries, functions, functionConfig, List.filter_map, Function.comp_def]

end CbConfigs

/-- One add brings at most its own function, one removal takes the first copy. -/
def Configured (before after : List JsFunction) (cb : JsFunction) (add : Bool) : Prop :=
  if add then after.Sublist (before ++ [cb]) else after = before.erase cb

theorem configured_nothing (cb : JsFunction) (add : Bool) : Configured [] [] cb add := by
  cases add <;> simp [Configured]

namespace Conf

theorem configureDispatcher_callbacks (dispatcher : Option Dispatcher) (cb : JsFunction) (add : Bool) :
    Configured ((dispatcher.map (·.callbacks)).getD [])
      (((configureDispatcher dispatcher cb add).map (·.callbacks)).getD []) cb add := by
  cases dispatcher <;> cases add <;>
    simp [Configured, configureDispatcher, Dispatcher.addCallback, Dispatcher.removeCallback]

theorem configureCallback_other {conf : Conf} {key other : String} (different : other ≠ key)
    (cb : JsFunction) (add : Bool) :
    (conf.configureCallback key cb add).1.dispatcher other = conf.dispatcher other := by
  by_cases rebalance : key = "rebalance_cb"
  · have elsewhere : other ≠ "rebalance_cb" := rebalance ▸ different
    simp [configureCallback, dispatcher, rebalance, elsewhere]
  · by_cases offsetCommit : key = "offset_commit_cb"
    · have elsewhere : other ≠ "offset_commit_cb" := offsetCommit ▸ different
      simp [configureCallback, dispatcher, offsetCommit, elsewhere]
    · simp [configureCallback, rebalance, offsetCommit]

/-- A key is handled by its dispatcher or there is none for it. -/
theorem configureCallback_own (conf : Conf) (key : String) (cb : JsFunction) (add : Bool) :
    (conf.configureCallback key cb add).1.dispatcher key = configureDispatcher (conf.dispatcher key) cb add ∨
      ((conf.configureCallback key cb add).1.dispatcher key = none ∧ conf.dispatcher key = none) := by
  by_cases rebalance : key = "rebalance_cb"
  · exact Or.inl (by simp [configureCallback, dispatcher, rebalance])
  · by_cases offsetCommit : key = "offset_commit_cb"
    · exact Or.inl (by simp [configureCallback, dispatcher, offsetCommit])
    · exact Or.inr (by simp [dispatcher, rebalance, offsetCommit])

theorem configureCallback_configured (conf : Conf) (key : String) (cb : JsFunction) (add : Bool) :
    Configured (((conf.dispatcher key).map (·.callbacks)).getD [])
      ((((conf.configureCallback key cb add).1.dispatcher key).map (·.callbacks)).getD []) cb add := by
  rcases conf.configureCallback_own key cb add with handled | ⟨after, before⟩
  · exact handled ▸ configureDispatcher_callbacks _ cb add
  · rw [after, before]
    exact configured_nothing cb add

end Conf

namespace Connection

theorem configureEventDispatcher_callbacks (dispatcher : Option Dispatcher) (cb : JsFunction)
    (add : Bool) :
    Configured ((dispatcher.map (·.callbacks)).getD [])
      (((dispatcher.map (configureEventDispatcher · cb add)).map (·.callbacks)).getD []) cb add := by
  cases dispatcher <;> cases add <;>
    simp [Configured, configureEventDispatcher, Dispatcher.addCallback, Dispatcher.removeCallback]

theorem configureCallback_other {c : Connection} {key other : String} (different : other ≠ key)
    (cb : JsFunction) (add : Bool) :
    (c.configureCallback key cb add).eventDispatcher other = c.eventDispatcher other := by
  by_cases delivery : key = "delivery_cb"
  · have elsewhere : other ≠ "delivery_cb" := delivery ▸ different
    simp [configureCallback, eventDispatcher, delivery, elsewhere]
  · by_cases event : key = "event_cb"
    · have elsewhere : other ≠ "event_cb" := event ▸ different
      simp [configureCallback, eventDispatcher, event, elsewhere]
    · simp [configureCallback, delivery, event]

theorem configureCallback_own (c : Connection) (key : String) (cb : JsFunction) (add : Bool) :
    (c.configureCallback key cb add).eventDispatcher key =
      (c.eventDispatcher key).map (configureEventDispatcher · cb add) := by
  by_cases delivery : key = "delivery_cb"
  · simp [configureCallback, eventDispatcher, delivery]
  · by_cases event : key = "event_cb"
    · simp [configureCallback, eventDispatcher, event]
    · simp [eventDispatcher, delivery, event]

theorem configureEntry_other {c : Connection} {configType otherType : ConfigType} {key other : String}
    (different : ¬ (configType = otherType ∧ key = other)) (cb : JsFunction) (add : Bool) :
    (c.configureEntry configType key cb add).1.callbacks otherType other = c.callbacks otherType other := by
  by_cases sameType : configType = otherType
  · have elsewhere : other ≠ key := fun same => different ⟨sameType, same.symm⟩
    subst sameType
    cases configType with
    | global | topic =>
      simp only [configureEntry, callbacks, dispatcher, Conf.configureCallback_other elsewhere]
    | event => simp only [configureEntry, callbacks, dispatcher, configureCallback_other elsewhere]
  · have untouched : (c.configureEntry configType key cb add).1.dispatcher otherType other =
        c.dispatcher otherType other := by
      cases configType <;> cases otherType <;> first | exact absurd rfl sameType | rfl | skip
      all_goals
        simp only [configureEntry, dispatcher, configureCallback]
        split
        · rfl
        · split <;> rfl
    simp only [callbacks, untouched]

theorem configureEntry_own (c : Connection) (configType : ConfigType) (key : String) (cb : JsFunction)
    (add : Bool) :
    Configured (c.callbacks configType key)
      ((c.configureEntry configType key cb add).1.callbacks configType key) cb add := by
  cases configType with
  | global => exact c.gconfig.configureCallback_configured key cb add
  | topic => exact c.tconfig.configureCallback_configured key cb add
  | event =>
    simp only [configureEntry, callbacks, dispatcher, configureCallback_own]
    exact configureEventDispatcher_callbacks _ cb add

/-- The functions that a list of entries has under a key. -/
def functionsOf (entries : List (ConfigType × String × JsFunction)) (configType : ConfigType)
    (key : String) : List JsFunction :=
  (entries.filter fun entry => entry.1 = configType ∧ entry.2.1 = key).map (·.2.2)

/-- Adding brings at most the functions given, also when it ends early. -/
theorem configureEntries_add (c : Connection) (entries : List (ConfigType × String × JsFunction))
    (configType : ConfigType) (key : String) :
    ((c.configureEntries true entries).1.callbacks configType key).Sublist
      (c.callbacks configType key ++ functionsOf entries configType key) := by
  induction entries generalizing c with
  | nil => simp [configureEntries, functionsOf]
  | cons entry rest ih =>
    obtain ⟨entryType, entryKey, cb⟩ := entry
    have first : ((c.configureEntry entryType entryKey cb true).1.callbacks configType key).Sublist
        (c.callbacks configType key ++ functionsOf [(entryType, entryKey, cb)] configType key) := by
      by_cases own : entryType = configType ∧ entryKey = key
      · obtain ⟨rfl, rfl⟩ := own
        simpa [functionsOf, Configured] using c.configureEntry_own entryType entryKey cb true
      · rw [configureEntry_other own]
        exact List.sublist_append_left _ _
    have split_entries : functionsOf ((entryType, entryKey, cb) :: rest) configType key =
        functionsOf [(entryType, entryKey, cb)] configType key ++ functionsOf rest configType key := by
      simp only [functionsOf, ← List.map_append, ← List.filter_append, List.singleton_append]
    rw [split_entries, ← List.append_assoc]
    simp only [configureEntries]
    split
    · rename_i configured errstr run
      have reached : configured = (c.configureEntry entryType entryKey cb true).1 := by rw [run]
      exact reached ▸ first.trans (List.sublist_append_left _ _)
    · rename_i configured run
      have reached : configured = (c.configureEntry entryType entryKey cb true).1 := by rw [run]
      exact (ih configured).trans ((reached ▸ first).append_right _)

/-- A removal is never refused. -/
theorem configureEntry_remove (c : Connection) (configType : ConfigType) (key : String)
    (cb : JsFunction) : (c.configureEntry configType key cb false).2 = none := by
  cases configType with
  | global | topic =>
    simp only [configureEntry, Conf.configureCallback]
    split
    · rfl
    · split <;> rfl
  | event => rfl

theorem configureEntries_remove (c : Connection) (entries : List (ConfigType × String × JsFunction))
    (configType : ConfigType) (key : String) :
    (c.configureEntries false entries).1.callbacks configType key =
      (c.callbacks configType key).diff (functionsOf entries configType key) := by
  induction entries generalizing c with
  | nil => rfl
  | cons entry rest ih =>
    obtain ⟨entryType, entryKey, cb⟩ := entry
    have removed : (c.configureEntries false ((entryType, entryKey, cb) :: rest)).1 =
        ((c.configureEntry entryType entryKey cb false).1.configureEntries false rest).1 := by
      have accepted := c.configureEntry_remove entryType entryKey cb
      simp only [configureEntries]
      split
      · rename_i configured errstr run
        simp [run] at accepted
      · rename_i configured run
        rw [run]
    rw [removed, ih]
    by_cases own : entryType = configType ∧ entryKey = key
    · obtain ⟨rfl, rfl⟩ := own
      have erased : (c.configureEntry entryType entryKey cb false).1.callbacks entryType entryKey =
          (c.callbacks entryType entryKey).erase cb := by
        simpa [Configured] using c.configureEntry_own entryType entryKey cb false
      rw [erased]
      simp [functionsOf]
    · rw [configureEntry_other own]
      simp [functionsOf, own]

theorem configureCallbacks_add (c : Connection) (configs : CbConfigs) (configType : ConfigType)
    (key : String) :
    ((c.configureCallbacks true configs).1.callbacks configType key).Sublist
      (c.callbacks configType key ++ configs.functions configType key) := by
  have added := c.configureEntries_add configs.entries configType key
  rwa [functionsOf, configs.entries_filter] at added

theorem configureCallbacks_remove (c : Connection) (configs : CbConfigs) (configType : ConfigType)
    (key : String) :
    (c.configureCallbacks false configs).1.callbacks configType key =
      (c.callbacks configType key).diff (configs.functions configType key) := by
  have removed := c.configureEntries_remove configs.entries configType key
  rwa [functionsOf, configs.entries_filter] at removed

end Connection

namespace Conf

/-- No callback is registered. -/
def Silent (conf : Conf) : Prop := ∀ key, ((conf.dispatcher key).map (·.callbacks)).getD [] = []

theorem Silent.configureCallback {conf : Conf} (silent : conf.Silent) (key : String) (cb : JsFunction) :
    ((conf.configureCallback key cb true).1.configureCallback key cb false).1.Silent := by
  intro other
  by_cases own : other = key
  · subst own
    rcases (conf.configureCallback other cb true).1.configureCallback_own other cb false with
      removed | ⟨after, _⟩
    · rw [removed]
      rcases conf.configureCallback_own other cb true with added | ⟨nothing, _⟩
      · have before := silent other
        rw [added]
        cases found : conf.dispatcher other <;>
          simp_all [configureDispatcher, Dispatcher.addCallback, Dispatcher.removeCallback]
      · simp [nothing, configureDispatcher]
    · simp [after]
  · rw [configureCallback_other own, configureCallback_other own]
    exact silent other

theorem createLoop_silent {conf created : Conf} {entries : List (String × JsFunction)}
    (silent : conf.Silent) (run : conf.createLoop entries = .ok created) : created.Silent := by
  induction entries generalizing conf with
  | nil =>
    cases Except.ok.inj run
    exact silent
  | cons entry rest ih =>
    obtain ⟨key, cb⟩ := entry
    simp only [createLoop] at run
    split at run
    · cases run
    · rename_i added configured
      have removed := silent.configureCallback key cb
      rw [configured] at removed
      exact ih removed run

/-- The constructor leaves no callback registered. -/
theorem create_silent {setError : String → Option String} {functions : FunctionConfig} {created : Conf}
    (run : create setError functions = .ok created) : created.Silent := by
  refine createLoop_silent ?_ run
  intro key
  simp [dispatcher]

end Conf

namespace Conf

theorem configureCallback_setError (conf : Conf) (key : String) (cb : JsFunction) (add : Bool) :
    (conf.configureCallback key cb add).1.setError = conf.setError := by
  unfold configureCallback
  split
  · rfl
  · split <;> rfl

/-- Whether a callback is refused depends on its key alone. -/
theorem configureCallback_refuses {conf other : Conf} (same : conf.setError = other.setError)
    (key : String) (cb : JsFunction) (add : Bool) :
    (conf.configureCallback key cb add).2 = (other.configureCallback key cb add).2 := by
  unfold configureCallback
  rw [same]
  split
  · rfl
  · split <;> rfl

/-- None of the functions is refused. -/
def Takes (conf : Conf) (functions : List (String × JsFunction)) : Prop :=
  ∀ entry ∈ functions, (conf.configureCallback entry.1 entry.2 true).2 = none

/-- The constructor has tried them all. -/
theorem createLoop_takes {conf created : Conf} {functions : List (String × JsFunction)}
    (run : conf.createLoop functions = .ok created) :
    created.setError = conf.setError ∧ conf.Takes functions := by
  induction functions generalizing conf with
  | nil =>
    cases Except.ok.inj run
    exact ⟨rfl, by simp [Takes]⟩
  | cons entry rest ih =>
    obtain ⟨key, cb⟩ := entry
    simp only [createLoop] at run
    split at run
    · cases run
    · rename_i added configured
      have setError : (added.configureCallback key cb false).1.setError = conf.setError := by
        have adding := conf.configureCallback_setError key cb true
        rw [configured] at adding
        rw [configureCallback_setError, adding]
      obtain ⟨kept, later⟩ := ih run
      refine ⟨kept.trans setError, fun entry member => ?_⟩
      rcases List.mem_cons.mp member with rfl | member
      · exact congrArg Prod.snd configured
      · rw [← later entry member]
        exact configureCallback_refuses setError.symm _ _ _

end Conf

namespace Connection

/-- The configurations refuse what they refused before. -/
def Refuses (c other : Connection) : Prop :=
  other.gconfig.setError = c.gconfig.setError ∧ other.tconfig.setError = c.tconfig.setError

theorem configureEntry_refuses (c : Connection) (configType : ConfigType) (key : String) (cb : JsFunction)
    (add : Bool) : c.Refuses (c.configureEntry configType key cb add).1 := by
  cases configType with
  | global => exact ⟨Conf.configureCallback_setError _ _ _ _, rfl⟩
  | topic => exact ⟨rfl, Conf.configureCallback_setError _ _ _ _⟩
  | event =>
    simp only [configureEntry, configureCallback]
    split
    · exact ⟨rfl, rfl⟩
    · split <;> exact ⟨rfl, rfl⟩

theorem configureEntries_refuses (c : Connection) (add : Bool)
    (entries : List (ConfigType × String × JsFunction)) :
    c.Refuses (c.configureEntries add entries).1 := by
  induction entries generalizing c with
  | nil => exact ⟨rfl, rfl⟩
  | cons entry rest ih =>
    obtain ⟨configType, key, cb⟩ := entry
    have first := c.configureEntry_refuses configType key cb add
    simp only [configureEntries]
    split
    · rename_i configured errstr run
      rwa [run] at first
    · rename_i configured run
      rw [run] at first
      have later := ih configured
      exact ⟨later.1.trans first.1, later.2.trans first.2⟩

/-- A connection whose configurations refuse none of the configured functions. -/
def Takes (c : Connection) (configs : CbConfigs) : Prop :=
  c.gconfig.Takes configs.global.entries ∧ c.tconfig.Takes configs.topic.entries

theorem Takes.refuses {c other : Connection} {configs : CbConfigs} (takes : c.Takes configs)
    (refuses : c.Refuses other) : other.Takes configs := by
  refine ⟨fun entry member => ?_, fun entry member => ?_⟩
  · rw [← takes.1 entry member]
    exact Conf.configureCallback_refuses refuses.1 _ _ _
  · rw [← takes.2 entry member]
    exact Conf.configureCallback_refuses refuses.2 _ _ _

theorem Takes.entry {c : Connection} {configs : CbConfigs} (takes : c.Takes configs)
    {entry : ConfigType × String × JsFunction} (member : entry ∈ configs.entries) :
    (c.configureEntry entry.1 entry.2.1 entry.2.2 true).2 = none := by
  obtain ⟨configType, key, cb⟩ := entry
  simp only [CbConfigs.entries, List.mem_flatMap, List.mem_map] at member
  obtain ⟨_, _, function, present, same⟩ := member
  cases same
  cases configType with
  | global => exact takes.1 (key, cb) present
  | topic => exact takes.2 (key, cb) present
  | event => rfl

/-- Such a connection takes them however often they are configured. -/
theorem Takes.configureCallbacks {c : Connection} {configs : CbConfigs} (takes : c.Takes configs) :
    (c.configureCallbacks true configs).2 = none := by
  have runs : ∀ entries, entries.Sublist configs.entries → ∀ c : Connection, c.Takes configs →
      (c.configureEntries true entries).2 = none := by
    intro entries part
    induction entries with
    | nil => exact fun _ _ => rfl
    | cons entry rest ih =>
      intro c takes
      have refuses := c.configureEntry_refuses entry.1 entry.2.1 entry.2.2 true
      have taken := takes.entry (part.subset List.mem_cons_self)
      simp only [configureEntries]
      split
      · rename_i run
        rw [run] at taken
        cases taken
      · rename_i configured run
        rw [run] at refuses
        exact ih ((List.sublist_cons_self _ _).trans part) configured (takes.refuses refuses)
  exact runs configs.entries (List.Sublist.refl _) c takes

end Connection
end NodeRdkafka
