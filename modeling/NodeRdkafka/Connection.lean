import Mathlib.Data.List.Nodup
import NodeRdkafka.Dispatcher

namespace NodeRdkafka

/-- The functions among the properties of a configuration object. -/
structure FunctionConfig where
  entries : List (String × JsFunction)
  keys : (entries.map Prod.fst).Nodup

/-- An RdKafka::Conf with the two dispatchers of its own. `setError` is the
text with which RdKafka::Conf::set refuses a callback under a key. -/
structure Conf where
  rebalanceCb : Option Dispatcher := none
  offsetCommitCb : Option Dispatcher := none
  setError : String → Option String

namespace Conf

/-- The handling of one of the two dispatchers, which an add brings into being. -/
def configureDispatcher (dispatcher : Option Dispatcher) (cb : JsFunction) (add : Bool) :
    Option Dispatcher :=
  if add then some ((dispatcher.getD {}).addCallback cb) else dispatcher.map (·.removeCallback cb)

/-- With an error text, if there is one. The callback is added even so. -/
def configureCallback (conf : Conf) (key : String) (cb : JsFunction) (add : Bool) :
    Conf × Option String :=
  if key = "rebalance_cb" then
    ({ conf with rebalanceCb := configureDispatcher conf.rebalanceCb cb add },
      if add then conf.setError key else none)
  else if key = "offset_commit_cb" then
    ({ conf with offsetCommitCb := configureDispatcher conf.offsetCommitCb cb add },
      if add then conf.setError key else none)
  else (conf, none)

/-- The loop of create over the functions, each added and removed at once. -/
def createLoop (conf : Conf) : List (String × JsFunction) → Except String Conf
  | [] => .ok conf
  | (key, cb) :: rest =>
    match conf.configureCallback key cb true with
    | (_, some errstr) => .error errstr
    | (added, none) => (added.configureCallback key cb false).1.createLoop rest

def create (setError : String → Option String) (functions : FunctionConfig) : Except String Conf :=
  createLoop { setError } functions.entries

end Conf

/-- The part of a connection that holds callbacks. Only a producer has a
dispatcher for delivery reports. -/
structure Connection where
  gconfig : Conf
  tconfig : Conf
  eventCb : Dispatcher := {}
  drCb : Option Dispatcher

inductive ConfigType
  | global
  | topic
  | event
  deriving DecidableEq

/-- The object _cb_configs of a client. -/
structure CbConfigs where
  global : FunctionConfig
  topic : FunctionConfig
  event : FunctionConfig

namespace CbConfigs

def functionConfig (configs : CbConfigs) : ConfigType → FunctionConfig
  | .global => configs.global
  | .topic => configs.topic
  | .event => configs.event

/-- The properties in the order in which native code meets them. -/
def entries (configs : CbConfigs) : List (ConfigType × String × JsFunction) :=
  [ConfigType.global, .topic, .event].flatMap fun configType =>
    (configs.functionConfig configType).entries.map (configType, ·)

/-- The functions configured under a key, of which there is at most one. -/
def functions (configs : CbConfigs) (configType : ConfigType) (key : String) : List JsFunction :=
  ((configs.functionConfig configType).entries.filter (·.1 = key)).map (·.2)

end CbConfigs

namespace Connection

def configureEventDispatcher (dispatcher : Dispatcher) (cb : JsFunction) (add : Bool) : Dispatcher :=
  if add then dispatcher.addCallback cb else dispatcher.removeCallback cb

/-- Connection::ConfigureCallback with the override of Producer. -/
def configureCallback (c : Connection) (key : String) (cb : JsFunction) (add : Bool) : Connection :=
  if key = "delivery_cb" then { c with drCb := c.drCb.map (configureEventDispatcher · cb add) }
  else if key = "event_cb" then { c with eventCb := configureEventDispatcher c.eventCb cb add }
  else c

/-- One property, with the text of the exception that it ends the call with. -/
def configureEntry (c : Connection) (configType : ConfigType) (key : String) (cb : JsFunction)
    (add : Bool) : Connection × Option String :=
  match configType with
  | .global =>
    let (gconfig, errstr) := c.gconfig.configureCallback key cb add
    ({ c with gconfig }, errstr)
  | .topic =>
    let (tconfig, errstr) := c.tconfig.configureCallback key cb add
    ({ c with tconfig }, errstr)
  | .event => (c.configureCallback key cb add, none)

def configureEntries (c : Connection) (add : Bool) :
    List (ConfigType × String × JsFunction) → Connection × Option String
  | [] => (c, none)
  | (configType, key, cb) :: rest =>
    match c.configureEntry configType key cb add with
    | (configured, some errstr) => (configured, some errstr)
    | (configured, none) => configured.configureEntries add rest

/-- NodeConfigureCallbacks -/
def configureCallbacks (c : Connection) (add : Bool) (configs : CbConfigs) :
    Connection × Option String :=
  c.configureEntries add configs.entries

end Connection

def Conf.dispatcher (conf : Conf) (key : String) : Option Dispatcher :=
  if key = "rebalance_cb" then conf.rebalanceCb
  else if key = "offset_commit_cb" then conf.offsetCommitCb
  else none

def Connection.eventDispatcher (c : Connection) (key : String) : Option Dispatcher :=
  if key = "delivery_cb" then c.drCb else if key = "event_cb" then some c.eventCb else none

/-- The dispatcher that serves a key, if native code has one for it. -/
def Connection.dispatcher (c : Connection) : ConfigType → String → Option Dispatcher
  | .global => c.gconfig.dispatcher
  | .topic => c.tconfig.dispatcher
  | .event => c.eventDispatcher

/-- The callbacks registered under a key. -/
def Connection.callbacks (c : Connection) (configType : ConfigType) (key : String) : List JsFunction :=
  ((c.dispatcher configType key).map (·.callbacks)).getD []

end NodeRdkafka
