import Mathlib.Data.List.Basic

namespace NodeRdkafka

/-- A JavaScript function as native code tells functions apart. -/
abbrev JsFunction := Nat

/-- The part that all dispatchers share: the registered callbacks and whether
there is a uv_async handle. -/
structure Dispatcher where
  callbacks : List JsFunction := []
  async : Bool := false
  deriving DecidableEq

namespace Dispatcher

def hasCallbacks (d : Dispatcher) : Bool := !d.callbacks.isEmpty

def activate (d : Dispatcher) : Dispatcher := { d with async := true }

def deactivate (d : Dispatcher) : Dispatcher := { d with async := false }

def addCallback (d : Dispatcher) (cb : JsFunction) : Dispatcher :=
  { d with callbacks := d.callbacks ++ [cb] }

/-- Only the first registration of the function is removed. -/
def removeCallback (d : Dispatcher) (cb : JsFunction) : Dispatcher :=
  { d with callbacks := d.callbacks.erase cb }

/-- The calls made for one event, in the order of registration. -/
def dispatch {ε : Type} (d : Dispatcher) (event : ε) : List (JsFunction × ε) :=
  d.callbacks.map (·, event)

end Dispatcher
end NodeRdkafka
