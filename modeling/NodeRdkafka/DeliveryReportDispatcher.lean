import NodeRdkafka.DeliveryReport
import NodeRdkafka.Dispatcher
import NodeRdkafka.Lib.Mailbox

namespace NodeRdkafka
open Transition

/-- Where the main thread stands in DeliveryReportDispatcher::Flush. -/
inductive FlushState
  | idle
  | entered
  | dispatching (outstandingEventCount eventsListSize : Nat) (remaining : List DeliveryReport)
  deriving DecidableEq

/-- A Delivery with its dispatcher. `wakeup` is a sent uv_async that has not
yet run its callback, `owedExecutes` the dr_cb calls that got 1 from Add and
stand before their Execute. The last three fields record what happened. -/
structure DeliveryState where
  dispatcher : Dispatcher := {}
  drMsgCb : Bool := false
  events : List DeliveryReport := []
  owedExecutes : Nat := 0
  wakeup : Bool := false
  flush : FlushState := .idle
  added : List DeliveryReport := []
  dispatched : List DeliveryReport := []
  calls : List (JsFunction × DeliveryReport) := []
  deriving DecidableEq

namespace DeliveryState

/-- Dispatcher::Execute: sends coalesce into one wakeup. -/
def execute (s : DeliveryState) : DeliveryState :=
  { s with wakeup := s.wakeup || s.dispatcher.async }

def add (s : DeliveryState) (e : DeliveryReport) : DeliveryState × Nat :=
  ({ s with events := s.events ++ [e], added := s.added ++ [e] }, (s.events ++ [e]).length)

/-- Delivery::dr_cb up to the Execute call, which is a step of its own. -/
def drCb (s : DeliveryState) (message : Message) : DeliveryState :=
  if s.dispatcher.hasCallbacks then
    let (t, size) := s.add (.ofMessage message s.drMsgCb)
    if size = 1 then { t with owedExecutes := t.owedExecutes + 1 } else t
  else s

/-- The part of Flush under the lock. -/
def take (s : DeliveryState) : DeliveryState :=
  let outstandingEventCount := s.events.length
  let flushCount := min outstandingEventCount 100
  { s with events := s.events.drop flushCount,
           flush := .dispatching outstandingEventCount flushCount (s.events.take flushCount) }

end DeliveryState

inductive DeliveryAction
  | drCb (message : Message)
  | execute
  | asyncMessage
  | take
  | dispatch
  | finish
  | activate
  | deactivate
  | addCallback (cb : JsFunction)
  | removeCallback (cb : JsFunction)

/-- The interleavings of librdkafka threads with the main thread. Dispatched
callbacks may themselves poll, so dr_cb steps occur at any point of Flush;
closing the handle drops a wakeup that has not run. -/
def DeliveryState.step (s : DeliveryState) : DeliveryAction → Option DeliveryState
  | .drCb message => some (s.drCb message)
  | .execute =>
    if 0 < s.owedExecutes then some { s.execute with owedExecutes := s.owedExecutes - 1 } else none
  | .asyncMessage =>
    if s.wakeup ∧ s.flush = .idle then some { s with wakeup := false, flush := .entered } else none
  | .take => if s.flush = .entered then some s.take else none
  | .dispatch =>
    match s.flush with
    | .dispatching outstanding size (event :: remaining) =>
      some { s with flush := .dispatching outstanding size remaining,
                    dispatched := s.dispatched ++ [event],
                    calls := s.calls ++ s.dispatcher.dispatch event }
    | _ => none
  | .finish =>
    match s.flush with
    | .dispatching outstanding size [] =>
      some { (if size < outstanding then s.execute else s) with flush := .idle }
    | _ => none
  | .activate => some { s with dispatcher := s.dispatcher.activate }
  | .deactivate =>
    if s.flush = .idle then some { s with dispatcher := s.dispatcher.deactivate, wakeup := false }
    else none
  | .addCallback cb => some { s with dispatcher := s.dispatcher.addCallback cb }
  | .removeCallback cb => some { s with dispatcher := s.dispatcher.removeCallback cb }

namespace DeliveryState

/-- The reports taken by the running Flush and not yet dispatched. -/
def held (s : DeliveryState) : List DeliveryReport :=
  match s.flush with
  | .dispatching _ _ remaining => remaining
  | _ => []

/-- A dispatcher with an empty queue, just after Activate. -/
def activated (callbacks : List JsFunction) (drMsgCb : Bool) : DeliveryState :=
  { dispatcher := { callbacks := callbacks, async := true }, drMsgCb := drMsgCb }

def receiver (s : DeliveryState) : Mailbox.Receiver :=
  match s.flush with
  | .idle => .idle
  | .entered => .woken
  | .dispatching outstanding size _ => .draining (size < outstanding)

/-- The dispatcher seen as a mailbox whose receiver is the main thread. -/
def mailbox (s : DeliveryState) : Mailbox.State DeliveryReport :=
  { posted := s.added, delivered := s.dispatched, held := s.held, queue := s.events,
    owed := s.owedExecutes, pending := s.wakeup, receiver := s.receiver }

end DeliveryState
end NodeRdkafka
