import SoilSensor.Common.Machine
import SoilSensor.Common.TicketQueue
import SoilSensor.App.Model.Event
import SoilSensor.Reset.Model.Wipe
/-!
# Model — the factory-reset handler and the event loop

`factory_reset.cpp`, run by the platform's event loop: one thread takes
platform events and scheduled closures off one queue, and takes the next
when it is done with the one before. Other threads put items at the back
at any time, also while a handler sleeps.
-/

namespace SoilSensor

/-- An item of the platform's queue. -/
inductive Item
  | event (type : DeviceEventType)
  | work (closure : Closure)
  deriving DecidableEq

/-- The event loop and the flag of `factory_reset.cpp`. `saves` are the
numbers of the closures `DoFullMatterWipe` scheduled, `executed` those of
the closures that were run, and `reset` is set where `NVIC_SystemReset` is
reached. -/
structure EventLoop where
  queue : TicketQueue Item
  sFactoryResetScheduled : Bool
  saves : List ℕ
  executed : List ℕ
  reset : Bool

namespace EventLoop

variable {σ : Type*}

/-- An item put by another thread. -/
def put (item : Item) (l : EventLoop) : EventLoop := { l with queue := l.queue.put item }

/-- `PlatformMgr().ScheduleWork` within the wipe: its other calls put
nothing into the queue. -/
def scheduleWork (l : EventLoop) : Call → EventLoop
  | .scheduleWork closure =>
    { l with queue := l.queue.put (.work closure), saves := l.saves ++ [l.queue.next] }
  | _ => l

/-- `DoFactoryResetLikeNordic`: the wipe, from a state `world` of the
stack, the delay in which other threads put the items `during`, and the
reset. -/
def doFactoryResetLikeNordic (p : Stack σ) (world : σ) (during : List Item) (l : EventLoop) :
    EventLoop :=
  if l.sFactoryResetScheduled then l
  else
    let l := { l with sFactoryResetScheduled := true }
    let l := ((doFullMatterWipe p world).log.map Performed.call).foldl scheduleWork l
    let l := { l with queue := l.queue.putAll during }
    { l with reset := true }

/-- `FactoryResetEventHandler`. -/
def factoryResetEventHandler (p : Stack σ) (world : σ) (during : List Item)
    (event : Option DeviceEventType) (l : EventLoop) : EventLoop :=
  if event ≠ some .kFactoryReset then l
  else doFactoryResetLikeNordic p world during l

/-- The steps of the loop. -/
inductive Step (σ : Type*)
  /-- Another thread puts an item. -/
  | put (item : Item)
  /-- The loop's thread takes the oldest item and handles it. -/
  | process (world : σ) (during : List Item)

/-- **What a step does**; after the reset there is none. -/
def step (p : Stack σ) (l : EventLoop) : Step σ → Option EventLoop
  | .put item => if l.reset then none else some (put item l)
  | .process world during =>
    if l.reset then none
    else
      match l.queue.get? with
      | none => none
      | some ((_, .event type), queue) =>
        some (factoryResetEventHandler p world during (some type) { l with queue := queue })
      | some ((number, .work _), queue) =>
        some { l with queue := queue, executed := l.executed ++ [number] }

end EventLoop

/-- **The event loop**, over a queue that holds `items` at the start. -/
def eventLoop {σ : Type*} (p : Stack σ) (items : List Item) :
    Machine EventLoop (EventLoop.Step σ) where
  init := ⟨TicketQueue.empty.putAll items, false, [], [], false⟩
  step := EventLoop.step p

end SoilSensor
