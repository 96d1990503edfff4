/-
What instrumentation does to the world.

Instrumentation never touches a metric itself.  It says, one after the other, what is
to be done: raise this gauge, count these values there, write this to the log.  An
effect is one such saying.  The order of effects is part of their meaning, log
records stand between recordings where they belong, and the store makes good on the
effects afterwards.
-/
import Telemetry.Event
import Telemetry.Log
import Telemetry.Sink

namespace Telemetry

/-- One thing that instrumentation, or a listener beside it, does. -/
inductive Effect
  | raise (sink : GaugeSink)
  | lower (sink : GaugeSink)
  | count (sink : CounterSink) (values : List String)
  | observe (sink : ObserverSink) (reading : Reading) (values : List String)
  /-- A hook wrote down that a phase was reached. -/
  | note (tag : String) (phase : Phase) (reading : Reading)
  /-- A listener heard an event. -/
  | hear (listener : String) (event : Event)
  | log (record : LogRecord)
deriving DecidableEq

/-- The part of an effect that can be watched from outside as it happens. -/
inductive Sighting
  | raised (probe : String)
  | lowered (probe : String)
  | counted (probe : String) (values : List String)
  | observed (probe : String) (seconds : Float) (values : List String)
  | noted (tag : String) (phase : Phase) (seconds : Float)
  | heard (listener : String) (event : Event)

namespace Effect

/-- What a watcher sees of the effect: probes, notes and listeners show themselves,
stored metrics and the log do not. -/
def sighting? : Effect → Option Sighting
  | raise (.probe name) => some (.raised name)
  | lower (.probe name) => some (.lowered name)
  | count (.probe name _) values => some (.counted name values)
  | observe (.probe name _) reading values => some (.observed name reading.seconds values)
  | note tag phase reading => some (.noted tag phase reading.seconds)
  | hear listener event => some (.heard listener event)
  | _ => none

/-- The log record that the effect writes, if it writes one. -/
def logRecord? : Effect → Option LogRecord
  | log record => some record
  | _ => none

end Effect

end Telemetry
