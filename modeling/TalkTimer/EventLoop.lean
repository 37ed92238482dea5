import TalkTimer.Session

/-!
# The event loop

Ticks and commands come in one queue and are taken in the order of their arrival, so no
two of them ever meet. The loop ends with the first request to quit, or with the queue;
what stands behind the request stays there.
-/

namespace TalkTimer

/-- What may arrive in the queue. -/
inductive Event
  | tick
  | command (c : Command)
  | quit
  deriving DecidableEq, Repr

namespace Session

/-- Take one event. The request to quit changes nothing. -/
def take (s : Session) : Event → Session × Update
  | .tick => s.tick
  | .command c => s.dispatch c
  | .quit => (s, .nothing)

/-- The session after each event up to the first request to quit, with what the event changed. -/
def trace (s : Session) : List Event → List (Session × Update)
  | [] => []
  | .quit :: _ => []
  | e :: es => s.take e :: (s.take e).1.trace es

/-- The session at the end of the loop. -/
def run (s : Session) (events : List Event) : Session :=
  ((s.trace events).getLast?.map Prod.fst).getD s

/-- `n` seconds go by; the result tells what each of them changed, last one first. -/
def tickTimes : Nat → Session × List Update → Session × List Update
  | 0, r => r
  | n + 1, (s, us) => tickTimes n (s.tick.1, s.tick.2 :: us)

end Session

/-- The events that the loop leaves in the queue. -/
def leftover : List Event → List Event
  | [] => []
  | .quit :: es => es
  | _ :: es => leftover es

/-- The clock behind the ticks. It only has to know whether the talk was running. -/
structure Ticker where
  playing : Bool
  deriving DecidableEq, Repr

namespace Ticker

/-- A new clock takes the talk to be held. -/
def start : Ticker := ⟨false⟩

/-- Follow the talk. The result also tells whether the current interval begins anew: it does when a
held talk runs again, so that the first tick after a pause comes a whole interval later. -/
def follow (playing : Bool) (t : Ticker) : Ticker × Bool := (⟨playing⟩, playing && !t.playing)

/-- What the clock sends in a number of intervals. -/
def events (intervals : Nat) : List Event := List.replicate intervals .tick

end Ticker
end TalkTimer
