import ComposingProxy.Broadcast

/-!
# Shutdown

One event told to everyone who listens, over a channel that keeps the latest message
only. Whoever waits for the event waits until it hears anything at all: the event itself, that it
has missed it, or that nobody is left to tell it.
-/

namespace ComposingProxy

/-- What waiting comes to. -/
inductive Waiting where
  | ready
  | pending
  /-- The listener is not there. -/
  | gone
  deriving DecidableEq, Repr

/-- The channel that the event is told over. -/
structure Shutdown where
  channel : Broadcast Unit := { capacity := 1 }
  deriving DecidableEq, Repr

namespace Shutdown

/-- Begins to listen; gives the number of the listener. -/
def subscribe? (shutdown : Shutdown) : Option (Nat × Shutdown) :=
  if shutdown.channel.isOpen then
    some (shutdown.channel.listeners.length, ⟨shutdown.channel.subscribe⟩)
  else none

/-- Tells the event; gives the number of those who hear it. Where nobody listens, nothing
happens. -/
def trigger? (shutdown : Shutdown) : Option (Nat × Shutdown) :=
  if shutdown.channel.isOpen then
    match shutdown.channel.send? () with
    | some (audience, channel) => some (audience, ⟨channel⟩)
    | none => some (0, shutdown)
  else none

/-- Ends the telling. -/
def close? (shutdown : Shutdown) : Option Shutdown :=
  if shutdown.channel.isOpen then some ⟨{ shutdown.channel with isOpen := false }⟩ else none

/-- Takes a listener away; tells whether it was there. -/
def leave (shutdown : Shutdown) (number : Nat) : Bool × Shutdown :=
  ((shutdown.channel.listener number).isThere, ⟨shutdown.channel.setListener number .gone⟩)

/-- Asks someone who waits whether the event has happened. If so, the waiting is over and the
listener is used up; else it goes on. -/
def ask (shutdown : Shutdown) (number : Nat) : Waiting × Shutdown :=
  match shutdown.channel.listener number with
  | .gone => (.gone, shutdown)
  | .awaits next =>
    let (hearing, next) := shutdown.channel.hear next
    if hearing = .nothing then
      (.pending, ⟨shutdown.channel.setListener number (.awaits next)⟩)
    else (.ready, (shutdown.leave number).2)

/-- Asks once whether the event has happened, and does not wait any longer. -/
def wait (shutdown : Shutdown) (number : Nat) : Waiting × Shutdown :=
  ((shutdown.ask number).1, ((shutdown.ask number).2.leave number).2)

end Shutdown

end ComposingProxy
