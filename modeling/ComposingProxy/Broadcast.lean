/-!
# Broadcasting

A channel carries messages from a sender to everyone who listens. Messages are numbered as
they are sent, and a listener hears those that are sent after it has begun to listen, each
of them once. Only the latest messages are kept. A listener that comes too late for one is told
how many it has missed, and goes on with the oldest that is kept. When the sender is
gone, listeners hear what is left for them, and then that it is over.
-/

namespace ComposingProxy

/-- Someone who may hear messages. -/
inductive Listener where
  /-- Listening; the number of the message it hears next. -/
  | awaits (next : Nat)
  /-- Dropped. -/
  | gone
  deriving DecidableEq, Repr

/-- Whether a listener is there. -/
def Listener.isThere : Listener → Bool
  | .awaits _ => true
  | .gone => false

/-- What a listener hears when it asks for the next message. -/
inductive Hearing (α : Type) where
  | message (value : α)
  /-- So many messages came and are no longer kept. -/
  | missed (count : Nat)
  /-- All is heard, and the sender is gone. -/
  | over
  /-- All is heard so far. -/
  | nothing
  deriving DecidableEq, Repr

/-- A channel. -/
structure Broadcast (α : Type) where
  /-- The most messages that are kept. -/
  capacity : Nat
  /-- Whether the sender is there. -/
  isOpen : Bool := true
  /-- How many messages were sent and are no longer kept. -/
  forgotten : Nat := 0
  /-- The messages that are kept, oldest first. -/
  kept : List α := []
  /-- The listeners, in the order they came. -/
  listeners : List Listener := []
  deriving DecidableEq, Repr

namespace Broadcast

variable {α : Type}

/-- How many messages were sent, which is the number of the next one. -/
def sent (channel : Broadcast α) : Nat := channel.forgotten + channel.kept.length

/-- A listener by its number. -/
def listener (channel : Broadcast α) (number : Nat) : Listener :=
  channel.listeners.getD number .gone

/-- The number of listeners that are there. -/
def audience (channel : Broadcast α) : Nat := channel.listeners.countP Listener.isThere

/-- Puts another listener in the place of one. -/
def setListener (channel : Broadcast α) (number : Nat) (listener : Listener) : Broadcast α :=
  { channel with listeners := channel.listeners.set number listener }

/-- Begins to listen. -/
def subscribe (channel : Broadcast α) : Broadcast α :=
  { channel with listeners := channel.listeners ++ [.awaits channel.sent] }

/-- Keeps a message, and of all that are kept then only the latest. -/
def store (channel : Broadcast α) (value : α) : Broadcast α :=
  let surplus := channel.kept.length + 1 - channel.capacity
  { channel with
    forgotten := channel.forgotten + surplus
    kept := (channel.kept ++ [value]).drop surplus }

/-- Sends a message to those who listen, and tells how many they are. A message that nobody
would hear is not sent. -/
def send? (channel : Broadcast α) (value : α) : Option (Nat × Broadcast α) :=
  if channel.audience = 0 then none else some (channel.audience, channel.store value)

/-- What a listener hears that has come to the message `next`, and the message it comes to. -/
def hear (channel : Broadcast α) (next : Nat) : Hearing α × Nat :=
  if next < channel.forgotten then (.missed (channel.forgotten - next), channel.forgotten)
  else
    match channel.kept[next - channel.forgotten]? with
    | some value => (.message value, next + 1)
    | none => (if channel.isOpen then .nothing else .over, next)

end Broadcast

end ComposingProxy
