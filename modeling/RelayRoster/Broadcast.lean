namespace RelayRoster

/-- A signal sent to everyone who is subscribed. Of several signals only the latest is kept. A
receiver is known by its name, with the number of the signal it gets next. -/
structure Broadcast where
  sent : Nat := 0
  receivers : List (String × Nat) := []
  deriving DecidableEq, Repr

inductive Received where
  | signal
  | nothing
  | lagged (missed : Nat)
  deriving DecidableEq, Repr

namespace Broadcast

def size (b : Broadcast) : Nat := b.receivers.length

def unsubscribe (b : Broadcast) (name : String) : Broadcast :=
  { b with receivers := b.receivers.filter (·.1 ≠ name) }

def subscribe (b : Broadcast) (name : String) : Broadcast :=
  let b := b.unsubscribe name
  { b with receivers := (name, b.sent) :: b.receivers }

/-- Without receivers a signal is not even kept. -/
def send (b : Broadcast) : Broadcast :=
  if b.receivers.isEmpty then b else { b with sent := b.sent + 1 }

def advance (b : Broadcast) (name : String) (next : Nat) : Broadcast :=
  { b with receivers := b.receivers.map fun x => if x.1 = name then (name, next) else x }

/-- A receiver that is behind the kept signal is told how many it missed, and gets the kept one the
next time. -/
def receive (b : Broadcast) (name : String) : Received × Broadcast :=
  match b.receivers.lookup name with
  | none => (.nothing, b)
  | some next =>
    if b.sent ≤ next then (.nothing, b)
    else if next + 1 = b.sent then (.signal, b.advance name b.sent)
    else (.lagged (b.sent - 1 - next), b.advance name (b.sent - 1))

end Broadcast
end RelayRoster
