import RelayRoster.Roster.Align

namespace RelayRoster

/-- The task that applies reloaded settings: those sent and not yet received, whether more can be
sent, and whether the task still runs. -/
structure Reload where
  inbox : List Settings := []
  connected : Bool := true
  running : Bool := true

namespace Reload

def send (t : Reload) (s : Settings) : Bool × Reload :=
  if t.connected && t.running then (true, { t with inbox := t.inbox ++ [s] }) else (false, t)

def close (t : Reload) : Bool × Reload := (t.connected, { t with connected := false })

def applied (c : Changes) (r : Roster) : Roster :=
  if c.isEmpty then r else r.report (.reloadApplied c.added c.removed)

def apply (s : Settings) (r : Roster) : Roster :=
  let (c, r) := r.align s
  applied c r

/-- One turn: applies the settings received next, waits if none were sent, and ends when there will
be no more. -/
def receive (t : Reload) (r : Roster) : Reload × Roster :=
  if t.running then
    match t.inbox with
    | s :: rest => ({ t with inbox := rest }, apply s r)
    | [] => ({ t with running := t.connected }, r)
  else (t, r)

/-- The stop signal ends the task and leaves what it has not received. -/
def stop (t : Reload) (r : Roster) : Reload × Roster :=
  if t.running then ({ t with running := false }, r.report .reloadStopped) else (t, r)

def settle (t : Reload) (r : Roster) : Reload × Roster :=
  if t.running then
    ({ t with inbox := [], running := t.connected }, t.inbox.foldl (fun r s => apply s r) r)
  else (t, r)

end Reload
end RelayRoster
