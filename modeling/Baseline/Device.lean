import Baseline.Bytes
import Baseline.Fault

/-!
# Devices

What is written to an opened file ends up on a device.  A device takes all bytes, or so
many more and refuses those behind them with a fault, such as that no space is left; it
does not find room by itself.

Bytes are handed over in large pieces: an `Outlet` lets small ones wait until there are
too many of them or until it is flushed.  What the device has refused of these goes on
waiting, in front of what comes next.
-/

namespace Baseline

/-- Takes the bytes that are written to a file. -/
inductive Device
  /-- Takes all bytes. -/
  | endless
  /-- Takes so many more bytes. -/
  | limited (room : Nat) (fault : Fault)
deriving DecidableEq

namespace Device

/-- The fault with which a device refuses some of a number of bytes, if it does. -/
def refusal? : Device → Nat → Option Fault
  | .endless, _ => none
  | .limited room fault, n => if n ≤ room then none else some fault

/-- The bytes that a device takes. -/
def taken : Device → Bytes → Bytes
  | .endless, data => data
  | .limited room _, data => data.take room

/-- The device after a number of bytes was handed to it. -/
def after : Device → Nat → Device
  | .endless, _ => .endless
  | .limited room fault, n => .limited (room - n) fault

end Device

/-- Bytes on their way to a device. -/
structure Outlet where
  /-- What the device has taken. -/
  taken : Bytes
  /-- What waits to be handed over. -/
  waiting : Bytes
  device : Device

/-- A piece of the way. -/
abbrev Delivery := EStateM Fault Outlet Unit

namespace Outlet

/-- How many bytes can wait. -/
def capacity : Nat := 8192

/-- Hand bytes over. -/
def hand (data : Bytes) : Delivery := fun o =>
  let o' := { o with
    taken := o.taken ++ o.device.taken data
    device := o.device.after data.length }
  match o.device.refusal? data.length with
  | none => .ok () o'
  | some fault => .error fault o'

/-- Hand over what waits; what is refused of it goes on waiting. -/
def flush : Delivery := fun o =>
  match hand o.waiting o with
  | .ok () o' => .ok () { o' with waiting := [] }
  | .error fault o' =>
    .error fault { o' with waiting := o.waiting.drop (o.device.taken o.waiting).length }

/-- Let bytes wait. -/
def hold (data : Bytes) : Delivery := fun o => .ok () { o with waiting := o.waiting ++ data }

/-- Let bytes wait behind the others, which are handed over first when there is not enough room for
both.  A piece for which there is no room at all does not wait. -/
def put (data : Bytes) : Delivery := do
  if capacity - (← get).waiting.length < data.length then flush
  if capacity ≤ data.length then hand data else hold data

/-- Hand over pieces, one behind the other, and all that waits. -/
def putAll : List Bytes → Delivery
  | [] => flush
  | piece :: rest => do
    put piece
    putAll rest

end Outlet

end Baseline
