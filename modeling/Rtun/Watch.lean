import Mathlib.Logic.Basic

/-!
# A watch channel

A watch channel holds one current value and a version number that grows with
every publication. A receiver remembers the last version it has regarded as seen.
Subscribing regards the current version as seen; a receiver is notified exactly
when a later version exists; reading the value marks the version it returns.
Publications that fall between two reads coalesce: only the last one is read.
-/

namespace Rtun.Watch

universe u
variable {α : Type u}

/-- The sending half: the current value and how often it has been replaced. -/
structure Channel (α : Type u) where
  value : α
  version : Nat
deriving DecidableEq

/-- The receiving half remembers only the last version regarded as seen. -/
structure Receiver where
  seen : Nat
deriving DecidableEq

namespace Channel

/-- A channel that has not been written since its creation. -/
def new (value : α) : Channel α := { value, version := 0 }

/-- Publish a value whether or not anyone is subscribed. -/
def sendReplace (channel : Channel α) (value : α) : Channel α :=
  { value, version := channel.version + 1 }

/-- A new receiver regards the current value as already seen. -/
def subscribe (channel : Channel α) : Receiver := { seen := channel.version }

/-- A receiver's wait for a change ends exactly when a later version exists. -/
def hasChanged (channel : Channel α) (receiver : Receiver) : Bool :=
  decide (receiver.seen < channel.version)

/-- Read the current value and mark its version, and no other, as seen. -/
def borrowAndUpdate (channel : Channel α) (_ : Receiver) : α × Receiver :=
  (channel.value, { seen := channel.version })

/-- What was sent last is the value. -/
@[simp] theorem sendReplace_value (channel : Channel α) (value : α) :
    (channel.sendReplace value).value = value := rfl

/-- Sending counts the version up, also if the value is the same as before. -/
@[simp] theorem sendReplace_version (channel : Channel α) (value : α) :
    (channel.sendReplace value).version = channel.version + 1 := rfl

/-- A receiver starts out having seen the version of the moment at which it
subscribes. -/
@[simp] theorem subscribe_seen (channel : Channel α) : channel.subscribe.seen = channel.version := rfl

end Channel

end Rtun.Watch
