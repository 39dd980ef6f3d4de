/-!
# The host's clock

The host has a clock that goes on while the guest runs. A batch is told the time of each of its
instructions, so whatever the clock does in the meantime can be seen by the guest.
-/

namespace BankedZ80

/-- The host's clock during a batch: the time, in seconds since 1970, at which the batch's n-th
instruction is executed. -/
structure Clock where
  time : Nat → UInt64

namespace Clock

/-- A clock that stands still. -/
def still (seconds : UInt64) : Clock := ⟨fun _ => seconds⟩

instance : Coe UInt64 Clock := ⟨still⟩

/-- The clock of the instructions that follow the first so many. -/
def after (c : Clock) (count : Nat) : Clock := ⟨fun n => c.time (count + n)⟩

end Clock

end BankedZ80
