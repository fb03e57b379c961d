/-!
# The signal to cancel

A request is given up through a handle, which sets a flag that any number of signals watch. The flag
is kept in a channel with a version that moves with every write, so that a watcher can wait for the
next one. A watcher reads the flag; if it is not set, the watcher waits until the version has moved
since it last looked. When the handle has been dropped and nothing has moved, nothing ever will, and
the watcher gives up waiting for good.
-/

namespace ComplianceTriage.Signal

/-- What a handle and its signals share. -/
structure Channel where
  /-- Whether cancelling has been asked for. -/
  flag : Bool
  /-- The number of writes so far. -/
  version : Nat
  /-- Whether the handle still exists. -/
  held : Bool
deriving DecidableEq, Repr, Inhabited

namespace Channel

/-- A new channel, with its handle. -/
def fresh : Channel := ⟨false, 0, true⟩

/-- A channel whose handle is gone from the start. -/
def abandoned : Channel := ⟨false, 0, false⟩

/-- Asks for cancelling. Only the handle can, so nothing happens once it is gone. -/
def cancel (channel : Channel) : Channel :=
  if channel.held then { channel with flag := true, version := channel.version + 1 } else channel

/-- Drops the handle. -/
def drop (channel : Channel) : Channel :=
  { channel with held := false }

end Channel

/-- Where a watcher stands; it remembers the version that it last looked at. -/
inductive Watcher where
  /-- About to read the flag. -/
  | reading
  /-- Has read that the flag is not set. -/
  | waiting (seen : Nat)
  /-- Has read that the flag is set, and is done. -/
  | resolved
  /-- Has found that the handle is gone, and waits for ever. -/
  | stranded
deriving DecidableEq, Repr, Inhabited

namespace Watcher

/-- The next step of a watcher. -/
def step (channel : Channel) : Watcher → Watcher
  | reading => if channel.flag then resolved else waiting channel.version
  | waiting seen =>
    -- A write that came in time is seen even if the handle is gone by now.
    if channel.version ≠ seen then reading
    else if channel.held then waiting seen
    else stranded
  | resolved => resolved
  | stranded => stranded

/-- A watcher that starts now, after as many steps as it can take while the channel stays as it
is. -/
def settled (channel : Channel) : Watcher :=
  ((reading.step channel).step channel).step channel

end Watcher

/-- The channel of a signal: that of the handle, or one on which nothing ever happens. -/
inductive Source where
  | handle
  | never
deriving DecidableEq, Repr, Inhabited

/-- The channel that a signal watches, given the one of the handle. -/
def Source.channel (own : Channel) : Source → Channel
  | handle => own
  | never => .abandoned

/-- Whether a signal says that cancelling has been asked for. -/
def isCancelled (own : Channel) (source : Source) : Bool :=
  (source.channel own).flag

/-- Whether waiting for a signal, begun now, is over at once. -/
def resolves (own : Channel) (source : Source) : Bool :=
  Watcher.settled (source.channel own) = .resolved

end ComplianceTriage.Signal
