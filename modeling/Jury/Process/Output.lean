import Jury.Protected.StreamingRedaction

-- The output of a child read from a nonblocking pipe: every poll makes a bounded number of attempts, hands what it
-- reads through the redactor to an observer, and keeps the first bytes of that.
namespace Jury.Process

open Lib Protected

def MAX_OUTPUT_READS_PER_POLL : Nat := 64
def MAX_OUTPUT_READS_PER_POLL_AFTER_TRUNCATION : Nat := 16
def OUTPUT_CHUNK_LEN : Nat := 4096

inductive OwnedProcessOutputStream where
  | stdout
  | stderr
deriving DecidableEq

-- What one attempt to read gives. A read of zero bytes is the end of the file.
inductive ReadResult where
  | read (bytes : Octets) (nonempty : bytes ≠ []) (fits : bytes.length ≤ OUTPUT_CHUNK_LEN)
  | endOfFile
  | interrupted
  | wouldBlock
  | failed

def ReadResult.bytes : ReadResult → Octets
  | read bytes _ _ => bytes
  | _ => []

structure OutputDrain where
  reader : Bool
  redactor : Option StreamingRedactor
  bytes : Octets
  limit : Nat
  truncated : Bool
  complete : Bool

structure OutputPoll where
  madeProgress : Bool
  overflow : Option OwnedProcessOutputStream
deriving DecidableEq

def OutputPoll.default : OutputPoll := { madeProgress := false, overflow := none }

-- A drain together with its past: what the observer has received, and the attempts to read that were made.
structure ObservedDrain extends OutputDrain where
  received : Octets
  attempts : List ReadResult

namespace ObservedDrain

def start (limit : Nat) (redactor : Option StreamingRedactor) : ObservedDrain where
  reader := true
  redactor
  bytes := []
  limit
  truncated := false
  complete := false
  received := []
  attempts := []

def read (drain : ObservedDrain) : Octets := drain.attempts.flatMap (·.bytes)

-- The observer takes everything, the capture what there is room for.
def write (drain : ObservedDrain) (visible : Octets) : ObservedDrain :=
  let remaining := drain.limit - drain.bytes.length
  let retained := min remaining visible.length
  { drain with
    received := drain.received ++ visible
    bytes := drain.bytes ++ visible.take retained
    truncated := drain.truncated || decide (retained < visible.length) }

-- The flag says whether this was the write that overflowed.
def emit (drain : ObservedDrain) (raw : Octets) : Except ChunkError (ObservedDrain × Bool) :=
  match drain.redactor with
  | some redactor => do
    let (visible, redactor) ← redactor.pushChunk raw
    let next := { drain with redactor := some redactor }.write visible
    return (next, !drain.truncated && next.truncated)
  | none =>
    let next := drain.write raw
    return (next, !drain.truncated && next.truncated)

def finishRedaction (drain : ObservedDrain) : ObservedDrain × Bool :=
  match drain.redactor with
  | some redactor =>
    let next := { drain with redactor := none }.write redactor.finish
    (next, !drain.truncated && next.truncated)
  | none => (drain, false)

def overflowed (stream : OwnedProcessOutputStream) (poll : OutputPoll) (now : Bool) : OutputPoll :=
  if now then { poll with overflow := some stream } else poll

-- One attempt: the drain after it, the poll so far, and whether the poll goes on.
def attempt (stream : OwnedProcessOutputStream) (drain : ObservedDrain) (poll : OutputPoll) (result : ReadResult) :
    Except ChunkError (ObservedDrain × OutputPoll × Bool) :=
  let drain := { drain with attempts := drain.attempts ++ [result] }
  match result with
  | .endOfFile =>
    let (next, now) := { drain with reader := false }.finishRedaction
    return ({ next with complete := true }, overflowed stream poll now, false)
  | .read bytes _ _ => do
    let (next, now) ← drain.emit bytes
    return (next, overflowed stream { poll with madeProgress := true } now, true)
  | .interrupted => return (drain, poll, true)
  | .wouldBlock => return (drain, poll, false)
  -- The overlap that was not committed is dropped with the redactor.
  | .failed => return ({ drain with reader := false, redactor := none }, poll, false)

-- The attempts from an index on, with what they will find. Where that runs out the pipe has nothing yet.
def pollFrom (stream : OwnedProcessOutputStream) (readIndex : Nat) (drain : ObservedDrain) (poll : OutputPoll) :
    List ReadResult → Except ChunkError (ObservedDrain × OutputPoll)
  | [] => return (drain, poll)
  | result :: rest =>
    if readIndex ≥ MAX_OUTPUT_READS_PER_POLL
        || (drain.truncated && decide (readIndex ≥ MAX_OUTPUT_READS_PER_POLL_AFTER_TRUNCATION)) then
      return (drain, poll)
    else do
      let (next, poll, goesOn) ← drain.attempt stream poll result
      if goesOn then pollFrom stream (readIndex + 1) next poll rest else return (next, poll)

def poll (stream : OwnedProcessOutputStream) (drain : ObservedDrain) (results : List ReadResult) :
    Except ChunkError (ObservedDrain × OutputPoll) :=
  if drain.reader then pollFrom stream 0 drain .default results else return (drain, .default)

end ObservedDrain

-- While the pipe is open, what is not yet delivered is what the redactor holds back; a pipe that failed has delivered
-- a part, and one that ended has delivered everything.
inductive Delivered (patterns : List Octets) (drain : ObservedDrain) : Prop where
  | streaming (redactor : StreamingRedactor) (isOpen : drain.reader = true) (incomplete : drain.complete = false)
      (held : drain.redactor = some redactor) (streaming : redactor.Streaming patterns)
      (running : .endOfFile ∉ drain.attempts ∧ .failed ∉ drain.attempts)
      (delivered : ∀ more, redact patterns (drain.read ++ more) =
        drain.received ++ redact patterns (redactor.pending ++ more))
  | failed (closed : drain.reader = false) (incomplete : drain.complete = false)
      (running : .endOfFile ∉ drain.attempts)
      (delivered : ∀ more, drain.received <+: redact patterns (drain.read ++ more))
  | ended (closed : drain.reader = false) (complete : drain.complete = true) (ended : .endOfFile ∈ drain.attempts)
      (delivered : drain.received = redact patterns drain.read)

section Polls

variable {drain : ObservedDrain}

end Polls

namespace Sample

open Protected.Sample

def piece (text : String) (nonempty : text.toUTF8.toList ≠ []) (fits : text.toUTF8.toList.length ≤ OUTPUT_CHUNK_LEN) :
    ReadResult :=
  .read text.toUTF8.toList nonempty fits

end Sample

end Jury.Process
