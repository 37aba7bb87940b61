import Jury.Process.Output

-- Supervision of a child that is fed protected input: every round writes to the child's pipe what it takes, drains the
-- output, and looks whether the child has exited.
namespace Jury.Process

open Lib Protected

def MAX_INPUT_WRITES_PER_POLL : Nat := 64

-- What one attempt to write gives: the pipe takes as many bytes as it has room for.
inductive WriteResult where
  | wrote (room : Nat)
  | interrupted
  | wouldBlock
  | failed
  | unavailable
deriving DecidableEq

inductive InputError where
  | writeZero
  | failed
  | unavailable
deriving DecidableEq

structure InputPoll where
  madeProgress : Bool
deriving DecidableEq

-- The pipe is recorded with the drain: the bytes that it has taken.
structure ProtectedInputDrain where
  writer : Bool
  input : Octets
  offset : Nat
  pipe : Octets
deriving DecidableEq

namespace ProtectedInputDrain

def start (input : Octets) : ProtectedInputDrain :=
  { writer := !input.isEmpty, input, offset := 0, pipe := [] }

def take (drain : ProtectedInputDrain) (room : Nat) : ProtectedInputDrain :=
  let left := drain.input.drop drain.offset
  let written := min room left.length
  { drain with offset := drain.offset + written, pipe := drain.pipe ++ left.take written }

def pollFrom (writeIndex : Nat) (drain : ProtectedInputDrain) (poll : InputPoll) :
    List WriteResult → ProtectedInputDrain × Except InputError InputPoll
  | [] => (drain, .ok poll)
  | result :: rest =>
    if writeIndex ≥ MAX_INPUT_WRITES_PER_POLL then (drain, .ok poll)
    else
      match result with
      | .wrote room =>
        if room = 0 then (drain, .error .writeZero)
        else
          let drain := drain.take room
          if drain.offset = drain.input.length then ({ drain with writer := false }, .ok { madeProgress := true })
          else pollFrom (writeIndex + 1) drain { madeProgress := true } rest
      | .interrupted => pollFrom (writeIndex + 1) drain poll rest
      | .wouldBlock => (drain, .ok poll)
      | .failed => (drain, .error .failed)
      | .unavailable => (drain, .error .unavailable)

def poll (drain : ProtectedInputDrain) (results : List WriteResult) :
    ProtectedInputDrain × Except InputError InputPoll :=
  if drain.writer then pollFrom 0 drain { madeProgress := false } results else (drain, .ok { madeProgress := false })

end ProtectedInputDrain

inductive ProcessSignal where
  | hangup
  | interrupt
  | quit
  | terminate
  | user1
  | user2
deriving DecidableEq

inductive UnreapedChildObservation where
  | running
  | exited
deriving DecidableEq

inductive ProcessOutputOverflowPolicy where
  | truncate
  | error
deriving DecidableEq

-- What a round of supervision finds. Output that cannot be handed on and a child that cannot be observed are `none`.
structure Round where
  writes : List WriteResult
  output : Option OutputPoll
  cancelled : Bool
  signal : Option ProcessSignal
  forwarded : Bool
  observation : Option UnreapedChildObservation
  elapsed : Bool
deriving DecidableEq

inductive OwnedProcessWait where
  | exitedUnreaped
  | timedOut
  | cancelled
  | outputLimitExceeded (stream : OwnedProcessOutputStream)
  | signalForward (signal : ProcessSignal)
  | inputFailure
  | outputFailure
  -- The child could not be observed.
  | unobservable
deriving DecidableEq

-- What ends the waiting in a round, when something does, after its input has been polled.
def waitEnd (bounded : Bool) (policy : ProcessOutputOverflowPolicy) (round : Round) : Option OwnedProcessWait :=
  match round.output with
  | none => some .outputFailure
  | some poll =>
    match policy, poll.overflow with
    | .error, some stream => some (.outputLimitExceeded stream)
    | _, _ =>
      if round.cancelled then some .cancelled
      else
        match round.signal, round.forwarded with
        | some signal, false => some (.signalForward signal)
        | _, _ =>
          match round.observation with
          | none => some .unobservable
          | some .exited => some .exitedUnreaped
          | some .running => if bounded && round.elapsed then some .timedOut else none

def pollInput (input : Option ProtectedInputDrain) (writes : List WriteResult) : Option ProtectedInputDrain × Bool :=
  match input with
  | none => (none, false)
  | some drain =>
    match drain.poll writes with
    | (drain, .ok _) => (some drain, false)
    | (drain, .error _) => (some drain, true)

def waitForOwnedProcess (bounded : Bool) (policy : ProcessOutputOverflowPolicy) (input : Option ProtectedInputDrain) :
    List Round → Option (Option ProtectedInputDrain × OwnedProcessWait)
  | [] => none
  | round :: rest =>
    let (input, failed) := pollInput input round.writes
    if failed then some (input, .inputFailure)
    else
      match waitEnd bounded policy round with
      | some ending => some (input, ending)
      | none => waitForOwnedProcess bounded policy input rest

structure ExitStatus where
  code : Option Int
  signal : Option Int
deriving DecidableEq

structure BoundedProcessOutput where
  bytes : Octets
  truncated : Bool
  complete : Bool
deriving DecidableEq

structure OwnedProcessTreeOutput where
  status : ExitStatus
  stdout : Option BoundedProcessOutput
  stderr : Option BoundedProcessOutput
deriving DecidableEq

inductive OwnedProcessTreeError where
  | start
  | invalidTimeout
  | timedOut
  | cancelledBeforeStart
  | cancelled
  | outputLimitExceeded (stream : OwnedProcessOutputStream)
  | signalForward (signal : ProcessSignal)
  | stdin
  | output
  | await
  | cleanup
  | cleanupAfterFailure (primary : OwnedProcessTreeError)
deriving DecidableEq

def OwnedProcessWait.failure : OwnedProcessWait → Option OwnedProcessTreeError
  | exitedUnreaped => none
  | timedOut => some .timedOut
  | cancelled => some .cancelled
  | outputLimitExceeded stream => some (.outputLimitExceeded stream)
  | signalForward signal => some (.signalForward signal)
  | inputFailure => some .stdin
  | outputFailure => some .output
  | unobservable => some .await

-- The tree is ended on every outcome; cleaning up gives the status or fails.
def finishOwnedProcessWait (ending : OwnedProcessWait) (cleanup : Option ExitStatus) :
    Except OwnedProcessTreeError ExitStatus :=
  match cleanup, ending.failure with
  | none, some primary => .error (.cleanupAfterFailure primary)
  | none, none => .error .cleanup
  | some _, some primary => .error primary
  | some status, none => .ok status

def finalizeOwnedProcessOutput (status : ExitStatus) (stdout stderr : Option BoundedProcessOutput)
    (policy : ProcessOutputOverflowPolicy) : Except OwnedProcessTreeError OwnedProcessTreeOutput :=
  let overflows (output : Option BoundedProcessOutput) : Bool := policy == .error && output.any (·.truncated)
  if overflows stdout then .error (.outputLimitExceeded .stdout)
  else if overflows stderr then .error (.outputLimitExceeded .stderr)
  else .ok { status, stdout, stderr }

structure OwnedProcessTreeOptions where
  bounded : Bool
  overflowPolicy : ProcessOutputOverflowPolicy
  stdin : Option Octets

structure Environment where
  cancelled : Bool
  representable : Bool
  spawned : Bool
  stdinPiped : Bool
  outputStarted : Bool
  rounds : List Round
  cleanup : Option ExitStatus
  drained : Option (Option BoundedProcessOutput × Option BoundedProcessOutput)

def failWith (cleanup : Option ExitStatus) (primary : OwnedProcessTreeError) : OwnedProcessTreeError :=
  if cleanup.isSome then primary else .cleanupAfterFailure primary

-- The result with what the child's pipe has taken; a run whose rounds give out is still going on.
def runOwnedProcessTreeWithOptions (options : OwnedProcessTreeOptions) (env : Environment) :
    Option (Except OwnedProcessTreeError OwnedProcessTreeOutput × Octets) :=
  if env.cancelled then some (.error .cancelledBeforeStart, [])
  else if options.bounded && !env.representable then some (.error .invalidTimeout, [])
  else if !env.spawned then some (.error .start, [])
  else if options.stdin.isSome && !env.stdinPiped then some (.error (failWith env.cleanup .stdin), [])
  else if !env.outputStarted then some (.error (failWith env.cleanup .output), [])
  else do
    let (input, ending) ← waitForOwnedProcess options.bounded options.overflowPolicy
      (options.stdin.map ProtectedInputDrain.start) env.rounds
    let pipe := (input.map (·.pipe)).getD []
    match finishOwnedProcessWait ending env.cleanup with
    | .error kind => return (.error kind, pipe)
    | .ok status =>
      match env.drained with
      | none => return (.error .output, pipe)
      | some (stdout, stderr) => return (finalizeOwnedProcessOutput status stdout stderr options.overflowPolicy, pipe)

-- The room that the pipe has for one poll: what its attempts may write before it pushes back.
def room : List WriteResult → Nat → Nat
  | [], _ => 0
  | _, 0 => 0
  | .wrote count :: rest, attempts + 1 => count + room rest attempts
  | .interrupted :: rest, attempts + 1 => room rest attempts
  | _ :: _, _ + 1 => 0

-- The rounds up to the one that sees the child exit.
def roundsToExit : List Round → List Round
  | [] => []
  | round :: rest => if round.observation = some .exited then [round] else round :: roundsToExit rest

def offered (rounds : List Round) : Nat := (rounds.map fun round => room round.writes MAX_INPUT_WRITES_PER_POLL).sum

-- A drain between two polls: the pipe has taken the input up to the offset, and the writer is open while some is left.
structure InputSound (drain : ProtectedInputDrain) : Prop where
  pipe : drain.pipe = drain.input.take drain.offset
  within : drain.offset ≤ drain.input.length
  writer : drain.writer = decide (drain.offset < drain.input.length)

theorem start_sound (input : Octets) : InputSound (.start input) := by
  refine ⟨rfl, Nat.zero_le _, ?_⟩
  cases input <;> rfl

section Input

variable {drain : ProtectedInputDrain}

theorem take_offset (h : drain.offset ≤ drain.input.length) (count : Nat) :
    (drain.take count).offset = min drain.input.length (drain.offset + count) := by
  simp only [ProtectedInputDrain.take, List.length_drop]
  omega

theorem take_pipe (h : drain.pipe = drain.input.take drain.offset) (count : Nat) :
    (drain.take count).pipe = drain.input.take (drain.take count).offset := by
  simp only [ProtectedInputDrain.take, h, List.take_add]

theorem pollFrom_sound (hattempts : writeIndex + attempts = MAX_INPUT_WRITES_PER_POLL) (h : InputSound drain)
    (hleft : drain.offset < drain.input.length) (hpoll : drain.pollFrom writeIndex before results = (next, .ok after)) :
    InputSound next ∧ next.input = drain.input ∧
      next.offset = min drain.input.length (drain.offset + room results attempts) := by
  induction results generalizing writeIndex attempts drain before with
  | nil =>
    cases hpoll
    exact ⟨h, rfl, by simp [room]; omega⟩
  | cons result rest ih =>
    unfold ProtectedInputDrain.pollFrom at hpoll
    cases attempts with
    | zero =>
      rw [if_pos (by omega)] at hpoll
      cases hpoll
      exact ⟨h, rfl, by simp [room]; omega⟩
    | succ attempts =>
      rw [if_neg (by omega)] at hpoll
      cases result with
      | wrote count =>
        by_cases hzero : count = 0
        · simp [hzero] at hpoll
        · have hinput : (drain.take count).input = drain.input := rfl
          have hoffset := take_offset h.within count
          have hpipe := take_pipe h.pipe count
          simp only [hzero, if_false] at hpoll
          split at hpoll
          next hdone =>
            cases hpoll
            refine ⟨⟨hpipe, Nat.le_of_eq hdone, by simp [hdone]⟩, rfl, ?_⟩
            rw [hoffset, hinput] at hdone
            simp only [room, hoffset]
            omega
          next hmore =>
            rw [hinput, hoffset] at hmore
            have hopen : (drain.take count).writer = true := h.writer.trans (decide_eq_true hleft)
            have hless : (drain.take count).offset < (drain.take count).input.length := by
              rw [hoffset, hinput]
              omega
            have hnextAttempts : writeIndex + 1 + attempts = MAX_INPUT_WRITES_PER_POLL := by omega
            obtain ⟨hnext, hsame, hreach⟩ := ih hnextAttempts
              ⟨hpipe, Nat.le_of_lt hless, hopen.trans (decide_eq_true hless).symm⟩ hless hpoll
            refine ⟨hnext, hsame, ?_⟩
            rw [hreach, hoffset, hinput, room]
            omega
      | interrupted =>
        simpa [room] using ih (by omega) h hleft hpoll
      | wouldBlock =>
        cases hpoll
        exact ⟨h, rfl, by simp [room]; omega⟩
      | failed => cases hpoll
      | unavailable => cases hpoll

theorem poll_sound (h : InputSound drain) (hpoll : drain.poll results = (next, .ok after)) :
    InputSound next ∧ next.input = drain.input ∧
      next.offset = min drain.input.length (drain.offset + room results MAX_INPUT_WRITES_PER_POLL) := by
  have hwithin := h.within
  rw [ProtectedInputDrain.poll, h.writer] at hpoll
  by_cases hleft : drain.offset < drain.input.length
  · rw [if_pos (by simpa using hleft)] at hpoll
    exact pollFrom_sound (Nat.zero_add _) h hleft hpoll
  · rw [if_neg (by simpa using hleft)] at hpoll
    cases hpoll
    exact ⟨h, rfl, by omega⟩

end Input

section Wait

variable {bounded : Bool} {policy : ProcessOutputOverflowPolicy} {round : Round} {rounds : List Round}
  {drain : ProtectedInputDrain} {input : Option ProtectedInputDrain}

theorem waitEnd_exited (h : waitEnd bounded policy round = some .exitedUnreaped) : round.observation = some .exited := by
  unfold waitEnd at h
  repeat' split at h
  all_goals simp_all

theorem waitEnd_none (h : waitEnd bounded policy round = none) : round.observation = some .running := by
  unfold waitEnd at h
  repeat' split at h
  all_goals simp_all

theorem wait_exited (h : InputSound drain)
    (hwait : waitForOwnedProcess bounded policy (some drain) rounds = some (input, .exitedUnreaped)) :
    ∃ last, input = some last ∧ InputSound last ∧ last.input = drain.input ∧
      last.offset = min drain.input.length (drain.offset + offered (roundsToExit rounds)) := by
  induction rounds generalizing drain with
  | nil => cases hwait
  | cons round rest ih =>
    obtain ⟨next, outcome, hpoll⟩ : ∃ next outcome, drain.poll round.writes = (next, outcome) := ⟨_, _, rfl⟩
    simp only [waitForOwnedProcess, pollInput, hpoll] at hwait
    cases outcome with
    | error kind => simp at hwait
    | ok after =>
      obtain ⟨hnext, hinput, hoffset⟩ := poll_sound h hpoll
      cases hend : waitEnd bounded policy round with
      | some ending =>
        simp only [hend] at hwait
        cases hwait
        have hexited := waitEnd_exited hend
        refine ⟨next, rfl, hnext, hinput, ?_⟩
        simpa [roundsToExit, hexited, offered] using hoffset
      | none =>
        simp only [hend] at hwait
        have hrunning := waitEnd_none hend
        obtain ⟨last, rfl, hlast, hsame, hreach⟩ := ih hnext hwait
        refine ⟨last, rfl, hlast, hsame.trans hinput, ?_⟩
        rw [hinput, hoffset] at hreach
        have hoffered : offered (roundsToExit (round :: rest)) =
            room round.writes MAX_INPUT_WRITES_PER_POLL + offered (roundsToExit rest) := by
          simp [roundsToExit, hrunning, offered]
        rw [hreach, hoffered]
        omega

end Wait

theorem finishOwnedProcessWait_eq_ok (h : finishOwnedProcessWait ending cleanup = .ok status) :
    ending = .exitedUnreaped := by
  cases cleanup <;> cases ending <;> simp_all [finishOwnedProcessWait, OwnedProcessWait.failure]

theorem run_eq_ok (h : runOwnedProcessTreeWithOptions options env = some (.ok output, pipe)) :
    ∃ input, waitForOwnedProcess options.bounded options.overflowPolicy (options.stdin.map ProtectedInputDrain.start)
        env.rounds = some (input, .exitedUnreaped) ∧ pipe = (input.map (·.pipe)).getD [] := by
  unfold runOwnedProcessTreeWithOptions at h
  iterate 5
    split at h
    · cases h
  simp only [Option.bind_eq_bind, Option.bind_eq_some_iff] at h
  obtain ⟨⟨input, ending⟩, hwait, hrest⟩ := h
  simp only at hrest
  cases hfinish : finishOwnedProcessWait ending env.cleanup with
  | error kind => simp [hfinish] at hrest
  | ok status =>
    cases finishOwnedProcessWait_eq_ok hfinish
    refine ⟨input, hwait, ?_⟩
    simp only [hfinish] at hrest
    cases hdrained : env.drained <;> simp_all

theorem protected_stdin_delivered_iff (options : OwnedProcessTreeOptions) (env : Environment) (input : Octets)
    (output : OwnedProcessTreeOutput) (pipe : Octets) (hstdin : options.stdin = some input)
    (hrun : runOwnedProcessTreeWithOptions options env = some (.ok output, pipe)) :
    pipe = input.take (offered (roundsToExit env.rounds)) ∧
      (pipe = input ↔ input.length ≤ offered (roundsToExit env.rounds)) := by
  obtain ⟨last, hwait, rfl⟩ := run_eq_ok hrun
  rw [hstdin, Option.map_some] at hwait
  obtain ⟨drain, rfl, hsound, hinput, hoffset⟩ := wait_exited (start_sound input) hwait
  have hsame : drain.input = input := hinput
  have hreach : drain.offset = min input.length (offered (roundsToExit env.rounds)) := by
    simpa [ProtectedInputDrain.start] using hoffset
  have hpipe : drain.pipe = input.take (offered (roundsToExit env.rounds)) := by
    rw [hsound.pipe, hsame, hreach, List.take_eq_take_iff]
    omega
  refine ⟨hpipe, ?_⟩
  rw [Option.map_some, Option.getD_some, hpipe, List.take_eq_self_iff]

namespace Sample

def options : OwnedProcessTreeOptions where
  bounded := false
  overflowPolicy := .truncate
  stdin := some [1, 2, 3, 4, 5]

def round (writes : List WriteResult) (observation : UnreapedChildObservation) : Round where
  writes
  output := some .default
  cancelled := false
  signal := none
  forwarded := false
  observation := some observation
  elapsed := false

def environment (rounds : List Round) : Environment where
  cancelled := false
  representable := true
  spawned := true
  stdinPiped := true
  outputStarted := true
  rounds
  cleanup := some { code := some 0, signal := none }
  drained := some (none, none)

def success : OwnedProcessTreeOutput where
  status := { code := some 0, signal := none }
  stdout := none
  stderr := none

def patient : Environment := environment [round [.wrote 4, .wouldBlock] .running, round [.interrupted, .wrote 4] .exited]

theorem patient_child_fed : runOwnedProcessTreeWithOptions options patient = some (.ok success, [1, 2, 3, 4, 5]) ∧
    (([1, 2, 3, 4, 5] : Octets) = [1, 2, 3, 4, 5] ↔ 5 ≤ offered (roundsToExit patient.rounds)) :=
  ⟨by decide, (protected_stdin_delivered_iff options patient [1, 2, 3, 4, 5] success [1, 2, 3, 4, 5] rfl
    (by decide)).2⟩

-- The child exits with success while the pipe is full: the run succeeds, and the last byte was never written.
theorem hasty_child_not_fed :
    runOwnedProcessTreeWithOptions options (environment [round [.wrote 4, .wouldBlock] .exited]) =
      some (.ok success, [1, 2, 3, 4]) := by
  decide

end Sample

end Jury.Process
