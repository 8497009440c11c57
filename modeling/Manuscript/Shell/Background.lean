import Manuscript.Shell.State

/-!
# What is not waited for

A command that is not waited for runs as soon as it is met, but what it does is put off until the time at which it
ends. Until then the script goes on as if nothing had happened.
-/

namespace Manuscript.Shell

namespace Effect

/-- The texts that were written to channels besides those that they kept before. -/
def writtenSince (before after : Array Channel) : List (Nat × List (List Char)) :=
  (List.range before.size).filterMap (fun (index : Nat) =>
    match before[index]?, after[index]? with
    | some (.kept old), some (.kept parts) =>
      if parts.length ≤ old.length then none else some (index, parts.take (parts.length - old.length))
    | _, _ => none)

/-- What stands at a place now; whether that follows what stood there before, which is left out then. Nothing if it
is the same. -/
def changeOf (before : FileSystem) (location : Location) (entry : Entry) : Option (Location × Bool × Entry) :=
  match before.find? location, entry with
  | some (.file old executable), .file bytes executable' =>
    if old = bytes && executable = executable' then none
    else if old.isPrefixOf bytes then some (location, true, .file (bytes.drop old.length) executable')
    else some (location, false, entry)
  | some .directory, .directory => none
  | _, _ => some (location, false, entry)

/-- What a command did that left one state behind when it was run from another. -/
def between (job : Nat) (before after : State) : Effect where
  job := job
  time := after.elapsed
  changes := after.files.entries.reverse.filterMap (fun e => changeOf before.files e.1 e.2)
  removed := (before.files.entries.filter (fun e => (after.files.find? e.1).isNone)).map (·.1)
  written := writtenSince before.channels after.channels
  held := after.held
  signals := after.received

/-- Files after a change of one of them. -/
def change (files : FileSystem) : Location × Bool × Entry → FileSystem
  | (location, follows, entry) =>
    match follows, files.find? location, entry with
    | true, some (.file bytes executable), .file more _ => files.put location (.file (bytes ++ more) executable)
    | _, _, _ => files.put location entry

/-- The state after an effect. -/
def apply (state : State) (effect : Effect) : State :=
  let files := effect.removed.foldl FileSystem.eraseTree state.files
  let files := effect.changes.foldl change files
  let channels := effect.written.foldl
    (fun (channels : Array Channel) (index, parts) =>
      match channels[index]? with
      | some (.kept old) => channels.setIfInBounds index (.kept (parts ++ old))
      | _ => channels)
    state.channels
  { state with files, channels, received := state.received ++ effect.signals }

end Effect

namespace State

/-- The state with the channels of its streams kept open up to the present time. -/
def hold (state : State) : State :=
  let opened := state.streams.map (fun s => (s.2, state.elapsed))
  let others := state.held.filter (fun h => state.elapsed < h.2 || opened.all (fun o => o.1 != h.1))
  { state with held := others ++ opened }

/-- The time up to which commands that are not waited for keep a channel open. -/
def heldUntil (state : State) (index : Nat) : Nat :=
  state.effects.foldl (fun time effect =>
    (effect.held.filter (fun h => h.1 == index)).foldl (fun time h => max time h.2) time) 0

/-- The state at a time, with everything done that was to be done up to it. -/
def settle (state : State) (time : Nat) : State :=
  if state.effects.isEmpty then state
  else
    let (due, later) := state.effects.partition (fun effect => effect.time ≤ time)
    (due.mergeSort (fun a b => a.time ≤ b.time)).foldl Effect.apply { state with effects := later }

/-! ## Jobs -/

/-- The state in which the script has learned of the jobs that have ended. -/
def reap (state : State) : State :=
  { state with jobs := state.jobs.map (fun job => { job with reaped := job.reaped || job.ending ≤ state.elapsed }) }

/-- The state in which the script has learned of the jobs that ended before this moment. -/
def reapEarlier (state : State) : State :=
  { state with jobs := state.jobs.map (fun job => { job with reaped := job.reaped || job.ending < state.elapsed }) }

/-- The state without a job. -/
def forget (state : State) (number : Nat) : State :=
  { state with jobs := state.jobs.filter (fun job => job.number ≠ number) }

/-- The state in which the status of a job has been asked for. -/
def setWaited (state : State) (number : Nat) : State :=
  { state with jobs := state.jobs.map (fun job => if job.number = number then { job with waited := true } else job) }

/-- The number for a further command that runs beside the script: the first that is free, or that belongs to a job
that is done with. -/
def nextNumber (state : State) : Nat :=
  let isFree := fun (number : Nat) => state.jobs.all (fun job => job.number != number || (job.reaped && job.waited))
  (((List.range state.jobs.length).map (· + 1)).find? isFree).getD (state.jobs.length + 1)

/-- The state after a command was met that is not waited for: `inner` is left behind when it is run to its end. -/
def afterBackground (outer inner : State) (status : Nat) (signal : Option Nat) : State :=
  let process := outer.jobCount + 1
  let number := outer.nextNumber
  let channels := inner.channels.mapIdx (fun index channel =>
    match outer.channels[index]? with
    | some (.kept parts) => .kept parts
    | _ => channel)
  let others := (outer.forget number).jobs
  { outer with
    channels
    steps := inner.steps
    effects := outer.effects ++ inner.effects ++ [Effect.between process outer inner]
    jobCount := process
    jobs := { number, process, ending := inner.elapsed, status, signal } :: others
    status := 0 }

/-- The state in which a signal has ended a job. -/
def stopJob (state : State) (job : Job) (signal : Nat) : State :=
  let stopped := { job with ending := state.elapsed, status := 128 + signal, signal := some signal }
  { state with
    jobs := state.jobs.map (fun other => if other.number = job.number then stopped else other)
    effects := state.effects.filter (fun effect => effect.job ≠ job.process || effect.time ≤ state.elapsed) }

end State

end Manuscript.Shell
