import RemoteScreen.Pass
import RemoteScreen.Value

/-! The image loader: retrievals run on a pool of workers, and what they bring waits in a queue
until it is applied. -/
namespace RemoteScreen

inductive JobState where
  | queued | running | finished | cancelled
  deriving DecidableEq, Repr

/-- One retrieval for one region. A watched job is forgotten as soon as it is over. -/
structure Job where
  region : Nat
  pass : Option Pass
  state : JobState := .queued
  watched : Bool := false

/-- What a finished retrieval brought: an image, or the reason why there is none. -/
structure Completion where
  region : Nat
  pass : Option Pass
  outcome : Except String Value

/-- Which passes a loader takes for current: all of them, those the session's tracker says, or none
but work without a pass. -/
inductive Currency where
  | always | tracked | never
  deriving DecidableEq, Repr

structure Loader where
  retrieve : String → Except String Value
  workers : Nat
  currency : Currency := .always
  closed : Bool := false
  jobs : List Job := []
  pending : List Nat := []
  completed : List Completion := []
  fetched : List String := []

namespace Loader

def accepts (l : Loader) (t : PassTracker) (p : Option Pass) : Bool :=
  match l.currency with
  | .always => true
  | .tracked => t.isCurrent p
  | .never => p.isNone

def jobIn (l : Loader) (s : JobState) (n : Nat) : Bool :=
  (l.jobs[n]?.map Job.state) == some s

/-- The numbers of the jobs in a state, oldest first. -/
def inState (l : Loader) (s : JobState) : List Nat :=
  (List.range l.jobs.length).filter (l.jobIn s)

def queued (l : Loader) : List Nat := l.inState .queued

def running (l : Loader) : List Nat := l.inState .running

def pendingCount (l : Loader) : Nat := l.pending.length

def setState (l : Loader) (n : Nat) (s : JobState) : Loader :=
  { l with jobs := l.jobs.modify n fun j => { j with state := s } }

def forget (l : Loader) (n : Nat) : Loader := { l with pending := l.pending.filter (· != n) }

/-- A job that is over leaves the pending ones, if it is watched. -/
def settleJob (l : Loader) (n : Nat) (s : JobState) : Loader :=
  let l := l.setState n s
  if (l.jobs[n]?.map Job.watched) == some true then l.forget n else l

/-! A request takes three steps, and workers may run in between. -/

def submit (l : Loader) (region : Nat) (pass : Option Pass) : Loader × Nat :=
  ({ l with jobs := l.jobs ++ [{ region, pass }] }, l.jobs.length)

def track (l : Loader) (n : Nat) : Loader := { l with pending := l.pending ++ [n] }

def watch (l : Loader) (n : Nat) : Loader :=
  if l.jobIn .finished n || l.jobIn .cancelled n then l.forget n
  else { l with jobs := l.jobs.modify n fun j => { j with watched := true } }

def enqueue (l : Loader) (region : Nat) (pass : Option Pass) : Loader :=
  let (l, n) := l.submit region pass
  (l.track n).watch n

/-! Workers -/

/-- A free worker takes the oldest queued job. -/
def start? (l : Loader) : Option (Loader × Nat) :=
  if l.running.length < l.workers then
    l.queued.head?.map fun n => (l.setState n .running, n)
  else none

/-- Job `n` asks for its URL, leaves what it got in the queue, and is over. -/
def finish (l : Loader) (n : Nat) (url : String) : Loader :=
  match l.jobs[n]? with
  | none => l
  | some j =>
    let done : Completion := ⟨j.region, j.pass, l.retrieve url⟩
    let l := { l with completed := l.completed ++ [done], fetched := l.fetched ++ [url] }
    l.settleJob n .finished

/-! The side of the screen -/

def cancelEach (l : Loader) (ns : List Nat) : Loader × Nat :=
  ns.foldl (fun acc n =>
    if acc.1.jobIn .queued n then (acc.1.settleJob n .cancelled, acc.2 + 1) else acc) (l, 0)

/-- Cancels the pending jobs that have not started, and counts them. -/
def cancelPending (l : Loader) : Loader × Nat := l.cancelEach l.pending

def takeCompletion? (l : Loader) : Option (Completion × Loader) :=
  match l.completed with
  | [] => none
  | c :: cs => some (c, { l with completed := cs })

/-- Nothing is queued or running. -/
def isIdle (l : Loader) : Bool :=
  l.pending.all fun n => l.jobIn .finished n || l.jobIn .cancelled n

def shutdown (l : Loader) : Loader :=
  let (l, _) := l.cancelEach l.queued
  { l with closed := true }

end Loader
end RemoteScreen
