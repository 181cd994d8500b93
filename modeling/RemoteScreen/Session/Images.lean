import RemoteScreen.Session.Region

/-! Image retrieval: requests, workers, and applying what they brought. -/
namespace RemoteScreen
namespace Session

variable {υ α : Type}

/-- Applies a change of the loader, where there is a loader. -/
def withLoader (default : α) (f : Loader → Loader × α) : Act υ α := do
  match (← get).loader with
  | none => pure default
  | some l =>
    let (l, x) := f l
    modify fun s => { s with loader := some l }
    pure x

def noteRequest (q : ImageRequest) : Act υ Unit :=
  modify fun s => { s with requests := s.requests ++ [q] }

/-- Asks the loader for the image of region `n`. A closed loader fails the region at once. -/
def requestImage (tell : Tell υ) (n : Nat) (pass : Option Pass) : Act υ Unit := do
  let s ← get
  match s.loader with
  | none => pure ()
  | some l =>
    noteRequest ⟨n, (s.regions[n]?.map Region.url).getD "", pass⟩
    if l.closed then
      let _ ← failRegion tell n
    else modify fun s => { s with loader := some (l.enqueue n pass) }

def startJob : Act υ Bool :=
  withLoader false fun l =>
    match l.start? with
    | some (l, _) => (l, true)
    | none => (l, false)

/-- Lets the `k`-th of the running jobs finish. -/
def finishJob (k : Nat) : Act υ Bool := do
  let s ← get
  withLoader false fun l =>
    match l.running[k]? with
    | none => (l, false)
    | some n =>
      let url := ((l.jobs[n]?).bind fun j => s.regions[j.region]?.map Region.url).getD ""
      (l.finish n url, true)

/-- Starts a job and lets that one finish. -/
def runJob : Act υ Bool := do
  if ← startJob then
    let running := ((← get).loader.map fun l => l.running.length).getD 0
    finishJob (running - 1)
  else pure false

/-- Repeats a step until it says no, and counts how often it said yes. -/
def repeatWhile (step : Act υ Bool) : (fuel : Nat) → Act υ Nat
  | 0 => pure 0
  | fuel + 1 => do
    if ← step then
      let n ← repeatWhile step fuel
      pure (n + 1)
    else pure 0

/-- Finishes all running jobs, then all queued ones, one at a time. -/
def runAllJobs : Act υ Nat := do
  let jobs := ((← get).loader.map fun l => l.jobs.length).getD 0
  let m ← repeatWhile (finishJob 0) jobs
  let n ← repeatWhile runJob jobs
  pure (m + n)

/-- Takes one completion from the queue: nothing when the queue is empty, and otherwise whether it
was applied. -/
def drainOne (tell : Tell υ) : Act υ (Option Bool) := do
  let s ← get
  match s.loader.bind fun l =>
      l.takeCompletion?.map fun (c, l') => (l.accepts s.tracker c.pass, c, l') with
  | none => pure none
  | some (current, c, l) =>
    modify fun s => { s with loader := some l }
    let url := (s.regions[c.region]?.map Region.url).getD ""
    if !current then
      log .debug "images" s!"Discarding stale image url={url} pass={Pass.shown? c.pass}"
      pure (some false)
    else
      match c.outcome with
      | .ok image =>
        let _ ← resolve tell c.region image
      | .error reason =>
        log .info "images" s!"Image load failed url={url}: {reason}"
        let _ ← failRegion tell c.region
      pure (some true)

/-- Takes completions until the queue is empty, and counts the applied ones. -/
def drainMany (tell : Tell υ) : (fuel : Nat) → Act υ Nat
  | 0 => pure 0
  | fuel + 1 => do
    match ← drainOne tell with
    | none => pure 0
    | some applied =>
      let n ← drainMany tell fuel
      pure (if applied then n + 1 else n)

/-- Applies every completion that waits. -/
def drain (tell : Tell υ) : Act υ Nat := do
  drainMany tell (((← get).loader.map fun l => l.completed.length).getD 0)

def cancelPending : Act υ Nat := withLoader 0 fun l => l.cancelPending

def shutdownLoader : Act υ Unit := withLoader () fun l => (l.shutdown, ())

end Session
end RemoteScreen
