import RemoteScreen.View.Basic

/-! The course of fetches: what happens to them, as the state of an application tells, and the order
in which it happens when they go one at a time. -/
namespace RemoteScreen
namespace Session

/-- Something that happens to a fetch. -/
inductive FetchEvent where
  | started
  /-- The worker puts the result in the queue. -/
  | put (result : FetchResult)
  /-- The result is taken from the queue and shown. -/
  | applied (result : FetchResult)

/-- Where the last fetch is. -/
inductive Flight where
  | idle
  | away
  | back (result : FetchResult)

namespace Flight

def isBusy : Flight → Bool
  | idle => false
  | _ => true

def workers : Flight → Nat
  | away => 1
  | _ => 0

def results : Flight → List FetchResult
  | back r => [r]
  | _ => []

end Flight

/-- Fetches one after the other: each is started, puts its result and has it applied before the next
one is started. -/
inductive Course : List FetchEvent → Flight → Prop where
  | nil : Course [] .idle
  | started {es : List FetchEvent} (h : Course es .idle) : Course (es ++ [.started]) .away
  | put {es : List FetchEvent} (h : Course es .away) (r : FetchResult) :
      Course (es ++ [.put r]) (.back r)
  | applied {es : List FetchEvent} {r : FetchResult} (h : Course es (.back r)) :
      Course (es ++ [.applied r]) .idle

def FetchEvent.put? : FetchEvent → Option FetchResult
  | put r => some r
  | _ => none

def FetchEvent.applied? : FetchEvent → Option FetchResult
  | applied r => some r
  | _ => none

/-- The results that workers have put, in order. -/
def putResults (es : List FetchEvent) : List FetchResult := es.filterMap FetchEvent.put?

/-- The results that have been applied, in order. -/
def appliedResults (es : List FetchEvent) : List FetchResult := es.filterMap FetchEvent.applied?

@[simp] theorem putResults_append (es fs : List FetchEvent) :
    putResults (es ++ fs) = putResults es ++ putResults fs := List.filterMap_append

@[simp] theorem appliedResults_append (es fs : List FetchEvent) :
    appliedResults (es ++ fs) = appliedResults es ++ appliedResults fs := List.filterMap_append

@[simp] theorem appliedResults_started : appliedResults [.started] = [] := rfl

@[simp] theorem appliedResults_put (r : FetchResult) : appliedResults [.put r] = [] := rfl

@[simp] theorem appliedResults_applied (r : FetchResult) : appliedResults [.applied r] = [r] := rfl

theorem Course.putResults_eq {es : List FetchEvent} {g : Flight} (h : Course es g) :
    putResults es = appliedResults es ++ g.results := by
  induction h with
  | nil => rfl
  | started _ ih =>
    rw [putResults_append, appliedResults_append, ih]
    rfl
  | put _ r ih =>
    rw [putResults_append, appliedResults_append, ih]
    rfl
  | applied _ ih =>
    rw [putResults_append, appliedResults_append, ih]
    rfl

/-- What has happened to fetches between two states of an application, as its count of workers and
its queue tell. -/
def fetchEvents (a b : Application) : List FetchEvent :=
  List.replicate (b.workers - a.workers) .started ++
  (b.results.drop a.results.length).map .put ++
  (a.results.take (a.results.length - b.results.length)).map .applied

end Session
end RemoteScreen
