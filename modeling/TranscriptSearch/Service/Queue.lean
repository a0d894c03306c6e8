import TranscriptSearch.Service.Outcome

/-!
# Service — the queue of requests

At most one request waits and at most one build is under way. A request made while another one
waits joins it, and everyone who asked is told the outcome of the build that the joined request
became. When a build has ended the observers are collected, then the callers are told one after the
other, and then the observers. Observers are told once: those registered before they are collected.

* `Queue.run`, `Queue.update`, `Queue.observe`, `Queue.shutDown`: what callers do.
* `Queue.take`, `Queue.finish`, `Queue.collect`, `Queue.answer`, `Queue.notify`, `Queue.rest`: what
  the worker does.
* `Queue.answers`, `Queue.calls`: what callers and observers were told, in order.
-/

namespace TranscriptSearch

/-- A caller's claim to an outcome: the number of requests made before. -/
abbrev Handle := Nat

/-- An observer: the number of observers registered before. -/
abbrev Observer := Nat

/-- A request and those who wait for it. -/
structure Job where
  /-- The request, with all that was folded into it. -/
  request : Request
  /-- Those who wait, in the order in which they asked. -/
  waiters : List Handle
deriving DecidableEq

/-- What the worker does. -/
inductive Stage where
  /-- It waits for a request. -/
  | idle
  /-- It builds. -/
  | building (job : Job)
  /-- It has built, and nobody knows yet how that ended. -/
  | ended (job : Job) (outcome : Outcome)
  /-- It tells the outcome of a build; these callers and observers are left to be told. -/
  | delivering (outcome : Outcome) (waiters : List Handle) (observers : List Observer)

/-- Whether the worker waits. -/
def Stage.isIdle : Stage → Bool
  | .idle => true
  | _     => false

/-- The requests, the worker, and what was told. -/
structure Queue where
  /-- The request that waits. -/
  pending : Option Job
  /-- What the worker does. -/
  stage : Stage
  /-- The observers of the next build to end. -/
  observers : List Observer
  /-- Whether no more requests are taken. -/
  isShutDown : Bool
  /-- The number of requests made. -/
  handles : Nat
  /-- The number of observers registered. -/
  registrations : Nat
  /-- The outcomes told to callers. -/
  answers : List (Handle × Outcome)
  /-- The outcomes told to observers. -/
  calls : List (Observer × Outcome)

namespace Queue

/-- No requests and no observers. -/
def empty : Queue := ⟨none, .idle, [], false, 0, 0, [], []⟩

/-! ### Callers -/

/-- The job that a request becomes: a job of its own, or part of the one that waits. -/
def joined (waiting : Option Job) (fresh : Request) (join : Request → Request) (h : Handle) : Job :=
  match waiting with
  | none     => ⟨fresh, [h]⟩
  | some job => ⟨join job.request, job.waiters ++ [h]⟩

/-- The queue with one more request. After the shutdown the caller is told at once. -/
def enqueue (q : Queue) (fresh : Request) (join : Request → Request) : Queue :=
  if q.isShutDown then
    { q with handles := q.handles + 1, answers := q.answers ++ [(q.handles, .error .cancelled)] }
  else
    { q with handles := q.handles + 1, pending := some (joined q.pending fresh join q.handles) }

/-- The queue with a request for all transcripts. -/
def run (q : Queue) (transcripts : List Transcript) : Queue :=
  q.enqueue (.full transcripts) fun _ => .full transcripts

/-- The queue with a request for changed transcripts. -/
def update (q : Queue) (changed : List Transcript) : Queue :=
  q.enqueue (.ofChanged changed) fun waiting => waiting.fold changed

/-- The queue with one more observer. -/
def observe (q : Queue) : Queue :=
  { q with
    registrations := q.registrations + 1
    observers := q.observers ++ [q.registrations] }

/-- The queue after the shutdown began. -/
def shutDown (q : Queue) : Queue := { q with isShutDown := true }

/-! ### The worker -/

/-- The queue after the worker took the request that waits. -/
def take (q : Queue) : Queue :=
  match q.stage, q.pending with
  | .idle, some job => { q with stage := .building job, pending := none }
  | _, _            => q

/-- The queue after a build ended. -/
def finish (q : Queue) (outcome : Outcome) : Queue :=
  match q.stage with
  | .building job => { q with stage := .ended job outcome }
  | _             => q

/-- The queue after the observers were collected, to be told of the build that ended. -/
def collect (q : Queue) : Queue :=
  match q.stage with
  | .ended job outcome =>
    { q with stage := .delivering outcome job.waiters q.observers, observers := [] }
  | _ => q

/-- The queue after one more caller was told. -/
def answer (q : Queue) : Queue :=
  match q.stage with
  | .delivering outcome (h :: rest) os =>
    { q with stage := .delivering outcome rest os, answers := q.answers ++ [(h, outcome)] }
  | _ => q

/-- The queue after one more observer was told. Callers are told first. -/
def notify (q : Queue) : Queue :=
  match q.stage with
  | .delivering outcome [] (o :: rest) =>
    { q with stage := .delivering outcome [] rest, calls := q.calls ++ [(o, outcome)] }
  | _ => q

/-- The queue after everybody was told. -/
def deliver (q : Queue) : Queue :=
  match q.stage with
  | .delivering outcome waiters os =>
    { q with
      stage := .delivering outcome [] []
      answers := q.answers ++ waiters.map fun h => (h, outcome)
      calls := q.calls ++ os.map fun o => (o, outcome) }
  | _ => q

/-- The queue after the worker came to rest. -/
def rest (q : Queue) : Queue :=
  match q.stage with
  | .delivering _ [] [] => { q with stage := .idle }
  | _                   => q

/-- Whether no build is under way and no request waits. -/
def isIdle (q : Queue) : Bool := q.stage.isIdle && q.pending.isNone

/-- The outcome that a caller was told. -/
def answer? (q : Queue) (h : Handle) : Option Outcome := q.answers.lookup h

end Queue

end TranscriptSearch
