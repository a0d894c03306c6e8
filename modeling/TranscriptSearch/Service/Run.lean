import TranscriptSearch.Service.Basic

/-!
# Service — runs

What callers and the worker do to a service, one action after the other, in any order.

* `Service.act`: the service and the files after an action.
* `Service.perform`: the service and the files after some actions.
* `Service.complete`: the service and the files after the worker dealt with the waiting request.
-/

namespace TranscriptSearch

/-- One thing that a caller or the worker does. -/
inductive Action where
  /-- A caller asks for a build of all transcripts. -/
  | run (transcripts : List Transcript)
  /-- A caller asks for a build with changed transcripts. -/
  | update (changed : List Transcript)
  /-- A caller registers an observer. -/
  | observe
  /-- A caller asks for the current snapshot and is answered at once. -/
  | read (refused : Refusals)
  /-- A caller asks for the current snapshot and turns to the disk. -/
  | look
  /-- The `i`-th reader tries the disk. -/
  | fetch (refused : Refusals) (i : Nat)
  /-- The `i`-th reader comes back from the disk. -/
  | settle (i : Nat)
  /-- The `i`-th reader looks in the memory once more. -/
  | leave (i : Nat)
  /-- A caller shuts the service down. -/
  | shutDown
  /-- The worker takes the waiting request. -/
  | take
  /-- The worker builds and writes a snapshot. -/
  | build (refused : Refusals) (now : Moment)
  /-- The worker makes the written snapshot current. -/
  | publish
  /-- The worker collects the observers. -/
  | collect
  /-- The worker tells a caller. -/
  | answer
  /-- The worker tells an observer. -/
  | notify
  /-- The worker comes to rest. -/
  | rest

namespace Service

/-- A service with another queue. -/
def withQueue (s : Service) (change : Queue → Queue) : Service := { s with queue := change s.queue }

/-- The service and the files after an action. An action out of turn changes nothing. -/
def act (w : Service × FileTree) : Action → Service × FileTree
  | .run transcripts   => (w.1.withQueue fun q => q.run transcripts, w.2)
  | .update changed    => (w.1.withQueue fun q => q.update changed, w.2)
  | .observe           => (w.1.withQueue Queue.observe, w.2)
  | .read refused      => ((w.1.read refused w.2).1, w.2)
  | .look              => (w.1.look, w.2)
  | .fetch refused i   => (w.1.fetch refused w.2 i, w.2)
  | .settle i          => (w.1.settle i, w.2)
  | .leave i           => (w.1.leave i, w.2)
  | .shutDown          => (w.1.withQueue Queue.shutDown, w.2)
  | .take              => (w.1.withQueue Queue.take, w.2)
  | .build refused now => w.1.build refused now w.2
  | .publish           => (w.1.publish, w.2)
  | .collect           => (w.1.withQueue Queue.collect, w.2)
  | .answer            => (w.1.withQueue Queue.answer, w.2)
  | .notify            => (w.1.withQueue Queue.notify, w.2)
  | .rest              => (w.1.withQueue Queue.rest, w.2)

/-- The service and the files after some actions. -/
def perform (w : Service × FileTree) (actions : List Action) : Service × FileTree :=
  actions.foldl act w

/-- The service and the files after the worker dealt with the waiting request, from taking it to
coming to rest. -/
def complete (refused : Refusals) (now : Moment) (w : Service × FileTree) : Service × FileTree :=
  let (s, files) := perform w [.take, .build refused now, .publish, .collect]
  (s.withQueue fun q => q.deliver.rest, files)

end Service

end TranscriptSearch
