import GraphLayer.Batching.Loader
import GraphLayer.Cache.Store

/-!
# Batching sessions as a step machine

Loads of one session and loader key are collected in a window and fetched together.  The load
that opens a window owns it: it yields until a yield passes without new loads of the key, and
then drains the window in chunks of bounded size.

* `Queue`, the collector of one session and key;
* `Load` and `Dispatch`, the two kinds of tasks; loads and dispatches are numbered in the
  order in which they appear;
* `World`, the state of all sessions of a runtime with its cache and clock;
* `Event` and `World.step`, one step of one task, of the backing service or of a caller;
* `World.run`, the steps of a list of events in order.

An event that does not apply in a state leaves it as it is, so a run over any list of events
is an interleaving of tasks in any order.
-/

namespace GraphLayer.Batching

/-- Most yields of a window's owner while loads keep arriving. -/
def maxYields : Nat := 16

/-- A loader key within a session. -/
structure Slot where
  session : Nat
  key : String
  deriving DecidableEq, Repr

/-- Collector state of a slot. -/
structure Queue where
  /-- The loads waiting for each id of the open window. -/
  pending : Dict Int (List Nat) := .empty
  /-- Whether a window is open. -/
  scheduled : Bool := false
  /-- The number of drained dispatches whose fetches are outstanding. -/
  inFlight : Nat := 0
  /-- The number of chunks fetched so far. -/
  fetches : Nat := 0
  /-- The number of loads ever enqueued. -/
  enqueued : Nat := 0
  deriving DecidableEq

/-- Where a collector stands. -/
inductive Phase where
  | idle
  | collecting
  | dispatching
  deriving DecidableEq, Repr

/-- An open window shows before an outstanding fetch. -/
def Queue.phase (q : Queue) : Phase :=
  if q.scheduled then .collecting else if 0 < q.inFlight then .dispatching else .idle

/-- Let a load wait for an id. -/
def Queue.enqueue (q : Queue) (id : Int) (load : Nat) : Queue :=
  { q with
    pending := q.pending.upsert id fun waiters => waiters.getD [] ++ [load]
    enqueued := q.enqueued + 1
    scheduled := true }

/-- How far a load has come. -/
inductive Progress (V : Type) where
  /-- Owner of an open window: the yields made, and the count of enqueued loads at the last. -/
  | collecting (yields seen : Nat)
  /-- Owner of a drained window. -/
  | dispatching (dispatch : Nat)
  /-- Waiting for the dispatch of somebody else. -/
  | waiting
  | answered (outcome : Outcome V)
  | dropped

/-- One load of an id. -/
structure Load (V : Type) where
  slot : Slot
  id : Int
  /-- The name of the type that the caller asks for. -/
  expected : String
  progress : Progress V

/-- How far a dispatch has come. -/
inductive Stage (V : Type) where
  /-- Spawned for the window of a dropped owner, which it has not drained yet. -/
  | spawned
  /-- The answers of the chunks so far. -/
  | fetching (results : List (Option (Batch V)))
  | done
  /-- Dropped with its owner before it answered. -/
  | lost

/-- The draining of one window. -/
structure Dispatch (V : Type) where
  slot : Slot
  /-- Whether the owner of the window drives it; else it was spawned. -/
  owned : Bool
  /-- The drained window: each id with the loads that wait for it. -/
  batch : List (Int × List Nat)
  stage : Stage V

/-- The parts of a runtime that never change. -/
structure Runtime (σ V : Type) where
  loaders : Loaders
  maxBatchSize : Nat
  store : CacheStore σ V

/-- The state of all sessions of one runtime. -/
structure World (σ V : Type) where
  clock : Nat := 0
  /-- The readings that the clock gives next, one for each access of the cache. -/
  ahead : List Nat := []
  cache : Option σ := none
  queues : List (Slot × Queue) := []
  loads : List (Load V) := []
  dispatches : List (Dispatch V) := []

/-- Cut a list into pieces of `n` elements; the last one may be shorter. -/
def chunksFrom {α : Type} (n : Nat) : Nat → List α → List (List α)
  | 0, _ => []
  | _ + 1, [] => []
  | fuel + 1, x :: xs => (x :: xs).take n :: chunksFrom n fuel ((x :: xs).drop n)

/-- Cut a list into pieces of `n` elements, at least one. -/
def chunks {α : Type} (n : Nat) (xs : List α) : List (List α) :=
  chunksFrom (max 1 n) xs.length xs

/-- The chunks of ids that a dispatch fetches. -/
def Dispatch.calls {V : Type} (d : Dispatch V) (maxBatchSize : Nat) : List (List Int) :=
  chunks maxBatchSize (d.batch.map Prod.fst)

/-- What a fetch answers for one id of its chunk. -/
def outcomeOf {V : Type} (result : Batch V) (id : Int) : Outcome V :=
  match result with
  | .error e => .error e
  | .ok found =>
    match found id with
    | some (.ok v) => .ok (some v)
    | some (.error e) => .error e
    | none => .ok none

/-- The outcomes of all ids, chunk by chunk. -/
def outcomes {V : Type} (calls : List (List Int)) (results : List (Batch V)) :
    List (Int × Outcome V) :=
  (calls.zip results).flatMap fun (ids, result) => ids.map fun id => (id, outcomeOf result id)

/-- The answers of all chunks, once there is one for each. -/
def allResults? {V : Type} : List (Option (Batch V)) → Option (List (Batch V))
  | [] => some []
  | none :: _ => none
  | some r :: rs => (allResults? rs).map (r :: ·)

namespace World

variable {σ V : Type}

/-! ### Views -/

/-- The collector of a slot; one that was never used is empty. -/
def queue (w : World σ V) (s : Slot) : Queue :=
  ((w.queues.find? fun p => p.1 = s).map Prod.snd).getD {}

/-- Replace the collector of a slot. -/
def setQueue (w : World σ V) (s : Slot) (q : Queue) : World σ V :=
  { w with queues := (s, q) :: w.queues.filter fun p => p.1 ≠ s }

/-- The phase of a slot. -/
def phase (w : World σ V) (s : Slot) : Phase := (w.queue s).phase

/-- The number of chunks that a slot has fetched. -/
def fetchCount (w : World σ V) (s : Slot) : Nat := (w.queue s).fetches

/-- The answer of a load as its caller gets it, once there is one. -/
def result? [Typed V] (w : World σ V) (load : Nat) : Option (Outcome V) :=
  match w.loads[load]? with
  | some ⟨slot, _, expected, .answered outcome⟩ => some (outcome.cast slot.key expected)
  | _ => none

/-- Replace the progress of a load. -/
def setProgress (w : World σ V) (load : Nat) (p : Progress V) : World σ V :=
  { w with loads := w.loads.modify load fun l => { l with progress := p } }

/-- Replace the stage of a dispatch. -/
def setStage (w : World σ V) (dispatch : Nat) (s : Stage V) : World σ V :=
  { w with dispatches := w.dispatches.modify dispatch fun d => { d with stage := s } }

/-! ### The cache -/

/-- The clock goes on to its next reading, if there is one. -/
def tick (w : World σ V) : World σ V :=
  match w.ahead with
  | [] => w
  | now :: ahead => { w with clock := now, ahead }

/-- Look a value up; a failing store counts as a miss. -/
def lookup (rt : Runtime σ V) (w : World σ V) (k : CacheKey) : Option V × World σ V :=
  match w.cache with
  | none => (none, w)
  | some c =>
    let (r, c) := rt.store.get c k w.clock
    (match r with | .ok v => v | .error _ => none, { w with cache := some c }.tick)

/-- Store a value; a failing store is ignored. -/
def store (rt : Runtime σ V) (w : World σ V) (k : CacheKey) (v : V) : World σ V :=
  match w.cache with
  | none => w
  | some c => { w with cache := some (rt.store.put c k v w.clock).2 }.tick

/-- Take a value out of the cache, and say whether it was there. -/
def invalidate (rt : Runtime σ V) (w : World σ V) (k : CacheKey) : Bool × World σ V :=
  match w.cache with
  | none => (false, w)
  | some c =>
    let (r, c) := rt.store.invalidate c k
    (match r with | .ok b => b | .error _ => false, { w with cache := some c })

/-- Take everything out of the cache. -/
def shutdown (rt : Runtime σ V) (w : World σ V) : World σ V :=
  match w.cache with
  | none => w
  | some c => { w with cache := some (rt.store.clear c).2 }

/-! ### Loads -/

/-- Begin a load: it is answered at once if its key is unknown or its value is cached, else it
joins the open window of its slot, or opens one. -/
def beginLoad (rt : Runtime σ V) (w : World σ V) (s : Slot) (id : Int) (expected : String) :
    World σ V :=
  let add (w : World σ V) (p : Progress V) : World σ V :=
    { w with loads := w.loads ++ [⟨s, id, expected, p⟩] }
  if rt.loaders.contains s.key then
    match w.lookup rt ⟨s.key, id⟩ with
    | (some v, w) => add w (.answered (.ok (some v)))
    | (none, w) =>
      let q := w.queue s
      let q' := q.enqueue id w.loads.length
      add (w.setQueue s q') (if q.scheduled then .waiting else .collecting 0 q'.enqueued)
  else add w (.answered (.error (.wiring (.unknownLoader s.key))))

/-- Take the open window of a slot. -/
def drainQueue (rt : Runtime σ V) (w : World σ V) (s : Slot) :
    List (Int × List Nat) × World σ V :=
  let q := w.queue s
  let calls := chunks rt.maxBatchSize q.pending.keys
  (q.pending.toList, w.setQueue s
    { q with
      pending := .empty
      scheduled := false
      inFlight := q.inFlight + 1
      fetches := q.fetches + calls.length })

/-- The chunks of a drained window, none of them answered. -/
def unanswered (rt : Runtime σ V) (batch : List (Int × List Nat)) : Stage V :=
  .fetching ((chunks rt.maxBatchSize (batch.map Prod.fst)).map fun _ => none)

/-- The owner of a window drains it. -/
def drainOwned (rt : Runtime σ V) (w : World σ V) (s : Slot) (load : Nat) : World σ V :=
  let (batch, w) := w.drainQueue rt s
  let d : Dispatch V := ⟨s, true, batch, unanswered rt batch⟩
  { w with dispatches := w.dispatches ++ [d] }.setProgress load (.dispatching w.dispatches.length)

/-- A spawned dispatch drains its window. -/
def drainSpawned (rt : Runtime σ V) (w : World σ V) (s : Slot) (dispatch : Nat) : World σ V :=
  let (batch, w) := w.drainQueue rt s
  { w with
    dispatches := w.dispatches.modify dispatch fun d =>
      { d with batch := batch, stage := unanswered rt batch } }

/-- Hand an outcome to a load, unless its caller is gone. -/
def answer (w : World σ V) (load : Nat) (outcome : Outcome V) : World σ V :=
  { w with
    loads := w.loads.modify load fun l =>
      match l.progress with
      | .dropped => l
      | _ => { l with progress := .answered outcome } }

/-- Hand one outcome to several loads. -/
def answerAll (w : World σ V) (loads : List Nat) (outcome : Outcome V) : World σ V :=
  loads.foldl (fun w load => w.answer load outcome) w

/-- One fetch less is outstanding. -/
def land (w : World σ V) (s : Slot) : World σ V :=
  let q := w.queue s
  w.setQueue s { q with inFlight := q.inFlight - 1 }

/-- Store the value of an id, if it has one, and answer those who wait for it. -/
def settle (rt : Runtime σ V) (s : Slot) (w : World σ V) (id : Int) (waiters : List Nat)
    (outcome : Outcome V) : World σ V :=
  let w := match outcome with
    | .ok (some v) => w.store rt ⟨s.key, id⟩ v
    | _ => w
  w.answerAll waiters outcome

/-- The loads that wait for an id of a drained window. -/
def waitersOf (batch : List (Int × List Nat)) (id : Int) : List Nat :=
  ((batch.find? fun p => p.1 = id).map Prod.snd).getD []

/-- A dispatch whose chunks are all answered stores the values and answers its loads. -/
def complete (rt : Runtime σ V) (w : World σ V) (dispatch : Nat) : World σ V :=
  match w.dispatches[dispatch]? with
  | some ⟨s, _, batch, .fetching results⟩ =>
    match allResults? results with
    | none => w
    | some results =>
      let w := (w.land s).setStage dispatch .done
      (outcomes (chunks rt.maxBatchSize (batch.map Prod.fst)) results).foldl
        (fun w (id, outcome) => w.settle rt s id (waitersOf batch id) outcome) w
  | _ => w

/-- The next poll of a load: an owner whose last yield saw no new load, or was its last one,
drains its window; an owner whose fetches are over answers. -/
def poll (rt : Runtime σ V) (w : World σ V) (load : Nat) : World σ V :=
  match w.loads[load]? with
  | some ⟨s, _, _, .collecting yields seen⟩ =>
    let now := (w.queue s).enqueued
    if now = seen ∨ yields + 1 = maxYields then w.drainOwned rt s load
    else w.setProgress load (.collecting (yields + 1) now)
  | some ⟨_, _, _, .dispatching dispatch⟩ => w.complete rt dispatch
  | _ => w

/-- The next poll of a dispatch without an owner. -/
def pollDispatch (rt : Runtime σ V) (w : World σ V) (dispatch : Nat) : World σ V :=
  match w.dispatches[dispatch]? with
  | some ⟨s, _, _, .spawned⟩ => w.drainSpawned rt s dispatch
  | some ⟨_, false, _, .fetching _⟩ => w.complete rt dispatch
  | _ => w

/-- The backing service answers one chunk of a dispatch. -/
def fetched (w : World σ V) (dispatch chunk : Nat) (result : Batch V) : World σ V :=
  match w.dispatches[dispatch]? with
  | some ⟨_, _, _, .fetching results⟩ =>
    w.setStage dispatch (.fetching (results.modify chunk fun r => some (r.getD result)))
  | _ => w

/-! ### Dropping a load -/

/-- The answer of those whose dispatch went away. -/
def abandonAll (w : World σ V) (s : Slot) (batch : List (Int × List Nat)) : World σ V :=
  batch.foldl (fun w p => w.answerAll p.2 (.error (.abandoned s.key))) w

/-- An owner is dropped while it fetches: its dispatch is lost. -/
def loseDispatch (w : World σ V) (dispatch : Nat) : World σ V :=
  match w.dispatches[dispatch]? with
  | some ⟨s, _, batch, .fetching _⟩ =>
    ((w.land s).setStage dispatch .lost).abandonAll s batch
  | _ => w

/-- Drop a load inside the scheduler.  A window that its owner has not drained goes to a
spawned dispatch. -/
def drop (w : World σ V) (load : Nat) : World σ V :=
  match w.loads[load]? with
  | some ⟨s, _, _, .collecting _ _⟩ =>
    let d : Dispatch V := ⟨s, false, [], .spawned⟩
    { w with dispatches := w.dispatches ++ [d] }.setProgress load .dropped
  | some ⟨_, _, _, .dispatching dispatch⟩ => (w.setProgress load .dropped).loseDispatch dispatch
  | some ⟨_, _, _, .waiting⟩ => w.setProgress load .dropped
  | _ => w

/-- Drop a load outside of the scheduler.  A window that its owner has not drained is
abandoned. -/
def dropOutside (w : World σ V) (load : Nat) : World σ V :=
  match w.loads[load]? with
  | some ⟨s, _, _, .collecting _ _⟩ =>
    let w := w.setProgress load .dropped
    let q := w.queue s
    (w.setQueue s { q with pending := .empty, scheduled := false }).abandonAll s q.pending.toList
  | _ => w.drop load

end World

/-! ### Steps and runs -/

/-- One thing that may happen. -/
inductive Event (V : Type) where
  /-- The clock is read anew; it need not be monotone.  Further accesses of the cache before the
  next such step get the readings ahead, as far as there are some. -/
  | clock (now : Nat) (ahead : List Nat := [])
  | beginLoad (slot : Slot) (id : Int) (expected : String)
  | poll (load : Nat)
  | pollDispatch (dispatch : Nat)
  | fetched (dispatch chunk : Nat) (result : Batch V)
  | drop (load : Nat)
  | dropOutside (load : Nat)
  | invalidate (key : CacheKey)
  | shutdown

namespace World

variable {σ V : Type}

/-- One step. -/
def step (rt : Runtime σ V) (w : World σ V) : Event V → World σ V
  | .clock now ahead => { w with clock := now, ahead }
  | .beginLoad s id expected => w.beginLoad rt s id expected
  | .poll load => w.poll rt load
  | .pollDispatch dispatch => w.pollDispatch rt dispatch
  | .fetched dispatch chunk result => w.fetched dispatch chunk result
  | .drop load => w.drop load
  | .dropOutside load => w.dropOutside load
  | .invalidate key => (w.invalidate rt key).2
  | .shutdown => w.shutdown rt

/-- The steps of a list of events. -/
def run (rt : Runtime σ V) (w : World σ V) (events : List (Event V)) : World σ V :=
  events.foldl (step rt) w

@[simp] theorem run_nil (rt : Runtime σ V) (w : World σ V) : w.run rt [] = w := rfl

@[simp] theorem run_cons (rt : Runtime σ V) (w : World σ V) (e : Event V) (es : List (Event V)) :
    w.run rt (e :: es) = (w.step rt e).run rt es := rfl

theorem run_append (rt : Runtime σ V) (w : World σ V) (es fs : List (Event V)) :
    w.run rt (es ++ fs) = (w.run rt es).run rt fs := List.foldl_append ..

end World

end GraphLayer.Batching
