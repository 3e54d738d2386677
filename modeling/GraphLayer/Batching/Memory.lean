import GraphLayer.Batching.Loader

/-!
# Loaders over a table in memory

* `MemoryLoader V`, a table of values with switches that make ids or whole fetches fail, and a
  record of the fetches served;
* `MemoryLoader.fetch`, one fetch;
* `Gate`, a queue of fetches that wait for permits, first come, first served.
-/

namespace GraphLayer.Batching

/-- A waiting fetch: a dispatch and one of its chunks. -/
structure Ticket where
  dispatch : Nat
  chunk : Nat
  deriving DecidableEq, Repr

/-- Permits for fetches.  While a ticket waits no permit is free. -/
structure Gate where
  permits : Nat := 0
  waiting : List Ticket := []
  /-- Tickets that hold a permit which they have not used yet. -/
  granted : List Ticket := []
  deriving DecidableEq, Repr

namespace Gate

/-- Let a ticket through if it has a permit or takes a free one, else let it wait. -/
def pass (g : Gate) (t : Ticket) : Bool × Gate :=
  if t ∈ g.granted then (true, { g with granted := g.granted.erase t })
  else if t ∈ g.waiting then (false, g)
  else if 0 < g.permits then (true, { g with permits := g.permits - 1 })
  else (false, { g with waiting := g.waiting ++ [t] })

/-- Add permits; the tickets that wait longest get them.  The tickets served come first. -/
def release (g : Gate) (n : Nat) : List Ticket × Gate :=
  let free := g.permits + n
  let served := g.waiting.take free
  (served,
    { permits := free - served.length
      waiting := g.waiting.drop free
      granted := g.granted ++ served })

/-- Forget the tickets of a dispatch; their unused permits go to those who wait. -/
def cancel (g : Gate) (dispatch : Nat) : List Ticket × Gate :=
  let kept := g.granted.filter fun t => t.dispatch ≠ dispatch
  { g with
    waiting := g.waiting.filter fun t => t.dispatch ≠ dispatch
    granted := kept }.release (g.granted.length - kept.length)

end Gate

/-- A loader over a table in memory. -/
structure MemoryLoader (V : Type) where
  values : Dict Int V := .empty
  /-- Ids that fail on their own, with the reason. -/
  failures : Dict Int String := .empty
  /-- The reason for which every fetch fails as a whole. -/
  batchFailure : Option String := none
  /-- The ids of every fetch served, oldest first. -/
  batches : List (List Int) := []
  /-- A gated loader waits for a permit before each fetch. -/
  gate : Option Gate := none

namespace MemoryLoader

variable {V : Type}

/-- What a fetch finds under one id; a failure hides a value. -/
def lookup (l : MemoryLoader V) (id : Int) : Option (Except LoadError V) :=
  match l.failures.find? id with
  | some reason => some (.error (.failed reason))
  | none => (l.values.find? id).map .ok

/-- Serve and record one fetch. -/
def fetch (l : MemoryLoader V) (ids : List Int) : Batch V × MemoryLoader V :=
  (match l.batchFailure with
    | some reason => .error (.failed reason)
    | none => .ok fun id => if id ∈ ids then l.lookup id else none,
   { l with batches := l.batches ++ [ids] })

/-- Take every switch back. -/
def resetFailures (l : MemoryLoader V) : MemoryLoader V :=
  { l with failures := .empty, batchFailure := none }

end MemoryLoader

end GraphLayer.Batching
