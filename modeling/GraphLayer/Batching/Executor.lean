import GraphLayer.Batching.Session
import GraphLayer.Batching.Memory
import GraphLayer.Text.Blank

/-!
# Running sessions on one thread

* `Executor`, a world of sessions with loaders in memory and the spawned dispatches that are
  ready to run;
* `Call`, a load as its caller holds it, which may let some polls pass before it begins;
* `Executor.pollAll`, `Executor.yield` and `Executor.settle`;
* `sessionText`, the description of a session.
-/

namespace GraphLayer.Batching

/-- A world with its loaders and its run queue. -/
structure Executor (σ V : Type) where
  world : World σ V
  loaders : List (String × MemoryLoader V)
  /-- Spawned dispatches that can go on, in the order in which they were woken. -/
  ready : List Nat := []

/-- A load as its caller holds it. -/
structure Call (V : Type) where
  slot : Slot
  id : Int
  expected : String
  /-- The polls to pass before the load begins. -/
  delay : Nat := 0
  /-- The number of the load, once it has begun. -/
  load : Option Nat := none
  /-- The answer, once the caller has it. -/
  answer : Option (Outcome V) := none

namespace Executor

variable {σ V : Type}

/-- The loader under a key. -/
def loader? (x : Executor σ V) (key : String) : Option (MemoryLoader V) :=
  (x.loaders.find? fun p => p.1 = key).map Prod.snd

/-- Replace the loader under a key. -/
def setLoader (x : Executor σ V) (key : String) (l : MemoryLoader V) : Executor σ V :=
  { x with loaders := x.loaders.map fun p => if p.1 = key then (key, l) else p }

/-- One step of the world. -/
def step (rt : Runtime σ V) (x : Executor σ V) (e : Event V) : Executor σ V :=
  { x with world := x.world.step rt e }

/-- Wake the spawned dispatches among the holders of some tickets. -/
def wake (x : Executor σ V) (tickets : List Ticket) : Executor σ V :=
  tickets.foldl (fun x t =>
    match x.world.dispatches[t.dispatch]? with
    | some ⟨_, false, _, _⟩ =>
      if t.dispatch ∈ x.ready then x else { x with ready := x.ready ++ [t.dispatch] }
    | _ => x) x

/-- Add permits to a gated loader. -/
def release (x : Executor σ V) (key : String) (n : Nat) : Executor σ V :=
  match x.loader? key with
  | some l =>
    match l.gate with
    | some g =>
      let (served, g) := g.release n
      (x.setLoader key { l with gate := some g }).wake served
    | none => x
  | none => x

/-- Try one fetch of a dispatch: it is served unless the gate of its loader is closed. -/
def tryFetch (rt : Runtime σ V) (key : String) (x : Executor σ V) (t : Ticket)
    (ids : List Int) : Executor σ V :=
  match x.loader? key with
  | none => x
  | some l =>
    let (admitted, gate) := match l.gate with
      | none => (true, none)
      | some g => let (b, g) := g.pass t; (b, some g)
    let l := { l with gate }
    if admitted then
      let (result, l) := l.fetch ids
      (x.setLoader key l).step rt (.fetched t.dispatch t.chunk result)
    else x.setLoader key l

/-- Try every outstanding fetch of a dispatch, in order. -/
def fetchAll (rt : Runtime σ V) (x : Executor σ V) (dispatch : Nat) : Executor σ V :=
  match x.world.dispatches[dispatch]? with
  | some ⟨s, owned, batch, .fetching results⟩ =>
    let calls := Dispatch.calls ⟨s, owned, batch, .fetching results⟩ rt.maxBatchSize
    ((calls.zip results).zipIdx).foldl (fun x ((ids, result), chunk) =>
      if result.isSome then x else x.tryFetch rt s.key ⟨dispatch, chunk⟩ ids) x
  | _ => x

/-- Poll a load until it finishes or must wait. -/
def pollLoad (rt : Runtime σ V) (x : Executor σ V) (load : Nat) : Executor σ V :=
  let x := x.step rt (.poll load)
  match x.world.loads[load]? with
  | some ⟨_, _, _, .dispatching dispatch⟩ => (x.fetchAll rt dispatch).step rt (.poll load)
  | _ => x

/-- Run a spawned dispatch until it finishes or must wait. -/
def runDispatch (rt : Runtime σ V) (x : Executor σ V) (dispatch : Nat) : Executor σ V :=
  ((x.step rt (.pollDispatch dispatch)).fetchAll rt dispatch).step rt (.pollDispatch dispatch)

/-- Control goes to the dispatches that are ready, in order, and comes back. -/
def yield (rt : Runtime σ V) (x : Executor σ V) : Executor σ V :=
  x.ready.foldl (runDispatch rt) { x with ready := [] }

/-- Several yields in a row. -/
def yields (rt : Runtime σ V) (x : Executor σ V) : Nat → Executor σ V
  | 0 => x
  | n + 1 => yields rt (x.yield rt) n

/-- Poll a call. -/
def pollCall [Typed V] (rt : Runtime σ V) (x : Executor σ V) (t : Call V) :
    Call V × Executor σ V :=
  if t.answer.isSome then (t, x)
  else if 0 < t.delay then ({ t with delay := t.delay - 1 }, x)
  else
    let (load, x) := match t.load with
      | some load => (load, x.pollLoad rt load)
      | none => (x.world.loads.length, x.step rt (.beginLoad t.slot t.id t.expected))
    ({ t with load := some load, answer := x.world.result? load }, x)

/-- Poll the unfinished ones of some calls in order. -/
def pollAll [Typed V] (rt : Runtime σ V) : Executor σ V → List (Call V) →
    List (Call V) × Executor σ V
  | x, [] => ([], x)
  | x, t :: ts =>
    let (t, x) := x.pollCall rt t
    let (ts, x) := pollAll rt x ts
    (t :: ts, x)

/-- Poll some calls, with a yield after every poll that leaves one unfinished, for at most the
given number of polls. -/
def settle [Typed V] (rt : Runtime σ V) : Nat → Executor σ V → List (Call V) →
    List (Call V) × Executor σ V
  | 0, x, ts => (ts, x)
  | n + 1, x, ts =>
    let (ts, x) := x.pollAll rt ts
    if ts.all fun t => t.answer.isSome then (ts, x) else settle rt n (x.yield rt) ts

/-- Drop a call, inside of the scheduler or not.  A dropped owner hands its window to a
dispatch that is ready at once, or gives back the permits of its fetches. -/
def dropCall (rt : Runtime σ V) (inside : Bool) (x : Executor σ V) (t : Call V) :
    Executor σ V :=
  match t.load with
  | none => x
  | some load =>
    let event : Event V := if inside then .drop load else .dropOutside load
    match x.world.loads[load]? with
    | some ⟨_, _, _, .collecting _ _⟩ =>
      let y := x.step rt event
      if inside then { y with ready := y.ready ++ [x.world.dispatches.length] } else y
    | some ⟨s, _, _, .dispatching dispatch⟩ =>
      let x := x.step rt event
      match x.loader? s.key with
      | some l =>
        match l.gate with
        | some g =>
          let (served, g) := g.cancel dispatch
          (x.setLoader s.key { l with gate := some g }).wake served
        | none => x
      | none => x
    | _ => x.step rt event

end Executor

/-! ### Describing a session -/

/-- Digits after the point without trailing zeros, for a number of thousandths. -/
def thousandths (n : Nat) : String :=
  let ds := (Nat.toDigits 10 (1000 + n)).drop 1
  let kept := (ds.reverse.dropWhile fun c => c == '0').reverse
  if kept.isEmpty then "" else "." ++ String.ofList kept

/-- A time span in the largest unit that it fills: seconds, else milliseconds. -/
def durationText (ms : Nat) : String :=
  if 1000 ≤ ms then toString (ms / 1000) ++ thousandths (ms % 1000) ++ "s"
  else if 0 < ms then toString ms ++ "ms"
  else "0ns"

/-- One character of a quoted key; controls and blanks other than the space are written by their
code points. -/
def quotedChar (c : Char) : List Char :=
  match c with
  | '"' => ['\\', '"']
  | '\\' => ['\\', '\\']
  | '\n' => ['\\', 'n']
  | '\r' => ['\\', 'r']
  | '\t' => ['\\', 't']
  | _ =>
    if c.toNat = 0 then ['\\', '0']
    else if c.toNat < 32 ∨ (127 ≤ c.toNat ∧ c.toNat < 160) ∨ (Text.isBlank c ∧ c ≠ ' ') then
      ['\\', 'u', '\x7b'] ++ Nat.toDigits 16 c.toNat ++ ['\x7d']
    else [c]

/-- A key in quotes. -/
def quotedKey (s : String) : String :=
  String.ofList ('"' :: s.toList.flatMap quotedChar ++ ['"'])

/-- A session described by its loaders, its options and whether it has a cache. -/
def sessionText (loaders : Loaders) (options : LoaderOptions) (cached : Bool) : String :=
  "LoaderSession \x7b registry: LoaderRegistry \x7b keys: [" ++
    String.intercalate ", " (loaders.keys.map quotedKey) ++
    "] \x7d, options: LoaderOptions \x7b max_batch_size: " ++
    toString options.maxBatchSize.toNat ++
    ", cache_ttl: " ++ durationText options.cacheTtl.toNat ++
    ", cache_max_size: " ++ toString options.cacheMaxSize.toNat ++
    " \x7d, cached: " ++ (if cached then "true" else "false") ++ " \x7d"

end GraphLayer.Batching
