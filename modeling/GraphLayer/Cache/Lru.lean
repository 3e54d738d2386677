/-!
# A least-recently-used cache with a time to live

Entries and the order of their use are kept apart: a list of entries by key, and a list of
ticks, oldest first, each with the key that was used at that tick.

* `Lru K V`, with `Lru.get`, `Lru.put`, `Lru.invalidate`, `Lru.clear`, `Lru.size`;
* `LruList K V`, the same cache as one list from least to most recently used.

Times are readings of a clock that need not be monotone; an age is never negative.
-/

namespace GraphLayer

/-- A cached value with the time of its insertion and the tick of its last use. -/
structure Lru.Entry (V : Type) where
  value : V
  insertedAt : Nat
  tick : Nat
  deriving DecidableEq

/-- A cache of at most `maxSize` entries, each of which expires at the age `ttl`. -/
structure Lru (K V : Type) where
  maxSize : Nat
  ttl : Nat
  entries : List (K × Lru.Entry V) := []
  recency : List (Nat × K) := []
  nextTick : Nat := 0

namespace Lru

variable {K V : Type} [DecidableEq K]

/-- The entry of a key. -/
def entry? (c : Lru K V) (k : K) : Option (Entry V) :=
  (c.entries.find? fun p => p.1 = k).map Prod.snd

/-- Take an entry and its tick out. -/
def remove (c : Lru K V) (k : K) : Lru K V :=
  match c.entry? k with
  | none => c
  | some e =>
    { c with
      entries := c.entries.filter fun p => p.1 ≠ k
      recency := c.recency.filter fun p => p.1 ≠ e.tick }

/-- Give an entry the next tick. -/
def touch (c : Lru K V) (k : K) : Lru K V :=
  match c.entry? k with
  | none => { c with nextTick := c.nextTick + 1 }
  | some e =>
    { c with
      entries := c.entries.map fun p => if p.1 = k then (k, { e with tick := c.nextTick }) else p
      recency := (c.recency.filter fun p => p.1 ≠ e.tick) ++ [(c.nextTick, k)]
      nextTick := c.nextTick + 1 }

/-- Take out the entry with the oldest tick; `none` if no tick is left. -/
def evict (c : Lru K V) : Option (Lru K V) :=
  match c.recency with
  | [] => none
  | (_, k) :: r => some { c with entries := c.entries.filter fun p => p.1 ≠ k, recency := r }

/-- Evict until there is room for one more entry. -/
def makeRoom : Nat → Lru K V → Lru K V
  | 0, c => c
  | fuel + 1, c =>
    if c.entries.length < c.maxSize then c
    else
      match c.evict with
      | none => c
      | some c => makeRoom fuel c

/-- The value of a key at the time `now`; an expired entry is taken out, any other one becomes
the most recently used. -/
def get (c : Lru K V) (k : K) (now : Nat) : Option V × Lru K V :=
  match c.entry? k with
  | none => (none, c)
  | some e => if c.ttl ≤ now - e.insertedAt then (none, c.remove k) else (some e.value, c.touch k)

/-- Store a value at the time `now`.  A cache without room stores nothing. -/
def put (c : Lru K V) (k : K) (v : V) (now : Nat) : Lru K V :=
  if c.maxSize = 0 then c
  else
    let c := c.remove k
    let c := c.makeRoom c.recency.length
    { c with
      entries := c.entries ++ [(k, ⟨v, now, c.nextTick⟩)]
      recency := c.recency ++ [(c.nextTick, k)]
      nextTick := c.nextTick + 1 }

/-- Take a key out, and say whether it was there. -/
def invalidate (c : Lru K V) (k : K) : Bool × Lru K V := ((c.entry? k).isSome, c.remove k)

/-- Take everything out; the ticks go on. -/
def clear (c : Lru K V) : Lru K V := { c with entries := [], recency := [] }

/-- The number of entries. -/
def size (c : Lru K V) : Nat := c.entries.length

end Lru

/-! ### The same cache as one list -/

/-- One entry of the list: a key, its value and the time of its insertion. -/
structure LruList.Item (K V : Type) where
  key : K
  value : V
  insertedAt : Nat
  deriving DecidableEq

/-- A cache as the list of its entries from least to most recently used. -/
structure LruList (K V : Type) where
  maxSize : Nat
  ttl : Nat
  items : List (LruList.Item K V) := []
  deriving DecidableEq

namespace LruList

variable {K V : Type} [DecidableEq K]

/-- The entry of a key. -/
def find? (c : LruList K V) (k : K) : Option (Item K V) := c.items.find? fun i => i.key = k

/-- The list without a key. -/
def without (c : LruList K V) (k : K) : List (Item K V) := c.items.filter fun i => i.key ≠ k

/-- An expired entry is taken out, any other one moves to the end. -/
def get (c : LruList K V) (k : K) (now : Nat) : Option V × LruList K V :=
  match c.find? k with
  | none => (none, c)
  | some i =>
    if c.ttl ≤ now - i.insertedAt then (none, { c with items := c.without k })
    else (some i.value, { c with items := c.without k ++ [i] })

/-- Take the key out, drop entries from the front while the list is full, and append the new
entry; a cache without room stays as it is. -/
def put (c : LruList K V) (k : K) (v : V) (now : Nat) : LruList K V :=
  if c.maxSize = 0 then c
  else
    let rest := c.without k
    { c with items := rest.drop (rest.length - (c.maxSize - 1)) ++ [⟨k, v, now⟩] }

/-- Take a key out, and say whether it was there. -/
def invalidate (c : LruList K V) (k : K) : Bool × LruList K V :=
  ((c.find? k).isSome, { c with items := c.without k })

/-- Take everything out. -/
def clear (c : LruList K V) : LruList K V := { c with items := [] }

/-- The number of entries. -/
def size (c : LruList K V) : Nat := c.items.length

end LruList

end GraphLayer
