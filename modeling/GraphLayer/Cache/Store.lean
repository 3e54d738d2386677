import GraphLayer.Cache.Lru

/-!
# Stores of loaded values

* `CacheKey`, a loader with one of its ids;
* `CacheStore σ V`, the operations of a store whose contents are of type `σ`; each of them
  may fail, and may change the contents even then;
* `CacheStore.lru`, the store kept in an `Lru` cache, which never fails;
* `CacheStore.unavailable`, a store all of whose operations fail.
-/

namespace GraphLayer

/-- The place of a loaded value: the key of its loader and its id. -/
structure CacheKey where
  loader : String
  id : Int
  deriving DecidableEq, Repr

/-- Failure of a store. -/
inductive CacheError where
  | unavailable (reason : String)
  deriving DecidableEq, Repr

/-- The text of the failure. -/
def CacheError.message : CacheError → String
  | unavailable reason => "Cache storage unavailable: " ++ reason

/-- The operations of a store with contents of type `σ`.  The natural number is a reading of
the clock in milliseconds. -/
structure CacheStore (σ V : Type) where
  get : σ → CacheKey → Nat → Except CacheError (Option V) × σ
  put : σ → CacheKey → V → Nat → Except CacheError Unit × σ
  invalidate : σ → CacheKey → Except CacheError Bool × σ
  clear : σ → Except CacheError Unit × σ
  size : σ → Nat

namespace CacheStore

/-- A store kept in an `Lru` cache. -/
def lru (V : Type) : CacheStore (Lru CacheKey V) V where
  get c k now := ((.ok (c.get k now).1), (c.get k now).2)
  put c k v now := (.ok (), c.put k v now)
  invalidate c k := (.ok (c.invalidate k).1, (c.invalidate k).2)
  clear c := (.ok (), c.clear)
  size c := c.size

/-- A store that answers every call with the same failure. -/
def unavailable (V : Type) (reason : String) : CacheStore Unit V where
  get _ _ _ := (.error (.unavailable reason), ())
  put _ _ _ _ := (.error (.unavailable reason), ())
  invalidate _ _ := (.error (.unavailable reason), ())
  clear _ := (.error (.unavailable reason), ())
  size _ := 0

end CacheStore

end GraphLayer
