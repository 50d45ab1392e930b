import FrameLink.Error

/-!
The identity pool: a fixed number of slots `0, 1, …, capacity - 1`, each free or held. The slot
at index `i` hands out the identity `i + 1` as a 32-bit word, so identity `k ≥ 1` names slot
`k - 1`, and identity `0` and identities past the capacity name none. Acquiring takes the lowest
free slot; releasing frees the slot an identity names and says whether it was held. The held
slots are kept in ascending order.
-/

namespace FrameLink

/-- A capacity and the slots held, by index, in ascending order. -/
structure IdentityPool where
  capacity : Nat
  held : List Nat
deriving DecidableEq, Repr

namespace IdentityPool

def new (capacity : Nat) : IdentityPool := ⟨capacity, []⟩

/-- The least number from `start` on that is not in the ascending list, whose members are all at
least `start`. -/
def firstGap : List Nat → Nat → Nat
  | [], start => start
  | x :: xs, start => if x = start then firstGap xs (start + 1) else start

def insertSorted (n : Nat) : List Nat → List Nat
  | [] => [n]
  | x :: xs => if n ≤ x then n :: x :: xs else x :: insertSorted n xs

/-- The identity of the slot at `index`: one more than the index, in 32-bit arithmetic. -/
def identityOf (index : Nat) : ClientId := UInt32.ofNat index + 1

/-- The slot an identity names, if the pool has it. -/
def slotOf? (pool : IdentityPool) (id : ClientId) : Option Nat :=
  if id ≠ 0 ∧ id.toNat - 1 < pool.capacity then some (id.toNat - 1) else none

/-- Take the lowest free slot, if any is free, and hand out its identity. -/
def acquire (pool : IdentityPool) : Option ClientId × IdentityPool :=
  let index := firstGap pool.held 0
  if index < pool.capacity then (some (identityOf index), { pool with held := insertSorted index pool.held })
  else (none, pool)

/-- Hold the slot at `index`, as a successful compare-and-swap on it does. -/
def claim (pool : IdentityPool) (index : Nat) : IdentityPool :=
  { pool with held := insertSorted index pool.held }

def isAcquired (pool : IdentityPool) (id : ClientId) : Bool :=
  match pool.slotOf? id with
  | some index => pool.held.contains index
  | none => false

/-- Free the slot an identity names: whether it was held. -/
def release (pool : IdentityPool) (id : ClientId) : Bool × IdentityPool :=
  match pool.slotOf? id with
  | some index => (pool.held.contains index, { pool with held := pool.held.erase index })
  | none => (false, pool)

def inUse (pool : IdentityPool) : Nat := pool.held.length

inductive Command where
  | acquire
  | release (id : ClientId)
  | isAcquired (id : ClientId)
  | inUse
  | capacity
deriving Repr

inductive Reply where
  | identity (id : Option ClientId)
  | flag (b : Bool)
  | count (n : Nat)
deriving Repr

def perform (pool : IdentityPool) : Command → IdentityPool × Reply
  | .acquire =>
    let (id, next) := pool.acquire
    (next, .identity id)
  | .release id =>
    let (was, next) := pool.release id
    (next, .flag was)
  | .isAcquired id => (pool, .flag (pool.isAcquired id))
  | .inUse => (pool, .count pool.inUse)
  | .capacity => (pool, .count pool.capacity)

def performAll (pool : IdentityPool) : List Command → List (IdentityPool × Reply)
  | [] => []
  | c :: rest =>
    let (next, reply) := pool.perform c
    (next, reply) :: performAll next rest

end IdentityPool

end FrameLink
