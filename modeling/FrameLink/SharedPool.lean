import FrameLink.IdentityPool
import Mathlib.Tactic.Simps.Basic

/-!
The identity pool as callers that run at the same time use it. Each slot is a flag changed only
atomically. An acquire scans the slots from the lowest, trying on each a compare-and-swap from free
to held; it returns the identity of the first slot whose swap it wins, or nothing once it has
passed the last slot. A release swaps the flag of its identity's slot to free in one step and
returns whether it was held. The steps of different calls interleave in any order, so a release
may free a slot that a running scan has already passed.

An acquire stays in the list once it has returned, so that a run can be read afterwards, and the
log records in order what each call returned and to which caller.
-/

namespace FrameLink

namespace IdentityPool

/-- Compare-and-swap the slot at `index` from free to held: whether it was free, and the pool after. -/
def compareAndSwap (pool : IdentityPool) (index : Nat) : Bool × IdentityPool :=
  if pool.held.contains index then (false, pool) else (true, pool.claim index)

end IdentityPool

namespace SharedPool

inductive Stage where
  /-- Scanning: the slot at `next` is tried next. -/
  | scanning (next : Nat)
  /-- The swap on the slot at `index` succeeded: its identity is returned next. -/
  | claimed (index : Nat)
  | done
deriving DecidableEq, Repr

structure Acquire where
  caller : Nat
  stage : Stage
deriving DecidableEq, Repr

/-- A call that returned, with its caller and what it returned. -/
inductive Event where
  | acquired (caller : Nat) (id : Option ClientId)
  | released (caller : Nat) (id : ClientId) (wasHeld : Bool)
deriving DecidableEq, Repr

/-- The slots, every acquire called so far, and the calls that returned, oldest first. -/
structure State where
  pool : IdentityPool
  acquires : List Acquire
  log : List Event
deriving DecidableEq, Repr

def init (capacity : Nat) : State := ⟨IdentityPool.new capacity, [], []⟩

inductive Action where
  | acquire (caller : Nat)
  | advance (i : Nat)
  /-- `caller` releases `id`: one swap, after which the call returns. -/
  | release (caller : Nat) (id : ClientId)
deriving DecidableEq, Repr

namespace State

@[simps]
def setStage (s : State) (i caller : Nat) (stage : Stage) : State :=
  { s with acquires := s.acquires.set i ⟨caller, stage⟩ }

@[simps]
def record (s : State) (e : Event) : State := { s with log := s.log ++ [e] }

end State

/-- The next step of acquire `i`: the swap on the slot its scan has reached, moving on when it fails;
nothing once the scan has passed the last slot; the slot's identity once a swap succeeded. -/
def advance (s : State) (i caller : Nat) : Stage → State
  | .scanning next =>
    if next < s.pool.capacity then
      let (won, pool) := s.pool.compareAndSwap next
      { s with pool := pool }.setStage i caller
        (if won then .claimed next else .scanning (next + 1))
    else (s.setStage i caller .done).record (.acquired caller none)
  | .claimed index =>
    (s.setStage i caller .done).record (.acquired caller (some (IdentityPool.identityOf index)))
  | .done => s

/-- One step. A step of an acquire that was never called changes nothing. -/
def step (s : State) : Action → State
  | .acquire caller => { s with acquires := s.acquires ++ [⟨caller, .scanning 0⟩] }
  | .advance i =>
    match s.acquires[i]? with
    | some a => advance s i a.caller a.stage
    | none => s
  | .release caller id =>
    let (wasHeld, pool) := s.pool.release id
    { s with pool := pool }.record (.released caller id wasHeld)

def run (s : State) (actions : List Action) : State := actions.foldl step s

end SharedPool

end FrameLink
