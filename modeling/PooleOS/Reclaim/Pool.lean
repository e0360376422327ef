import Mathlib

/- The reclamation pool: bounded storage whose values are read through counted
pins. A gate that never waits serialises the metadata, so every operation is a
critical section; only a dropped pin works outside it, with one atomic
decrement that can fall between any two steps of a section. -/
namespace PooleOS.Reclaim

inductive Error
  | limits
  | owner
  | foreignPool
  | stale
  | busy
  | capacity
  | generationExhausted
  | pinLimit
  | retired
  | notRetired
  | pinned
  | draining
deriving DecidableEq, Repr

structure Owner where
  taskGeneration : Nat
  addressSpaceGeneration : Nat
deriving DecidableEq, Repr

def u32Values : Nat := 4294967296
def u64Values : Nat := 18446744073709551616

structure Limits where
  pinsPerObject : Nat
  generationsPerSlot : Nat
  pins_lt : pinsPerObject < u32Values
  generations_lt : generationsPerSlot < u64Values

inductive Phase
  | free
  | live
  | retired
deriving DecidableEq, Repr

structure Entry where
  phase : Phase
  generation : Nat
  owner : Owner
deriving DecidableEq, Repr

/-- `Entry::EMPTY`. -/
def Entry.empty : Entry := ⟨.free, 0, ⟨0, 0⟩⟩

/-- The pool at one address. `values` is the payload storage; a slot that was never written, or
whose value was moved out, holds nothing. -/
structure Pool (T : Type) (N : Nat) where
  address : Nat
  entries : Fin N → Entry
  draining : Bool
  pins : Fin N → Nat
  values : Fin N → Option T
  limits : Limits

structure Handle (N : Nat) where
  pool : Nat
  slot : Fin N
  generation : Nat
deriving DecidableEq, Repr

/-- A counted borrow. The source keeps the slot; the handle it was admitted under is kept beside
it for the statements. -/
structure Pin (N : Nat) where
  handle : Handle N
deriving DecidableEq, Repr

def Pin.slot {N : Nat} (pin : Pin N) : Fin N := pin.handle.slot

section Methods

variable {T : Type} {N : Nat}

/-- `Pool::new`. -/
def Pool.new (address : Nat) (limits : Limits) : Except Error (Pool T N) :=
  if N = 0 ∨ limits.pinsPerObject = 0 ∨ limits.generationsPerSlot = 0 then .error .limits
  else .ok ⟨address, fun _ => .empty, false, fun _ => 0, fun _ => none, limits⟩

namespace Pool

def setEntry (pool : Pool T N) (slot : Fin N) (entry : Entry) : Pool T N :=
  { pool with entries := Function.update pool.entries slot entry }

def setValue (pool : Pool T N) (slot : Fin N) (value : Option T) : Pool T N :=
  { pool with values := Function.update pool.values slot value }

/-- `pins.fetch_add(1)` on a 32-bit counter. -/
def addPin (pool : Pool T N) (slot : Fin N) : Pool T N :=
  { pool with pins := Function.update pool.pins slot ((pool.pins slot + 1) % u32Values) }

/-- `pins.fetch_sub(1)`: `Drop for Pin`. -/
def dropPin (pool : Pool T N) (slot : Fin N) : Pool T N :=
  { pool with
    pins := Function.update pool.pins slot ((pool.pins slot + (u32Values - 1)) % u32Values) }

def validate (pool : Pool T N) (handle : Handle N) : Except Error (Fin N) :=
  if handle.pool ≠ pool.address then .error .foreignPool
  else if (pool.entries handle.slot).phase = .free ∨
      (pool.entries handle.slot).generation ≠ handle.generation then .error .stale
  else .ok handle.slot

/-- The first slot that is free and has a generation left. -/
def firstFree (pool : Pool T N) : Option (Fin N) :=
  (List.finRange N).find? (fun slot =>
    (pool.entries slot).phase = .free ∧
      (pool.entries slot).generation < pool.limits.generationsPerSlot)

/-- Why no slot was found. -/
def noSlot (pool : Pool T N) : Error :=
  if ∃ slot, (pool.entries slot).phase = .free then .generationExhausted else .capacity

/-- `Pool::publish` inside the gate. -/
def publish (pool : Pool T N) (owner : Owner) (value : T) : Except (Error × T) (Handle N × Pool T N) :=
  if owner.taskGeneration = 0 ∨ owner.addressSpaceGeneration = 0 then .error (.owner, value)
  else if pool.draining then .error (.draining, value)
  else
    match pool.firstFree with
    | none => .error (pool.noSlot, value)
    | some slot =>
      let generation := (pool.entries slot).generation + 1
      .ok (⟨pool.address, slot, generation⟩, (pool.setValue slot (some value)).setEntry slot ⟨.live, generation, owner⟩)

/-- `Pool::pin` up to the load of the pin count. -/
def checkPin (pool : Pool T N) (handle : Handle N) : Except Error (Fin N) := do
  let slot ← pool.validate handle
  if pool.draining then .error .draining
  else if (pool.entries slot).phase ≠ .live then .error .retired
  else if pool.limits.pinsPerObject ≤ pool.pins slot then .error .pinLimit
  else .ok slot

/-- `Pool::retire` inside the gate. -/
def retire (pool : Pool T N) (handle : Handle N) (owner : Owner) : Except Error (Pool T N) := do
  let slot ← pool.validate handle
  if (pool.entries slot).owner ≠ owner then .error .owner
  else if (pool.entries slot).phase = .retired then .error .retired
  else .ok (pool.setEntry slot { pool.entries slot with phase := .retired })

/-- `Pool::reclaim` up to the load of the pin count. -/
def checkReclaim (pool : Pool T N) (handle : Handle N) (owner : Owner) : Except Error (Fin N) := do
  let slot ← pool.validate handle
  if (pool.entries slot).owner ≠ owner then .error .owner
  else if (pool.entries slot).phase ≠ .retired then .error .notRetired
  else if pool.pins slot ≠ 0 then .error .pinned
  else .ok slot

/-- The rest of `Pool::reclaim`: the value is moved out and the slot is marked free. -/
def takeValue (pool : Pool T N) (slot : Fin N) : Option T × Pool T N :=
  (pool.values slot, (pool.setValue slot none).setEntry slot { pool.entries slot with phase := .free })

/-- `Pool::begin_shutdown` inside the gate. -/
def beginShutdown (pool : Pool T N) : Pool T N := { pool with draining := true }

/-- `Deref for Pin`. -/
def deref (pool : Pool T N) (pin : Pin N) : Option T := pool.values pin.slot

end Pool

end Methods

inductive Call (T : Type) (N : Nat)
  | publish (owner : Owner) (value : T)
  | pin (handle : Handle N)
  | retire (handle : Handle N) (owner : Owner)
  | reclaim (handle : Handle N) (owner : Owner)
  | beginShutdown

/-- What a call returned. -/
inductive Event (T : Type) (N : Nat)
  | published (handle : Handle N) (value : T)
  | returned (reason : Error) (value : T)
  | pinned (handle : Handle N)
  | retired (handle : Handle N)
  | reclaimed (handle : Handle N) (value : Option T)
  | sealed
  | failed (call : Call T N) (reason : Error)

/-- How far the call that holds the gate has come. -/
inductive Section (T : Type) (N : Nat)
  | entered (call : Call T N)
  | admitting (handle : Handle N)
  | taking (handle : Handle N)
  | leaving

/-- The pool among its callers: the call inside the gate, the pins that are out, and what every
finished call returned. -/
structure World (T : Type) (N : Nat) where
  pool : Pool T N
  inside : Option (Section T N)
  live : List (Pin N)
  history : List (Event T N)

/-- One step of some caller. -/
inductive Move (T : Type) (N : Nat)
  /-- A call finds the gate free and enters, or finds it taken. -/
  | call (call : Call T N)
  /-- A call loses the race for a gate that nobody holds yet. -/
  | contend (call : Call T N)
  /-- The call inside the gate takes its next step. -/
  | proceed
  /-- The pin at this position is dropped. -/
  | drop (position : Nat)

namespace World

variable {T : Type} {N : Nat}

def log (world : World T N) (event : Event T N) : World T N :=
  { world with history := world.history ++ [event] }

/-- The result is decided and the gate is about to be dropped. -/
def leave (world : World T N) (event : Event T N) : World T N :=
  { world with inside := some .leaving, history := world.history ++ [event] }

/-- `Err(Error::Busy)` at the gate; `publish` hands its value back. -/
def busy : Call T N → Event T N
  | .publish _ value => .returned .busy value
  | .pin handle => .failed (.pin handle) .busy
  | .retire handle owner => .failed (.retire handle owner) .busy
  | .reclaim handle owner => .failed (.reclaim handle owner) .busy
  | .beginShutdown => .failed .beginShutdown .busy

/-- The first step of a call inside the gate, up to its access to the pin count. -/
def enter (world : World T N) : Call T N → World T N
  | .publish owner value =>
    match world.pool.publish owner value with
    | .error (reason, value) => world.leave (.returned reason value)
    | .ok (handle, pool) => { world with pool }.leave (.published handle value)
  | .pin handle =>
    match world.pool.checkPin handle with
    | .error reason => world.leave (.failed (.pin handle) reason)
    | .ok _ => { world with inside := some (.admitting handle) }
  | .retire handle owner =>
    match world.pool.retire handle owner with
    | .error reason => world.leave (.failed (.retire handle owner) reason)
    | .ok pool => { world with pool }.leave (.retired handle)
  | .reclaim handle owner =>
    match world.pool.checkReclaim handle owner with
    | .error reason => world.leave (.failed (.reclaim handle owner) reason)
    | .ok _ => { world with inside := some (.taking handle) }
  | .beginShutdown => { world with pool := world.pool.beginShutdown }.leave .sealed

def proceed (world : World T N) : Section T N → World T N
  | .entered call => world.enter call
  | .admitting handle =>
    { world with
      pool := world.pool.addPin handle.slot
      live := world.live ++ [Pin.mk handle] }.leave (.pinned handle)
  | .taking handle =>
    { world with pool := (world.pool.takeValue handle.slot).2 }.leave
      (.reclaimed handle (world.pool.takeValue handle.slot).1)
  | .leaving => { world with inside := none }

def step (world : World T N) : Move T N → World T N
  | .call call =>
    match world.inside with
    | none => { world with inside := some (.entered call) }
    | some _ => world.log (busy call)
  | .contend call => world.log (busy call)
  | .proceed =>
    match world.inside with
    | none => world
    | some inside => world.proceed inside
  | .drop position =>
    match world.live[position]? with
    | none => world
    | some pin =>
      { world with
        pool := world.pool.dropPin pin.slot
        live := world.live.eraseIdx position }

def run (world : World T N) (moves : List (Move T N)) : World T N := moves.foldl step world

/-- A fresh pool with nobody around it. -/
def new (address : Nat) (limits : Limits) : Except Error (World T N) := do
  let pool ← Pool.new address limits
  return ⟨pool, none, [], []⟩

end World

end PooleOS.Reclaim
