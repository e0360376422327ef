import PooleOS.Lib.Op

/- Lock ranks, the context a lock is taken in and the graph of rank orders seen so far. -/
namespace PooleOS.Locks

inductive Error
  | ownerToken
  | ownerRange
  | recursive
  | busy
  | timeout
  | queueFull
  | queueMissing
  | duplicateWaiter
  | notOwner
  | rank
  | rankOrder
  | rankCycle
  | heldCapacity
  | interruptContext
  | preemptionContext
  | sleepForbidden
  | priority
  | deadline
  | handoff
  | counter
  | sequence
  | invariant
deriving DecidableEq, Repr

def u8Max : Nat := 255
def u32Values : Nat := 4294967296
def maxHeldLocks : Nat := 8

inductive LockRank
  | irq
  | runQueue
  | mutex
  | readerWriter
  | sequence
deriving DecidableEq, Repr

/-- `rank as u8`. -/
def LockRank.value : LockRank → Nat
  | .irq => 1
  | .runQueue => 2
  | .mutex => 3
  | .readerWriter => 4
  | .sequence => 5

/-- `rank as usize - 1`. -/
def LockRank.index : LockRank → Fin 5
  | .irq => 0
  | .runQueue => 1
  | .mutex => 2
  | .readerWriter => 3
  | .sequence => 4

/-- `held` is the filled prefix of the source's array of held ranks. -/
structure LockContext where
  owner : Nat
  interruptDepth : Nat
  preemptionDepth : Nat
  interruptsEnabled : Bool
  canSleep : Bool
  held : List LockRank
deriving DecidableEq, Repr

/-- `LockContext::task`. -/
def LockContext.task (owner : Nat) : Except Error LockContext :=
  if owner = 0 then .error .ownerToken
  else .ok ⟨owner, 0, 0, true, true, []⟩

namespace LockContext

def authorize (context : LockContext) (rank : LockRank) : Except Error Unit := do
  demand (context.owner ≠ 0) .ownerToken
  demand (context.held.length ≠ maxHeldLocks) .heldCapacity
  demand (rank ∉ context.held) .recursive
  demand (∀ last ∈ context.held.getLast?, last.value < rank.value) .rankOrder

def acquired (context : LockContext) (rank : LockRank) : Except Error LockContext := do
  context.authorize rank
  return { context with held := context.held ++ [rank] }

def released (context : LockContext) (rank : LockRank) : Except Error LockContext := do
  demand (context.held.getLast? = some rank) .rankOrder
  return { context with held := context.held.dropLast }

end LockContext

/-- `increment`. -/
def increment (value : Nat) : Except Error Nat := orError (checkedAdd u32Values value 1) .counter

/-- The bit matrix of recorded rank orders, row by row. -/
structure LockOrderGraph where
  edges : Fin 5 → Finset (Fin 5)
  recordedEdges : Nat
  rejectedCycles : Nat

/-- `LockOrderGraph::new`. -/
def LockOrderGraph.new : LockOrderGraph := ⟨fun _ => ∅, 0, 0⟩

namespace LockOrderGraph

/-- The worklist of `path_exists`: the lowest pending node is taken off, and its unvisited
successors are added when it is met for the first time. -/
def search (graph : LockOrderGraph) (goal : Fin 5) (pending visited : Finset (Fin 5)) : Bool :=
  if more : pending.Nonempty then
    let node := pending.min' more
    if node = goal then true
    else if node ∈ visited then search graph goal (pending.erase node) visited
    else
      search graph goal (pending.erase node ∪ (graph.edges node \ insert node visited))
        (insert node visited)
  else false
termination_by (visitedᶜ.card, pending.card)
decreasing_by
  · refine Prod.Lex.right _ ?_
    exact Finset.card_erase_lt_of_mem (pending.min'_mem more)
  · rename_i unvisited
    refine Prod.Lex.left _ _ ?_
    refine Finset.card_lt_card (Finset.compl_ssubset_compl.mpr ?_)
    exact Finset.ssubset_insert unvisited

def pathExists (graph : LockOrderGraph) (start goal : Fin 5) : Bool :=
  graph.search goal {start} ∅

/-- `*rejected_cycles = increment(..)?; return Err(RankCycle)`. -/
def rejectCycle : Op LockOrderGraph Error Unit := do
  let graph ← Op.read
  let rejected ← Op.lift (increment graph.rejectedCycles)
  Op.update (fun graph => { graph with rejectedCycles := rejected })
  Op.fail .rankCycle

def addEdge (origin target : Fin 5) (graph : LockOrderGraph) : LockOrderGraph :=
  { graph with
    edges := Function.update graph.edges origin (insert target (graph.edges origin)) }

def recordEdge (origin target : Fin 5) : Op LockOrderGraph Error Unit := do
  Op.update (addEdge origin target)
  let graph ← Op.read
  let recorded ← Op.lift (increment graph.recordedEdges)
  Op.update (fun graph => { graph with recordedEdges := recorded })

/-- `record_dependency`. -/
def recordDependency (origin target : LockRank) : Op LockOrderGraph Error Unit := do
  let graph ← Op.read
  Op.when (origin = target) rejectCycle
  Op.when (graph.pathExists target.index origin.index = true) rejectCycle
  Op.when (target.index ∉ graph.edges origin.index) (recordEdge origin.index target.index)

/-- `record_acquire`. -/
def recordAcquire (context : LockContext) (rank : LockRank) : Op LockOrderGraph Error Unit := do
  Op.lift (context.authorize rank)
  Op.transact (Op.forEach context.held (fun held => recordDependency held rank))

end LockOrderGraph

end PooleOS.Locks
