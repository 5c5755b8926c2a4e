import LibCxlmi.Heap.Ring

/-!
# Lists with the links inside (ccan/list/list.h, list.c)

A `struct list_node` is a member of what is on the list, or of what has the list. Here a
node goes by the address of the structure it is in, which has one node only, so that
`list_entry` and the offsets are nothing. Debug builds set CCAN_LIST_DEBUG: lists are
then checked before and after they are used, and a corrupt one ends the program.
-/

namespace LibCxlmi.Heap

/-- How a program that uses memory can go wrong. `wild` is an access to memory that is
not there or is not what it is taken for, `endless` a loop that goes round without end;
`allocator` is an allocation that returned memory in use. -/
inductive Fault where
  | wild
  | abort
  | endless
  | allocator
  deriving DecidableEq, Repr

abbrev Addr := ℕ

/-! ### Pointers -/

def readNext (m : Nodes Addr) (a : Addr) : Except Fault Addr :=
  if a ∈ m.places then .ok (m.next a) else .error .wild

def readPrev (m : Nodes Addr) (a : Addr) : Except Fault Addr :=
  if a ∈ m.places then .ok (m.prev a) else .error .wild

def writeNext (m : Nodes Addr) (a v : Addr) : Except Fault (Nodes Addr) :=
  if a ∈ m.places then .ok { m with next := Function.update m.next a v } else .error .wild

def writePrev (m : Nodes Addr) (a v : Addr) : Except Fault (Nodes Addr) :=
  if a ∈ m.places then .ok { m with prev := Function.update m.prev a v } else .error .wild

theorem readNext_of_mem {m : Nodes Addr} {a : Addr} (h : a ∈ m.places) : readNext m a = .ok (m.next a) := if_pos h

theorem readPrev_of_mem {m : Nodes Addr} {a : Addr} (h : a ∈ m.places) : readPrev m a = .ok (m.prev a) := if_pos h

/-! ### Checks -/

/- The loop of `list_check_node`, from a node `p` and the one it points at. A list with
more steps than there are nodes does not come back to `node`. -/
def checkFrom (m : Nodes Addr) (node : Addr) : ℕ → Addr → Addr → Except Fault Bool
  | 0, _, _ => .error .endless
  | steps + 1, p, n =>
      if n = node then (readPrev m node).map (· == p)
      else (readPrev m n).bind fun q =>
        if q ≠ p then .ok false else (readNext m n).bind fun n' => checkFrom m node steps n n'

/-- `false` is a return of NULL. -/
def listCheckNode (m : Nodes Addr) (node : Addr) : Except Fault Bool :=
  (readNext m node).bind fun n => checkFrom m node m.places.length node n

def listDebug (debug : Bool) (m : Nodes Addr) (h : Addr) : Except Fault Unit :=
  if debug then (listCheckNode m h).bind fun ok => if ok then .ok () else .error .abort else .ok ()

/-! ### Operations -/

def listHeadInit (m : Nodes Addr) (h : Addr) : Except Fault (Nodes Addr) := do
  let m ← writePrev m h h
  writeNext m h h

def listNodeInit (m : Nodes Addr) (n : Addr) : Except Fault (Nodes Addr) := do
  let m ← writePrev m n n
  writeNext m n n

def listAddAfter (debug : Bool) (m : Nodes Addr) (h p n : Addr) : Except Fault (Nodes Addr) := do
  let m ← writeNext m n (← readNext m p)
  let m ← writePrev m n p
  let m ← writePrev m (← readNext m p) n
  let m ← writeNext m p n
  listDebug debug m h
  return m

def listAdd (debug : Bool) (m : Nodes Addr) (h n : Addr) : Except Fault (Nodes Addr) := listAddAfter debug m h h n

def listAddBefore (debug : Bool) (m : Nodes Addr) (h p n : Addr) : Except Fault (Nodes Addr) := do
  let m ← writeNext m n p
  let m ← writePrev m n (← readPrev m p)
  let m ← writeNext m (← readPrev m p) n
  let m ← writePrev m p n
  listDebug debug m h
  return m

def listAddTail (debug : Bool) (m : Nodes Addr) (h n : Addr) : Except Fault (Nodes Addr) :=
  listAddBefore debug m h h n

def listEmpty (debug : Bool) (m : Nodes Addr) (h : Addr) : Except Fault Bool := do
  listDebug debug m h
  return (← readNext m h) == h

/- A node that was taken off is caught when it is used again, in a debug build. -/
def poison (debug : Bool) (m : Nodes Addr) (n : Addr) : Except Fault (Nodes Addr) :=
  if debug then (writePrev m n 0).bind fun m => writeNext m n 0 else .ok m

def listDel (debug : Bool) (m : Nodes Addr) (n : Addr) : Except Fault (Nodes Addr) := do
  listDebug debug m n
  let m ← writePrev m (← readNext m n) (← readPrev m n)
  let m ← writeNext m (← readPrev m n) (← readNext m n)
  poison debug m n

/-- 0 is the null pointer. -/
def listTop (debug : Bool) (m : Nodes Addr) (h : Addr) : Except Fault Addr := do
  if ← listEmpty debug m h then return 0
  readNext m h

def listEntryOrNull (h n : Addr) : Addr := if n = h then 0 else n

def listNext (debug : Bool) (m : Nodes Addr) (h i : Addr) : Except Fault Addr := do
  listDebug debug m h
  return listEntryOrNull h (← readNext m i)

/- `list_for_each_safe` with a body that takes the entry off. The entry after it was read
before. -/
def drainFrom (debug : Bool) (h : Addr) : ℕ → Addr → Addr → Nodes Addr → Except Fault (Nodes Addr)
  | 0, _, _, _ => .error .endless
  | steps + 1, i, nxt, m =>
      if i = h then .ok m
      else do
        let m ← listDel debug m i
        let n ← readNext m nxt
        drainFrom debug h steps nxt n m

def listDrain (debug : Bool) (m : Nodes Addr) (h : Addr) : Except Fault (Nodes Addr) := do
  listDebug debug m h
  let i ← readNext m h
  let nxt ← readNext m i
  drainFrom debug h m.places.length i nxt m

end LibCxlmi.Heap
