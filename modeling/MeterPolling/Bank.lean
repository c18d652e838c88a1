import MeterPolling.Client

namespace MeterPolling

/-- The registers written so far, each once, the one written last first. -/
structure Bank where
  cells : List (UInt16 × UInt16) := []
  deriving DecidableEq, Repr

namespace Bank

def get (b : Bank) (address : UInt16) : UInt16 := (b.cells.lookup address).getD 0

def set (b : Bank) (address word : UInt16) : Bank :=
  ⟨(address, word) :: b.cells.filter (·.1 ≠ address)⟩

def read (b : Bank) (address : UInt16) : Nat → List UInt16
  | 0 => []
  | count + 1 => b.get address :: b.read (address + 1) count

/-- Stores words from an address on; addresses wrap around at 65536. -/
def write (b : Bank) (address : UInt16) : List UInt16 → Bank
  | [] => b
  | w :: ws => (b.set address w).write (address + 1) ws

theorem lookup_filter_ne {cells : List (UInt16 × UInt16)} {a c : UInt16} (h : c ≠ a) :
    (cells.filter (·.1 ≠ a)).lookup c = cells.lookup c := by
  induction cells with
  | nil => rfl
  | cons cell cells ih =>
    obtain ⟨x, w⟩ := cell
    by_cases hx : x = a
    · subst x
      simp [List.lookup_cons, beq_false_of_ne h, ← ih]
    · by_cases hc : c = x <;> simp_all [List.lookup_cons]

theorem get_set (b : Bank) (a c w : UInt16) :
    (b.set a w).get c = if c = a then w else b.get c := by
  by_cases h : c = a
  · subst c
    simp [get, set]
  · have hf := @lookup_filter_ne b.cells a c h
    simp only [ne_eq, decide_not] at hf
    simp [get, set, List.lookup_cons, beq_false_of_ne h, h, hf]

@[simp] theorem length_read (b : Bank) (a : UInt16) (n : Nat) : (b.read a n).length = n := by
  induction n generalizing a with
  | zero => rfl
  | succ n ih => simp [read, ih]

def client : Client (StateM Bank) where
  read register count := fun b => (.ok (b.read register count.toNat), b)
  write register values := fun b => (.ok (), b.write register values)

end Bank

end MeterPolling
