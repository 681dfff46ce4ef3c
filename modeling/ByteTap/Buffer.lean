import ByteTap.Bytes

/-!
# The receive buffer

A buffer of fixed capacity.  Its first `occupied` cells hold the bytes that were received and not
yet released; the cells above that line keep whatever was last written there, and zero before
the first write.  Through `filled` it is a bounded first-in-first-out list:

* `extend` appends as much as fits;
* `consume` removes from the front;
* `reset` empties it.

What lies above the line never reaches `filled`: see `filled_scribble`.
-/

namespace ByteTap

/-- A receive buffer of `capacity` cells. -/
structure Buffer where
  /-- The number of cells. -/
  capacity : Nat
  /-- The cells written so far, from the first one on; every later cell still holds zero. -/
  cells : Bytes
  /-- How many leading cells hold received bytes. -/
  occupied : Nat
  occupied_le : occupied ≤ cells.length
  cells_le : cells.length ≤ capacity

namespace Buffer

/-- The most cells that can be set aside in memory. -/
def largest : Nat := Nat.pow 2 63 - 1

/-- The panic of asking for more cells than `largest`. -/
def overflowText : String := "capacity overflow"

/-- An empty buffer; every cell holds zero. -/
def empty (capacity : Nat) : Buffer :=
  ⟨capacity, [], 0, Nat.le_refl 0, Nat.zero_le capacity⟩

/-- Sets the cells of a buffer aside in memory, if there can be that many. -/
def allocate (capacity : Nat) : Except String Buffer :=
  if largest < capacity then .error overflowText else .ok (empty capacity)

/-- The received bytes, oldest first. -/
def filled (b : Buffer) : Bytes := b.cells.take b.occupied

/-- The number of bytes that still fit. -/
def spare (b : Buffer) : Nat := b.capacity - b.occupied

/-- No byte fits any more. -/
def isFull (b : Buffer) : Bool := b.occupied == b.capacity

/-- The content of the cells above the occupied ones. -/
def spareCells (b : Buffer) : Bytes :=
  b.cells.drop b.occupied ++ List.replicate (b.capacity - b.cells.length) 0

/-- The bytes of `bytes` that `extend` appends: those that fit. -/
def accepted (b : Buffer) (bytes : Bytes) : Bytes := bytes.take b.spare

/-- Writes `bytes` above the occupied cells, as far as they fit. -/
def scribble (b : Buffer) (bytes : Bytes) : Buffer where
  capacity := b.capacity
  cells := b.filled ++ b.accepted bytes ++ b.cells.drop (b.occupied + (b.accepted bytes).length)
  occupied := b.occupied
  occupied_le := by
    have := b.occupied_le
    simp only [filled, List.length_append, List.length_take]; omega
  cells_le := by
    have := b.occupied_le; have := b.cells_le
    simp only [filled, accepted, spare, List.length_append, List.length_take, List.length_drop]
    omega

/-- Appends the bytes that fit and drops the rest. -/
def extend (b : Buffer) (bytes : Bytes) : Buffer :=
  { b.scribble bytes with
    occupied := b.occupied + (b.accepted bytes).length
    occupied_le := by
      have := b.occupied_le
      simp only [scribble, filled, List.length_append, List.length_take]; omega }

/-- The number of bytes that `consume n` removes. -/
def released (b : Buffer) (n : Nat) : Nat := min n b.occupied

/-- Removes the first `n` bytes, or all of them if there are fewer: the bytes behind them move to
the front, and the cells above the new occupied ones keep their content. -/
def consume (b : Buffer) (n : Nat) : Buffer where
  capacity := b.capacity
  cells := b.filled.drop (b.released n) ++ b.cells.drop (b.occupied - b.released n)
  occupied := b.occupied - b.released n
  occupied_le := by
    have := b.occupied_le
    simp only [filled, released, List.length_append, List.length_drop, List.length_take]; omega
  cells_le := by
    have := b.occupied_le; have := b.cells_le
    simp only [filled, released, List.length_append, List.length_drop, List.length_take]; omega

/-- Removes every byte; no cell changes. -/
def reset (b : Buffer) : Buffer :=
  { b with occupied := 0, occupied_le := Nat.zero_le _ }

/-! ## Through the list of received bytes -/

theorem length_filled (b : Buffer) : b.filled.length = b.occupied := by
  have := b.occupied_le; simp [filled]; omega

theorem occupied_le_capacity (b : Buffer) : b.occupied ≤ b.capacity :=
  Nat.le_trans b.occupied_le b.cells_le

@[simp] theorem filled_empty (n : Nat) : (empty n).filled = [] := rfl

@[simp] theorem filled_scribble (b : Buffer) (bytes : Bytes) :
    (b.scribble bytes).filled = b.filled := by
  show (b.filled ++ b.accepted bytes ++ _).take b.occupied = _
  rw [List.append_assoc, List.take_left' b.length_filled]

@[simp] theorem filled_extend (b : Buffer) (bytes : Bytes) :
    (b.extend bytes).filled = b.filled ++ b.accepted bytes := by
  show (b.filled ++ b.accepted bytes ++ _).take (b.occupied + _) = _
  rw [List.take_left' (by rw [List.length_append, b.length_filled])]

@[simp] theorem filled_consume (b : Buffer) (n : Nat) :
    (b.consume n).filled = b.filled.drop n := by
  show (b.filled.drop (b.released n) ++ _).take (b.occupied - b.released n) = _
  rw [List.take_left' (by rw [List.length_drop, b.length_filled])]
  rcases Nat.le_total n b.occupied with hn | hn
  · rw [released, Nat.min_eq_left hn]
  · rw [released, Nat.min_eq_right hn, List.drop_eq_nil_of_le (Nat.le_of_eq b.length_filled),
      List.drop_eq_nil_of_le (by rw [b.length_filled]; exact hn)]

@[simp] theorem filled_reset (b : Buffer) : b.reset.filled = [] := by
  simp [filled, reset]

end Buffer

end ByteTap
