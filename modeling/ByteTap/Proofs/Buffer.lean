import ByteTap.Buffer

/-!
# The buffer as a bounded queue

What a buffer shows is a list of at most `capacity` bytes, to which bytes are added at the end and
from which they are taken at the front.  Underneath lies a row of cells, in which bytes are moved
and stale ones stay behind.

* `Queue` is the list, with the operations on it;
* `Region` is the row of cells, every access to which states its range and fails outside of it;
* `Buffer.queue_after` and `Buffer.region_after`: an operation on the buffer is the one on its
  list, and the one on its cells, none of whose accesses fails;
* `bounded_queue`: this holds of every buffer that comes of one empty buffer by operations and by
  making copies.
-/

namespace ByteTap

/-- What is done with a buffer. -/
inductive Operation where
  /-- Appends the bytes that fit. -/
  | extend (bytes : Bytes)
  /-- Removes so many bytes from the front. -/
  | consume (count : Nat)
  /-- Removes every byte. -/
  | reset
  /-- Writes into the spare cells; a whole content for them is any write at all. -/
  | scribble (bytes : Bytes)

/-- The operation writes into the spare cells from outside. -/
def Operation.isWrite : Operation → Bool
  | scribble _ => true
  | _ => false

/-- What a buffer comes to by an operation, and what the operation returns. -/
def Buffer.after (b : Buffer) : Operation → Buffer × Option Nat
  | .extend bytes => (b.extend bytes, some (b.accepted bytes).length)
  | .consume count => (b.consume count, some (b.released count))
  | .reset => (b.reset, none)
  | .scribble bytes => (b.scribble bytes, none)

/-! ## The list -/

/-- A list of bytes, and how long it may become. -/
structure Queue where
  capacity : Nat
  content : Bytes

/-- What a queue comes to by an operation, and what the operation returns. -/
def Queue.after (q : Queue) : Operation → Queue × Option Nat
  | .extend bytes =>
      let count := min bytes.length (q.capacity - q.content.length)
      ({ q with content := q.content ++ bytes.take count }, some count)
  | .consume count =>
      let count := min count q.content.length
      ({ q with content := q.content.drop count }, some count)
  | .reset => ({ q with content := [] }, none)
  | .scribble _ => (q, none)

/-! ## The cells -/

/-- The bytes between two positions, if these are positions in order. -/
def slice? (bytes : Bytes) (start stop : Nat) : Option Bytes :=
  if start ≤ stop ∧ stop ≤ bytes.length then some ((bytes.take stop).drop start) else none

/-- The bytes with others written over them from a position on, if these end inside. -/
def overwrite? (bytes : Bytes) (start : Nat) (new : Bytes) : Option Bytes :=
  if start + new.length ≤ bytes.length then
    some (bytes.take start ++ new ++ bytes.drop (start + new.length))
  else none

theorem slice?_of_le {bytes : Bytes} {start stop : Nat} (lower : start ≤ stop)
    (upper : stop ≤ bytes.length) : slice? bytes start stop = some ((bytes.take stop).drop start) :=
  if_pos ⟨lower, upper⟩

theorem overwrite?_of_le {bytes new : Bytes} {start : Nat}
    (inside : start + new.length ≤ bytes.length) :
    overwrite? bytes start new =
      some (bytes.take start ++ new ++ bytes.drop (start + new.length)) :=
  if_pos inside

/-- A row of cells, and how many of the leading ones are occupied. -/
structure Region where
  cells : Bytes
  occupied : Nat

namespace Region

/-- The occupied cells. -/
def filled? (r : Region) : Option Bytes := slice? r.cells 0 r.occupied

/-- The cells above the occupied ones. -/
def spare? (r : Region) : Option Bytes := slice? r.cells r.occupied r.cells.length

/-- Writes into the spare cells as many bytes as fit; with the cells comes their number. -/
def write? (r : Region) (bytes : Bytes) : Option (Region × Nat) := do
  let spare ← r.spare?
  let count := min bytes.length spare.length
  let fitting ← slice? bytes 0 count
  let cells ← overwrite? r.cells r.occupied fitting
  pure ({ r with cells }, count)

/-- Moves the occupied cells to the front, except for the first ones; with the cells comes the
number of those that were dropped. -/
def shift? (r : Region) (count : Nat) : Option (Region × Nat) :=
  let count := min count r.occupied
  if count = 0 then some (r, 0)
  else do
    let kept ← slice? r.cells count r.occupied
    let cells ← overwrite? r.cells 0 kept
    pure ({ cells, occupied := r.occupied - count }, count)

/-- What the cells come to by an operation, and what the operation returns; nothing if an access is
out of range. -/
def after? (r : Region) : Operation → Option (Region × Option Nat)
  | .extend bytes => do
      let (r, count) ← r.write? bytes
      pure ({ r with occupied := r.occupied + count }, some count)
  | .consume count => do
      let (r, count) ← r.shift? count
      pure (r, some count)
  | .reset => some ({ r with occupied := 0 }, none)
  | .scribble bytes => do
      let (r, _) ← r.write? bytes
      pure (r, none)

end Region

namespace Buffer

/-- The list that a buffer shows. -/
def queue (b : Buffer) : Queue := ⟨b.capacity, b.filled⟩

/-- The cells of a buffer, those that were never written included. -/
def region (b : Buffer) : Region :=
  ⟨b.cells ++ List.replicate (b.capacity - b.cells.length) 0, b.occupied⟩

theorem isFull_iff {b : Buffer} : b.isFull = true ↔ b.occupied = b.capacity := by
  simp [isFull]

/-- Releasing more bytes than there are releases them all. -/
theorem drop_released_filled (b : Buffer) (n : Nat) :
    b.filled.drop (b.released n) = b.filled.drop n := by
  rcases Nat.le_total n b.occupied with le | le
  · rw [released, Nat.min_eq_left le]
  · rw [released, Nat.min_eq_right le, ← b.length_filled, List.drop_length,
      List.drop_eq_nil_of_le (b.length_filled ▸ le)]

/-! ## Against the list -/

variable (b : Buffer)

theorem length_accepted (bytes : Bytes) :
    (b.accepted bytes).length = min bytes.length (b.capacity - b.filled.length) := by
  rw [accepted, List.length_take, spare, length_filled, Nat.min_comm]

theorem accepted_eq_take (bytes : Bytes) :
    b.accepted bytes = bytes.take (min bytes.length (b.capacity - b.filled.length)) := by
  rw [accepted, spare, length_filled, Nat.min_comm, ← List.take_eq_take_min]

/-- An operation on a buffer is the one on the list that it shows. -/
theorem queue_after (operation : Operation) :
    b.queue.after operation = ((b.after operation).1.queue, (b.after operation).2) := by
  cases operation with
  | extend bytes =>
    have shown : (b.extend bytes).queue = ⟨b.capacity, b.filled ++ b.accepted bytes⟩ := by
      rw [← filled_extend]
      rfl
    show (_, some (min bytes.length (b.capacity - b.filled.length))) =
      ((b.extend bytes).queue, some (b.accepted bytes).length)
    rw [shown, length_accepted, accepted_eq_take]
    rfl
  | consume count =>
    have shown : (b.consume count).queue = ⟨b.capacity, b.filled.drop (b.released count)⟩ := by
      rw [drop_released_filled, ← filled_consume]
      rfl
    show (_, some (min count b.filled.length)) = ((b.consume count).queue, some (b.released count))
    rw [shown, released, ← length_filled]
    rfl
  | reset =>
    show ((⟨b.capacity, []⟩ : Queue), none) = (⟨b.reset.capacity, b.reset.filled⟩, none)
    rw [filled_reset]
    rfl
  | scribble bytes =>
    show ((⟨b.capacity, b.filled⟩ : Queue), none) =
      (⟨(b.scribble bytes).capacity, (b.scribble bytes).filled⟩, none)
    rw [filled_scribble]
    rfl

/-! ## Against the cells -/

theorem length_region : b.region.cells.length = b.capacity := by
  have := b.cells_le
  simp only [region, List.length_append, List.length_replicate]
  omega

theorem take_region {i : Nat} (written : i ≤ b.cells.length) :
    b.region.cells.take i = b.cells.take i :=
  List.take_append_of_le_length written

theorem drop_region (i : Nat) :
    b.region.cells.drop i =
      b.cells.drop i ++ List.replicate (b.capacity - max i b.cells.length) 0 := by
  show (b.cells ++ _).drop i = _
  rw [List.drop_append, List.drop_replicate]
  congr 2
  omega

theorem occupied_le_length_region : b.occupied ≤ b.region.cells.length := by
  rw [length_region]
  exact b.occupied_le_capacity

theorem filled?_region : b.region.filled? = some b.filled := by
  show slice? b.region.cells 0 b.occupied = _
  rw [slice?_of_le (Nat.zero_le _) b.occupied_le_length_region, List.drop_zero,
    b.take_region b.occupied_le]
  rfl

theorem spare?_region : b.region.spare? = some b.spareCells := by
  show slice? b.region.cells b.occupied b.region.cells.length = _
  rw [slice?_of_le b.occupied_le_length_region (Nat.le_refl _), List.take_length, drop_region,
    Nat.max_eq_right b.occupied_le]
  rfl

theorem length_spareCells : b.spareCells.length = b.spare := by
  have := b.occupied_le
  have := b.cells_le
  simp only [spareCells, spare, List.length_append, List.length_drop, List.length_replicate]
  omega

/-- The cells after a write: only those that the bytes fell on are others. -/
theorem region_scribble (bytes : Bytes) :
    (b.scribble bytes).region =
      { b.region with
        cells := b.region.cells.take b.occupied ++ b.accepted bytes ++
          b.region.cells.drop (b.occupied + (b.accepted bytes).length) } := by
  have length : (b.scribble bytes).cells.length =
      max (b.occupied + (b.accepted bytes).length) b.cells.length := by
    have := b.length_filled
    simp only [scribble, List.length_append, List.length_drop]
    omega
  show (⟨(b.scribble bytes).cells ++
    List.replicate (b.capacity - (b.scribble bytes).cells.length) 0, b.occupied⟩ : Region) = _
  rw [length, take_region b b.occupied_le, drop_region, ← List.append_assoc]
  rfl

/-- The cells after a removal: the other bytes are at the front, and nothing has changed above
them. -/
theorem region_consume (count : Nat) :
    (b.consume count).region =
      ⟨b.filled.drop (b.released count) ++ b.region.cells.drop (b.occupied - b.released count),
        b.occupied - b.released count⟩ := by
  have le := b.occupied_le
  have length : (b.consume count).cells.length = b.cells.length := by
    simp only [consume, List.length_append, List.length_drop, length_filled]
    omega
  show (⟨(b.consume count).cells ++
    List.replicate (b.capacity - (b.consume count).cells.length) 0, _⟩ : Region) = _
  rw [length, drop_region, Nat.max_eq_right (by omega), ← List.append_assoc]
  rfl

theorem write?_region (bytes : Bytes) :
    b.region.write? bytes = some ((b.scribble bytes).region, (b.accepted bytes).length) := by
  have fits : (b.accepted bytes).length ≤ b.capacity - b.occupied := by
    rw [length_accepted, length_filled]
    exact Nat.min_le_right _ _
  have inside : b.occupied + (b.accepted bytes).length ≤ b.region.cells.length := by
    have := b.occupied_le_capacity
    rw [length_region]
    omega
  have count : min bytes.length b.spareCells.length = (b.accepted bytes).length := by
    rw [length_spareCells, length_accepted, length_filled]
    rfl
  have fitting : slice? bytes 0 (b.accepted bytes).length = some (b.accepted bytes) := by
    have within : (b.accepted bytes).length ≤ bytes.length := by
      rw [length_accepted]
      exact Nat.min_le_left _ _
    rw [slice?_of_le (Nat.zero_le _) within, List.drop_zero, length_accepted, ← accepted_eq_take]
  have written : overwrite? b.region.cells b.occupied (b.accepted bytes) =
      some (b.scribble bytes).region.cells := by
    rw [overwrite?_of_le inside, region_scribble]
  show b.region.spare?.bind _ = _
  rw [spare?_region, Option.bind_some, count]
  show (slice? bytes 0 _).bind _ = _
  rw [fitting, Option.bind_some]
  show (overwrite? b.region.cells b.occupied _).bind _ = _
  rw [written]
  rfl

theorem shift?_region (count : Nat) :
    b.region.shift? count = some ((b.consume count).region, b.released count) := by
  have most : b.released count ≤ b.occupied := Nat.min_le_right _ _
  have least := b.occupied_le_length_region
  have kept : slice? b.region.cells (b.released count) b.occupied =
      some (b.filled.drop (b.released count)) := by
    rw [slice?_of_le most least, b.take_region b.occupied_le]
    rfl
  have moved : overwrite? b.region.cells 0 (b.filled.drop (b.released count)) =
      some (b.consume count).region.cells := by
    have length : (b.filled.drop (b.released count)).length = b.occupied - b.released count := by
      rw [List.length_drop, length_filled]
    have inside : 0 + (b.filled.drop (b.released count)).length ≤ b.region.cells.length := by
      omega
    rw [overwrite?_of_le inside, length, Nat.zero_add, region_consume]
    rfl
  show (if b.released count = 0 then some (b.region, 0) else _) = _
  split
  -- nothing is released, and the cells are not touched
  · next nothing =>
    have same : (b.consume count).region = b.region := by
      rw [region_consume, nothing, Nat.sub_zero, List.drop_zero, filled,
        ← b.take_region b.occupied_le, List.take_append_drop]
      rfl
    rw [same, nothing]
  · show (slice? b.region.cells (b.released count) b.occupied).bind _ = _
    rw [kept, Option.bind_some]
    show (overwrite? b.region.cells 0 _).bind _ = _
    rw [moved]
    rfl

/-- An operation on a buffer is the one on its cells, and no access of that is out of range. -/
theorem region_after (operation : Operation) :
    b.region.after? operation = some ((b.after operation).1.region, (b.after operation).2) := by
  cases operation with
  | extend bytes =>
    show (b.region.write? bytes).bind _ = _
    rw [write?_region]
    rfl
  | consume count =>
    show (b.region.shift? count).bind _ = _
    rw [shift?_region]
    rfl
  | reset => rfl
  | scribble bytes =>
    show (b.region.write? bytes).bind _ = _
    rw [write?_region]
    rfl

/-! ## What stays -/

/-- An operation from inside changes no cell above those that are occupied afterwards. -/
theorem drop_region_after {operation : Operation} (inside : operation.isWrite = false) :
    (b.after operation).1.region.cells.drop (b.after operation).1.occupied =
      b.region.cells.drop (b.after operation).1.occupied := by
  have le := b.occupied_le
  cases operation with
  | extend bytes =>
    show (b.scribble bytes).region.cells.drop (b.occupied + (b.accepted bytes).length) = _
    rw [region_scribble, b.take_region le]
    refine List.drop_left' ?_
    show (b.filled ++ b.accepted bytes).length = _
    rw [List.length_append, length_filled]
  | consume count =>
    show (b.consume count).region.cells.drop (b.occupied - b.released count) = _
    rw [region_consume]
    refine List.drop_left' ?_
    rw [List.length_drop, length_filled]
  | reset => rfl
  | scribble bytes => cases inside

theorem spareCells_eq_drop : b.spareCells = b.region.cells.drop b.occupied := by
  rw [drop_region, Nat.max_eq_right b.occupied_le]
  rfl

/-- A write leaves its bytes in the spare cells, as far as they fit. -/
theorem spareCells_scribble (bytes : Bytes) :
    (b.scribble bytes).spareCells =
      b.accepted bytes ++ b.spareCells.drop (b.accepted bytes).length := by
  have written : b.region.cells.take b.occupied = b.filled := b.take_region b.occupied_le
  rw [spareCells_eq_drop, spareCells_eq_drop, region_scribble, written, List.append_assoc,
    List.drop_drop]
  exact List.drop_left' b.length_filled

end Buffer

/-! ## Several buffers -/

/-- What is done with a row of buffers. -/
inductive Deed where
  /-- An operation on the buffer at a place. -/
  | operate (place : Nat) (operation : Operation)
  /-- A copy of the buffer at a place is added to the row. -/
  | copy (place : Nat)

section

variable {α β : Type} (after : α → Operation → α × Option Nat)

/-- What a row comes to by a deed, and what the operation in it returns. -/
def Deed.on (row : List α) : Deed → List α × Option Nat
  | operate place operation =>
      match row[place]? with
      | some a => (row.set place (after a operation).1, (after a operation).2)
      | none => (row, none)
  | copy place => (row ++ row[place]?.toList, none)

/-- What a row comes to by several deeds, and what the operations return. -/
def carryOut (row : List α) : List Deed → List α × List (Option Nat)
  | [] => (row, [])
  | deed :: later =>
      let next := deed.on after row
      let rest := carryOut next.1 later
      (rest.1, next.2 :: rest.2)

variable {after}

/-- What is seen of a row after some deeds is what they come to on what is seen of it. -/
theorem carryOut_map {after' : β → Operation → β × Option Nat} {view : α → β}
    (seen : ∀ a operation,
      after' (view a) operation = (view (after a operation).1, (after a operation).2))
    (row : List α) (deeds : List Deed) :
    carryOut after' (row.map view) deeds =
      ((carryOut after row deeds).1.map view, (carryOut after row deeds).2) := by
  induction deeds generalizing row with
  | nil => rfl
  | cons deed later ih =>
    have next : deed.on after' (row.map view) =
        ((deed.on after row).1.map view, (deed.on after row).2) := by
      cases deed with
      | operate place operation =>
        cases there : row[place]? with
        | none => simp [Deed.on, there]
        | some a => simp [Deed.on, there, seen, List.map_set]
      | copy place => cases there : row[place]? <;> simp [Deed.on, there]
    simp only [carryOut, next, ih]

/-- What every operation keeps holds of every member of a row. -/
theorem carryOut_invariant {Inv : α → Prop}
    (kept : ∀ {a operation}, Inv a → Inv (after a operation).1) {row : List α}
    (inv : ∀ a ∈ row, Inv a) (deeds : List Deed) : ∀ a ∈ (carryOut after row deeds).1, Inv a := by
  induction deeds generalizing row with
  | nil => exact inv
  | cons deed later ih =>
    refine ih fun a among => ?_
    cases deed with
    | operate place operation =>
      cases there : row[place]? with
      | none => exact inv a (by simpa [Deed.on, there] using among)
      | some old =>
        simp only [Deed.on, there] at among
        rcases List.mem_or_eq_of_mem_set among with among | rfl
        · exact inv a among
        · exact kept (inv old (List.mem_of_getElem? there))
    | copy place =>
      rcases List.mem_append.1 among with among | new
      · exact inv a among
      · exact inv a (List.mem_of_getElem? (Option.mem_toList.1 new))

end

/-- What is said of one buffer of that capacity. -/
structure Buffer.QueueLike (capacity : Nat) (b : Buffer) : Prop where
  capacity_eq : b.capacity = capacity
  occupied_eq : b.occupied = b.filled.length
  bounded : b.filled.length ≤ capacity
  spare_eq : b.spare = capacity - b.filled.length
  full_iff : b.isFull = true ↔ b.filled.length = capacity
  /-- The views of the buffer lie inside its cells. -/
  filled_inside : b.region.filled? = some b.filled
  spare_inside : b.region.spare? = some b.spareCells
  /-- Every operation moves bytes inside the cells only. -/
  inside : ∀ operation,
    b.region.after? operation = some ((b.after operation).1.region, (b.after operation).2)
  /-- No byte above the occupied cells changes by an operation from inside. -/
  above : ∀ operation, operation.isWrite = false → ∀ i, (b.after operation).1.occupied ≤ i →
    (b.after operation).1.region.cells[i]? = b.region.cells[i]?
  /-- Whatever is written into the spare cells is found there, and not among the received bytes. -/
  written : ∀ bytes, bytes.length = b.spare →
    (b.scribble bytes).spareCells = bytes ∧ (b.scribble bytes).filled = b.filled

/-- Every buffer is a bounded queue, and stays inside its cells. -/
theorem Buffer.queueLike (b : Buffer) : b.QueueLike b.capacity where
  capacity_eq := rfl
  occupied_eq := b.length_filled.symm
  bounded := b.length_filled ▸ b.occupied_le_capacity
  spare_eq := by rw [length_filled]; rfl
  full_iff := by rw [length_filled, isFull_iff]
  filled_inside := b.filled?_region
  spare_inside := b.spare?_region
  inside := b.region_after
  above operation inside i le := by
    have same := congrArg (·[i - (b.after operation).1.occupied]?) (b.drop_region_after inside)
    simpa [Nat.add_sub_cancel' le] using same
  written bytes length := by
    have whole : b.accepted bytes = bytes := List.take_of_length_le (Nat.le_of_eq length)
    refine ⟨?_, b.filled_scribble bytes⟩
    have all : b.spareCells.drop bytes.length = [] := by
      rw [length, ← length_spareCells, List.drop_length]
    rw [spareCells_scribble, whole, all, List.append_nil]

/-- Whatever is done with a buffer and with copies of it: each of them shows the list that the same
operations make of an empty one, the operations return what they return for the list, and each of
them stays within its cells. -/
theorem bounded_queue (capacity : Nat) (deeds : List Deed) :
    (Buffer.empty capacity).region = ⟨List.replicate capacity 0, 0⟩ ∧
      carryOut Queue.after [⟨capacity, []⟩] deeds =
        ((carryOut Buffer.after [Buffer.empty capacity] deeds).1.map Buffer.queue,
          (carryOut Buffer.after [Buffer.empty capacity] deeds).2) ∧
      ∀ b ∈ (carryOut Buffer.after [Buffer.empty capacity] deeds).1, b.QueueLike capacity := by
  refine ⟨rfl, ?_, ?_⟩
  · exact carryOut_map Buffer.queue_after [Buffer.empty capacity] deeds
  · intro b among
    have kept {b : Buffer} {operation : Operation} (same : b.capacity = capacity) :
        (b.after operation).1.capacity = capacity := by
      cases operation <;> exact same
    have first : ∀ b ∈ [Buffer.empty capacity], b.capacity = capacity := by simp [Buffer.empty]
    have same : b.capacity = capacity := carryOut_invariant kept first deeds b among
    exact same ▸ b.queueLike

end ByteTap
