import ByteTap.Transport.Script

/-!
# Reads of a scripted transport

`Script.Answers` lists the ways in which a scripted read ends, or stays pending.  From the list
follow the facts that engines rely on:

* a read returns no more than fits (`Script.bounded`), and is pending only while there is nothing
  to deliver (`Script.poll_pending`);
* reads return what the script delivers, in order, however it is cut into pieces
  (`Script.Drawn.poll`);
* a read that had room takes from what there is to read (`Script.backlog_poll`);
* the probe notes the end of every read (`Script.probe_poll`), and every time the script is shut
  (`Script.countsShuts`).

What is pushed meanwhile leaves the transport as open as it was.
-/

namespace ByteTap

/-- A read never returns more bytes than there is room for at its destination. -/
def Transport.Bounded (τ : Type) [Transport τ] : Prop :=
  ∀ (transport : τ) (room : Nat) (bytes : Bytes),
    (Transport.poll transport room).result = some (.ok bytes) → bytes.length ≤ room

/-- A transport goes away only in a read that fails, or when it is shut. -/
structure Transport.ClosesByFailure (τ : Type) [Transport τ] : Prop where
  issue : ∀ (transport : τ) (room : Nat),
    Transport.isOpen (Transport.issue transport room) = Transport.isOpen transport
  poll : ∀ (transport : τ) (room : Nat), Transport.isOpen transport = true →
    (∀ cause, (Transport.poll transport room).result ≠ some (.error cause)) →
    Transport.isOpen (Transport.poll transport room).transport = true

theorem Transport.ClosesByFailure.startRead {τ : Type} [Transport τ]
    (closes : Transport.ClosesByFailure τ) {transport : τ} {room : Nat}
    (isOpen : Transport.isOpen transport = true)
    (unfailed : ∀ cause, (Transport.startRead transport room).result ≠ some (.error cause)) :
    Transport.isOpen (Transport.startRead transport room).transport = true :=
  closes.poll _ room ((closes.issue transport room).trans isOpen) unfailed

/-- `closes` says how often a transport was shut, up to what it said at the start. -/
structure Transport.CountsShuts {τ : Type} [Transport τ] (arrives : τ → τ → Prop)
    (closes : τ → Nat) : Prop where
  issue : ∀ (transport : τ) (room : Nat), closes (Transport.issue transport room) = closes transport
  poll : ∀ (transport : τ) (room : Nat),
    closes (Transport.poll transport room).transport = closes transport
  abandon : ∀ transport : τ, closes (Transport.abandon transport) = closes transport
  release : ∀ transport : τ, closes (Transport.release transport) = closes transport
  shut : ∀ transport : τ, closes (Transport.shut transport).transport = closes transport + 1
  arrival : ∀ transport transport' : τ, arrives transport transport' →
    closes transport' = closes transport

namespace Script

/-- The probe takes note of a read, and changes nothing about it. -/
theorem result_poll (s : Script) (room : Nat) :
    (Transport.poll s room).result = (s.answer room).result := by
  show (s.poll room).result = (s.answer room).result
  unfold poll
  cases result : (s.answer room).result <;> simp [result]

/-! ## How a read ends -/

/-- How a read of that room ends, or that it is pending. -/
inductive Answers (s : Script) (room : Nat) : Polled Script → Prop
  | gone (closed : s.isOpen = false) (cause : IoFailure) :
      Answers s room { transport := s, result := some (.error cause) }
  | nowhere (isOpen : s.isOpen = true) (nowhere : room = 0) :
      Answers s room { transport := s, result := some (.ok []) }
  | leftover (isOpen : s.isOpen = true) (somewhere : 0 < room) (left : s.leftover ≠ []) :
      Answers s room (s.deliver s.leftover room)
  | data {bytes : Bytes} {rest : List ScriptStep} (isOpen : s.isOpen = true)
      (somewhere : 0 < room) (nothing : s.leftover = []) (first : s.steps = .data bytes :: rest) :
      Answers s room ({ s with steps := rest }.deliver bytes room)
  | zero {rest : List ScriptStep} (isOpen : s.isOpen = true)
      (somewhere : 0 < room) (nothing : s.leftover = []) (first : s.steps = .zero :: rest) :
      Answers s room { transport := { s with steps := rest }, result := some (.ok []) }
  | failure {kind : IoKind} {rest : List ScriptStep} (isOpen : s.isOpen = true)
      (somewhere : 0 < room) (nothing : s.leftover = []) (first : s.steps = .failure kind :: rest)
      (cause : IoFailure) :
      Answers s room { transport := { s with steps := rest }, result := some (.error cause) }
  | disconnect {rest : List ScriptStep} (isOpen : s.isOpen = true)
      (somewhere : 0 < room) (nothing : s.leftover = []) (first : s.steps = .disconnect :: rest)
      (cause : IoFailure) :
      Answers s room
        { transport := { s with steps := rest, isOpen := false }, result := some (.error cause) }
  | pending (isOpen : s.isOpen = true) (somewhere : 0 < room) (nothing : s.leftover = [])
      (empty : s.steps = []) :
      Answers s room { transport := s, result := none }

/-- Every read of a script is one of these. -/
theorem answers (s : Script) (room : Nat) : Answers s room (s.answer room) := by
  unfold answer
  split
  · next closed => exact .gone (by simpa using closed) _
  next isOpen =>
  have isOpen : s.isOpen = true := by simpa using isOpen
  split
  · next nowhere => exact .nowhere isOpen nowhere
  next somewhere =>
  have somewhere : 0 < room := Nat.pos_of_ne_zero somewhere
  split
  · next nothing =>
    have nothing : s.leftover = [] := List.isEmpty_iff.1 nothing
    unfold takeStep
    split
    · next empty => exact .pending isOpen somewhere nothing empty
    · next first => exact .data isOpen somewhere nothing first
    · next first => exact .zero isOpen somewhere nothing first
    · next first => exact .failure isOpen somewhere nothing first _
    · next first => exact .disconnect isOpen somewhere nothing first _
  · next left => exact .leftover isOpen somewhere (by simpa using left)

theorem Answers.length_le {s : Script} {room : Nat} {polled : Polled Script} {bytes : Bytes}
    (answers : Answers s room polled) (ended : polled.result = some (.ok bytes)) :
    bytes.length ≤ room := by
  cases answers with
  | leftover isOpen somewhere left =>
    cases ended
    exact List.length_take_le room _
  | data isOpen somewhere nothing first =>
    cases ended
    exact List.length_take_le room _
  | nowhere isOpen nowhere =>
    cases ended
    exact Nat.zero_le room
  | zero isOpen somewhere nothing first =>
    cases ended
    exact Nat.zero_le room
  | _ => cases ended

/-- A scripted transport never returns more than there is room for. -/
theorem bounded : Transport.Bounded Script := by
  intro s room bytes ended
  rw [result_poll] at ended
  exact (answers s room).length_le ended

theorem Answers.of_pending {s : Script} {room : Nat} {polled : Polled Script}
    (answers : Answers s room polled) (pending : polled.result = none) :
    s.steps = [] ∧ s.leftover = [] ∧ 1 ≤ room := by
  cases answers with
  | pending isOpen somewhere nothing empty => exact ⟨empty, nothing, somewhere⟩
  | _ => cases pending

theorem poll_pending {s : Script} {room : Nat}
    (pending : (Transport.poll s room).result = none) :
    s.steps = [] ∧ s.leftover = [] ∧ 1 ≤ room := by
  rw [result_poll] at pending
  exact (answers s room).of_pending pending

/-- Steps were added at the end of the script. -/
def Pushed (s s' : Script) : Prop := ∃ steps, s' = s.push steps

theorem Pushed.isOpen {s s' : Script} (pushed : Pushed s s') :
    Transport.isOpen s' = Transport.isOpen s := by
  obtain ⟨steps, rfl⟩ := pushed
  rfl

/-- Two scripted transports that go on in the same way, whatever their probes have seen. -/
structure SameScript (s s' : Script) : Prop where
  steps : s'.steps = s.steps
  leftover : s'.leftover = s.leftover
  isOpen : s'.isOpen = s.isOpen

theorem sameScript_poll (s : Script) (room : Nat) :
    SameScript (s.answer room).transport (Transport.poll s room).transport := by
  show SameScript _ (s.poll room).transport
  unfold poll
  dsimp only
  split <;> exact ⟨rfl, rfl, rfl⟩

theorem Answers.probe {s : Script} {room : Nat} {polled : Polled Script}
    (answers : Answers s room polled) : polled.transport.probe = s.probe := by
  cases answers <;> rfl

/-- The probe notes the end of a read, and nothing while it is pending. -/
theorem probe_poll (s : Script) (room : Nat) :
    (Transport.poll s room).transport.probe =
      if (Transport.poll s room).result.isSome then s.probe.finish else s.probe := by
  have kept := (answers s room).probe
  rw [result_poll]
  show (s.poll room).transport.probe = _
  unfold poll
  cases result : (s.answer room).result <;> simp [result, finish, kept]

/-- The probe notes a read as it starts, and its end where it ends at once. -/
theorem probe_startRead (s : Script) (room : Nat) :
    (Transport.startRead s room).transport.probe =
      if (Transport.startRead s room).result.isSome then (s.probe.begin room).finish
      else s.probe.begin room :=
  probe_poll (Transport.issue s room) room

@[simp] theorem probe_abandon (s : Script) : (Transport.abandon s).probe = s.probe.finish := rfl

@[simp] theorem probe_release (s : Script) : (Transport.release s).probe = s.probe := rfl

@[simp] theorem probe_shut (s : Script) :
    (Transport.shut s).transport.probe = { s.probe with closes := s.probe.closes + 1 } := rfl

theorem Pushed.probe {s s' : Script} (pushed : Pushed s s') : s'.probe = s.probe := by
  obtain ⟨steps, rfl⟩ := pushed
  rfl

/-- The probe counts the times that the script is shut. -/
theorem countsShuts : Transport.CountsShuts Pushed fun s : Script => s.probe.closes where
  issue _ _ := rfl
  poll s room := by
    rw [probe_poll]
    split <;> rfl
  abandon _ := rfl
  release _ := rfl
  shut _ := rfl
  arrival _ _ pushed := by rw [pushed.probe]

theorem Answers.isOpen {s : Script} {room : Nat} {polled : Polled Script}
    (answers : Answers s room polled) (isOpen : s.isOpen = true) :
    polled.transport.isOpen = true ∨ 0 < room ∧ ∃ cause, polled.result = some (.error cause) := by
  cases answers with
  | gone closed cause => simp [isOpen] at closed
  | disconnect isOpen somewhere nothing first cause => exact .inr ⟨somewhere, cause, rfl⟩
  | _ => exact .inl isOpen

/-! ## What a script delivers -/

/-- The data of a script up to where the transport goes away, joined. -/
@[simp] def deliverable : List ScriptStep → Bytes
  | [] => []
  | .data bytes :: rest => bytes ++ deliverable rest
  | .zero :: rest => deliverable rest
  | .failure _ :: rest => deliverable rest
  | .disconnect :: _ => []

theorem deliverable_append {steps : List ScriptStep} (connected : .disconnect ∉ steps)
    (more : List ScriptStep) :
    deliverable (steps ++ more) = deliverable steps ++ deliverable more := by
  induction steps with
  | nil => rfl
  | cons step rest ih =>
    have still : .disconnect ∉ rest := fun among => connected (List.mem_cons_of_mem step among)
    cases step with
    | disconnect => simp at connected
    | _ => simp [ih still]

/-- Behind a disconnection nothing is delivered any more. -/
theorem deliverable_append_of_disconnect {steps : List ScriptStep} (lost : .disconnect ∈ steps)
    (more : List ScriptStep) : deliverable (steps ++ more) = deliverable steps := by
  induction steps with
  | nil => cases lost
  | cons step rest ih =>
    cases step with
    | disconnect => rfl
    | _ => simp [ih (by simpa using lost)]

/-- The bytes with which a read ended. -/
@[simp] def endedBytes : Except IoFailure Bytes → Bytes
  | .ok bytes => bytes
  | .error _ => []

/-- How far a script was read: the steps `taken` from it delivered what reads have returned, and
what is left over. -/
structure Drawn (script : List ScriptStep) (returned : Bytes) (taken : List ScriptStep)
    (s : Script) : Prop where
  split : script = taken ++ s.steps
  bytes : deliverable taken = returned ++ s.leftover
  connected : s.isOpen = true → .disconnect ∉ taken
  lost : s.isOpen = false → .disconnect ∈ taken ∧ s.leftover = []

section

variable {script taken : List ScriptStep} {returned : Bytes} {s s' : Script} {room : Nat}
  {polled : Polled Script}

theorem Drawn.same (drawn : Drawn script returned taken s) (same : SameScript s s') :
    Drawn script returned taken s' := by
  obtain ⟨steps, leftover, isOpen⟩ := same
  obtain ⟨split, bytes, connected, lost⟩ := drawn
  constructor
  · rwa [steps]
  · rwa [leftover]
  · rwa [isOpen]
  · rwa [isOpen, leftover]

theorem Drawn.push (drawn : Drawn script returned taken s) (steps : List ScriptStep) :
    Drawn (script ++ steps) returned taken (s.push steps) := by
  obtain ⟨split, bytes, connected, lost⟩ := drawn
  refine ⟨?_, bytes, connected, lost⟩
  rw [split, List.append_assoc]
  rfl

/-- One more step is taken, and its data are left over or returned. -/
theorem Drawn.take {step : ScriptStep} {rest : List ScriptStep} {more left : Bytes}
    (drawn : Drawn script returned taken s) (isOpen : s.isOpen = true)
    (nothing : s.leftover = []) (first : s.steps = step :: rest) (onward : step ≠ .disconnect)
    (data : deliverable [step] = more ++ left) :
    Drawn script (returned ++ more) (taken ++ [step])
      { s with steps := rest, leftover := left } := by
  have connected := drawn.connected isOpen
  refine ⟨?_, ?_, ?_, ?_⟩
  · rw [drawn.split, first, List.append_assoc]
    rfl
  -- nothing was left over, so what the step delivers comes right behind what was returned
  · rw [deliverable_append connected, drawn.bytes, nothing, data]
    simp
  · intro _ among
    rcases List.mem_append.1 among with among | among
    · exact connected among
    · exact onward (List.mem_singleton.1 among).symm
  · intro closed
    exact absurd (isOpen.symm.trans closed) (by decide)

/-- A read that has ended took one step, or more of the last one, or nothing. -/
theorem Drawn.ended {result : Except IoFailure Bytes} (drawn : Drawn script returned taken s)
    (answers : Answers s room polled) (ended : polled.result = some result) :
    ∃ taken, Drawn script (returned ++ endedBytes result) taken polled.transport := by
  cases answers with
  | gone closed cause =>
    cases ended
    exact ⟨taken, by simpa using drawn⟩
  | nowhere isOpen nowhere =>
    cases ended
    exact ⟨taken, by simpa using drawn⟩
  -- No step is taken: what is left over is cut in two.
  | leftover isOpen somewhere left =>
    cases ended
    refine ⟨taken, drawn.split, ?_, drawn.connected, ?_⟩
    · show deliverable taken = returned ++ s.leftover.take room ++ s.leftover.drop room
      rw [List.append_assoc, List.take_append_drop]
      exact drawn.bytes
    · exact fun closed => absurd (isOpen.symm.trans closed) (by decide)
  | @data bytes rest isOpen somewhere nothing first =>
    cases ended
    exact ⟨_, drawn.take isOpen nothing first (by simp) (by simp)⟩
  | zero isOpen somewhere nothing first =>
    cases ended
    have drawn := drawn.take isOpen nothing first (by simp) (List.append_nil []).symm
    exact ⟨_, drawn.same ⟨rfl, nothing, rfl⟩⟩
  | failure isOpen somewhere nothing first cause =>
    cases ended
    have drawn := drawn.take isOpen nothing first (by simp) (List.append_nil []).symm
    exact ⟨_, drawn.same ⟨rfl, nothing, rfl⟩⟩
  | disconnect isOpen somewhere nothing first cause =>
    cases ended
    refine ⟨taken ++ [.disconnect], ?_, ?_, ?_, ?_⟩
    · rw [drawn.split, first, List.append_assoc]
      rfl
    · rw [deliverable_append (drawn.connected isOpen), drawn.bytes, nothing]
      simp
    · rintro ⟨⟩
    · exact fun _ => ⟨by simp, nothing⟩
  | pending isOpen somewhere nothing empty => cases ended

theorem Drawn.pending (drawn : Drawn script returned taken s) (answers : Answers s room polled)
    (pending : polled.result = none) : Drawn script returned taken polled.transport := by
  cases answers with
  | pending => exact drawn
  | _ => cases pending

theorem Drawn.poll {result : Except IoFailure Bytes} (drawn : Drawn script returned taken s)
    (ended : (Transport.poll s room).result = some result) :
    ∃ taken, Drawn script (returned ++ endedBytes result) taken
      (Transport.poll s room).transport := by
  rw [result_poll] at ended
  obtain ⟨taken, drawn⟩ := drawn.ended (answers s room) ended
  exact ⟨taken, drawn.same (sameScript_poll s room)⟩

theorem Drawn.poll_pending (drawn : Drawn script returned taken s)
    (pending : (Transport.poll s room).result = none) :
    Drawn script returned taken (Transport.poll s room).transport := by
  rw [result_poll] at pending
  exact (drawn.pending (answers s room) pending).same (sameScript_poll s room)

theorem isOpen_poll (isOpen : s.isOpen = true) :
    (Transport.poll s room).transport.isOpen = true ∨
      0 < room ∧ ∃ cause, (Transport.poll s room).result = some (.error cause) := by
  rw [(sameScript_poll s room).isOpen, result_poll]
  exact (answers s room).isOpen isOpen

/-- Only a disconnection closes a script, and it fails the read. -/
theorem closesByFailure : Transport.ClosesByFailure Script := by
  refine ⟨fun s room => rfl, ?_⟩
  intro s room isOpen unfailed
  have ended : (Transport.poll s room).transport.isOpen = true ∨
      0 < room ∧ ∃ cause, (Transport.poll s room).result = some (.error cause) := isOpen_poll isOpen
  rcases ended with still | ⟨-, cause, failed⟩
  · exact still
  · exact absurd failed (unfailed cause)

/-- Where nothing is left, reads have returned everything that the script delivers. -/
theorem Drawn.all (drawn : Drawn script returned taken s)
    (ended : s.isOpen = false ∨ s.steps = [] ∧ s.leftover = []) :
    deliverable script = returned := by
  rcases ended with closed | ⟨steps, leftover⟩
  · obtain ⟨lost, nothing⟩ := drawn.lost closed
    rw [drawn.split, deliverable_append_of_disconnect lost, drawn.bytes, nothing, List.append_nil]
  · rw [drawn.split, steps, List.append_nil, drawn.bytes, leftover, List.append_nil]

/-- What reads have returned is the first part of what the script delivers. -/
theorem Drawn.returned_first (drawn : Drawn script returned taken s) :
    returned <+: deliverable script := by
  have most : returned <+: deliverable taken := drawn.bytes ▸ List.prefix_append _ _
  rw [drawn.split]
  by_cases lost : .disconnect ∈ taken
  · rwa [deliverable_append_of_disconnect lost]
  · rw [deliverable_append lost]
    exact most.trans (List.prefix_append _ _)

/-! ## How much there is to read -/

theorem SameScript.backlog (same : SameScript s s') :
    Transport.backlog s' = Transport.backlog s := by
  obtain ⟨steps, leftover, -⟩ := same
  show s'.leftover.length + stepsBacklog s'.steps =
    s.leftover.length + stepsBacklog s.steps
  rw [steps, leftover]

@[simp] theorem backlog_issue (s : Script) (room : Nat) :
    Transport.backlog (Transport.issue s room) = Transport.backlog s := rfl

@[simp] theorem backlog_abandon (s : Script) :
    Transport.backlog (Transport.abandon s) = Transport.backlog s := rfl

@[simp] theorem backlog_shut (s : Script) :
    Transport.backlog (Transport.shut s).transport = Transport.backlog s := rfl

@[simp] theorem backlog_release (s : Script) :
    Transport.backlog (Transport.release s) = Transport.backlog s := rfl

theorem backlog_deliver (s : Script) (bytes : Bytes) (room : Nat) :
    Transport.backlog (s.deliver bytes room).transport =
      bytes.length - room + stepsBacklog s.steps := by
  show (bytes.drop room).length + stepsBacklog s.steps = _
  rw [List.length_drop]

theorem stepBacklog_pos (step : ScriptStep) : 0 < stepBacklog step := by
  cases step <;> simp [stepBacklog]

/-- A step was taken, and nothing of it is left over. -/
theorem backlog_lt_of_taken {step : ScriptStep} {rest : List ScriptStep}
    (first : s.steps = step :: rest) (steps : s'.steps = rest)
    (leftover : s'.leftover = s.leftover) : Transport.backlog s' < Transport.backlog s := by
  have some := stepBacklog_pos step
  show s'.leftover.length + stepsBacklog s'.steps <
    s.leftover.length + stepsBacklog s.steps
  rw [first, steps, leftover, stepsBacklog]
  omega

/-- A read that ends with something to read for it takes from what there is to read. -/
theorem Answers.backlog (answers : Answers s room polled) :
    Transport.backlog polled.transport < Transport.backlog s ∨
      Transport.backlog polled.transport = Transport.backlog s ∧
        (s.isOpen = false ∨ room = 0 ∨ polled.result = none) := by
  have whole : Transport.backlog s = s.leftover.length + stepsBacklog s.steps := rfl
  cases answers with
  | gone closed cause => exact .inr ⟨rfl, .inl closed⟩
  | nowhere isOpen nowhere => exact .inr ⟨rfl, .inr (.inl nowhere)⟩
  | pending => exact .inr ⟨rfl, .inr (.inr rfl)⟩
  | leftover isOpen somewhere left =>
    have some : 0 < s.leftover.length := List.length_pos_iff.2 left
    rw [backlog_deliver, whole]
    exact .inl (by omega)
  -- A step counts one more than its bytes, so that even an empty one is something to read.
  | @data bytes rest isOpen somewhere nothing first =>
    have left : Transport.backlog ({ s with steps := rest }.deliver bytes room).transport =
        bytes.length - room + stepsBacklog rest := backlog_deliver _ bytes room
    rw [left, whole, first, nothing, stepsBacklog, stepBacklog, List.length_nil]
    exact .inl (by omega)
  | zero isOpen somewhere nothing first =>
    exact .inl (backlog_lt_of_taken first rfl rfl)
  | failure isOpen somewhere nothing first cause =>
    exact .inl (backlog_lt_of_taken first rfl rfl)
  | disconnect isOpen somewhere nothing first cause =>
    exact .inl (backlog_lt_of_taken first rfl rfl)

theorem backlog_poll (s : Script) (room : Nat) :
    Transport.backlog (Transport.poll s room).transport < Transport.backlog s ∨
      Transport.backlog (Transport.poll s room).transport = Transport.backlog s ∧
        (s.isOpen = false ∨ room = 0 ∨ (Transport.poll s room).result = none) := by
  rw [(sameScript_poll s room).backlog, result_poll]
  exact (answers s room).backlog

theorem backlog_poll_le (s : Script) (room : Nat) :
    Transport.backlog (Transport.poll s room).transport ≤ Transport.backlog s := by
  rcases backlog_poll s room with fewer | ⟨same, -⟩ <;> omega

end

end Script

end ByteTap
