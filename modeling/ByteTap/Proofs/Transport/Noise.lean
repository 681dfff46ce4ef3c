import ByteTap.Proofs.Transport.Script

/-!
# Noise in a script

Some steps of a script are noise: they end a read without bytes, and leave the transport open.  The
other steps are essential.  `Script.hush` leaves a scripted transport without its noise, and
`Script.Hushed` says what has become of a read then: either nothing has come of it yet, or it is the
same read (`Script.hushed_startRead`, `Script.hushed_poll`).
-/

namespace ByteTap

/-- The step ends a read without bytes, and leaves the transport open. -/
def ScriptStep.isNoise : ScriptStep → Bool
  | zero | failure _ | data [] => true
  | _ => false

/-- The read brought nothing, and the transport is still there. -/
def isNoise (isOpen : Bool) : Except IoFailure Bytes → Bool
  | .ok bytes => bytes.isEmpty
  | .error _ => isOpen

/-- The steps of a script that are no noise. -/
def essential (steps : List ScriptStep) : List ScriptStep := steps.filter (!·.isNoise)

@[simp] theorem essential_append (steps steps' : List ScriptStep) :
    essential (steps ++ steps') = essential steps ++ essential steps' :=
  List.filter_append _ _

@[simp] theorem essential_essential (steps : List ScriptStep) :
    essential (essential steps) = essential steps := by
  simp [essential]

theorem essential_cons_of_noise {step : ScriptStep} (noise : step.isNoise = true)
    (steps : List ScriptStep) : essential (step :: steps) = essential steps := by
  simp [essential, noise]

theorem essential_cons {step : ScriptStep} (signal : step.isNoise = false)
    (steps : List ScriptStep) : essential (step :: steps) = step :: essential steps := by
  simp [essential, signal]

/-! ## The script without its noise -/

namespace Script

/-- The transport without the noise in its script, once these steps have been added to it, and
without its probe. -/
def hush (later : List ScriptStep) (s : Script) : Script :=
  { s with steps := essential (s.steps ++ later), probe := {} }

@[simp] theorem hush_hush (later : List ScriptStep) (s : Script) :
    (s.hush later).hush [] = s.hush later := by
  simp [hush]

variable {s : Script} {room : Nat} {later : List ScriptStep}

/-- What a read comes to once the noise is taken away: nothing has come of it yet, or it was the
same read. -/
inductive Hushed (s : Script) (room : Nat) (later : List ScriptStep) (polled : Polled Script) : Prop
  | pending (waits : polled.result = none) (same : polled.transport.hush later = s.hush later)
  | noise {result : Except IoFailure Bytes} (somewhere : room ≠ 0)
      (ended : polled.result = some result)
      (noise : isNoise polled.transport.isOpen result = true)
      (same : polled.transport.hush later = s.hush later)
  | signal {result : Except IoFailure Bytes} (ended : polled.result = some result)
      (heard : ((s.hush later).answer room).result = some result)
      (same : ((s.hush later).answer room).transport.hush [] = polled.transport.hush later)

/-- Noise leaves the script as it is without noise. -/
theorem hush_of_noise {step : ScriptStep} {rest : List ScriptStep}
    (first : s.steps = step :: rest) (noise : step.isNoise = true) :
    { s with steps := rest }.hush later = s.hush later := by
  simp [hush, first, essential_cons_of_noise noise]

theorem steps_hush {step : ScriptStep} {rest : List ScriptStep}
    (first : s.steps = step :: rest) (signal : step.isNoise = false) :
    (s.hush later).steps = step :: essential (rest ++ later) := by
  simp [hush, first, essential_cons signal]

/-- A step that is taken is noise, which is not there otherwise, or it is the same step. -/
theorem hushed_takeStep (isOpen : s.isOpen = true) (somewhere : room ≠ 0)
    (nothing : s.leftover = [])
    (there : (s.hush later).answer room = (s.hush later).takeStep room) :
    Hushed s room later (s.takeStep room) := by
  cases first : s.steps with
  | nil =>
    rw [takeStep, first]
    exact .pending rfl rfl
  | cons step rest =>
    cases step with
    | zero =>
      rw [takeStep, first]
      exact .noise somewhere rfl rfl (hush_of_noise first rfl)
    | failure kind =>
      rw [takeStep, first]
      exact .noise somewhere rfl isOpen (hush_of_noise first rfl)
    | disconnect =>
      rw [takeStep, steps_hush first rfl] at there
      rw [takeStep, first]
      refine .signal rfl (by rw [there]) ?_
      rw [there]
      simp [hush]
    | data bytes =>
      -- a step with data is noise only if there are none
      match bytes with
      | [] =>
        rw [takeStep, first]
        refine .noise somewhere rfl (by simp [isNoise]) ?_
        have same : (deliver { s with steps := rest } [] room).transport =
            { s with steps := rest } := by
          simp [deliver, nothing]
        rw [same]
        exact hush_of_noise first rfl
      | b :: bs =>
        rw [takeStep, steps_hush first rfl] at there
        rw [takeStep, first]
        refine .signal rfl (by rw [there]; rfl) ?_
        rw [there]
        simp [hush, deliver]

/-- Only where a step is taken does the noise make a difference. -/
theorem hushed_answer (s : Script) (room : Nat) (later : List ScriptStep) :
    Hushed s room later (s.answer room) := by
  have once := (hush_hush later s)
  cases isOpen : s.isOpen with
  | false =>
    have there (s : Script) (closed : s.isOpen = false) : s.answer room =
        { transport := s,
          result := some (.error ⟨.notConnected, "scripted transport closed"⟩) } := by
      simp [answer, closed]
    rw [there s isOpen]
    refine .signal rfl ?_ ?_ <;> rw [there (s.hush later) isOpen]
    exact once
  | true =>
  by_cases somewhere : room = 0
  · have there (s : Script) (isOpen : s.isOpen = true) : s.answer room =
        { transport := s, result := some (.ok []) } := by
      simp [answer, isOpen, somewhere]
    rw [there s isOpen]
    refine .signal rfl ?_ ?_ <;> rw [there (s.hush later) isOpen]
    exact once
  have reads (s : Script) (isOpen : s.isOpen = true) : s.answer room =
      if s.leftover.isEmpty then s.takeStep room else s.deliver s.leftover room := by
    simp [answer, isOpen, somewhere]
  rw [reads s isOpen]
  have there : (s.hush later).answer room =
      if s.leftover.isEmpty then (s.hush later).takeStep room
      else (s.hush later).deliver s.leftover room := reads (s.hush later) isOpen
  split
  next nothing =>
    rw [if_pos nothing] at there
    exact hushed_takeStep isOpen somewhere (List.isEmpty_iff.1 nothing) there
  next left =>
    rw [if_neg left] at there
    refine .signal rfl ?_ ?_ <;> rw [there]
    · rfl
    · simp [deliver, hush]

/-- The probe only takes note. -/
theorem answer_probe (s : Script) (probe : Probe) (room : Nat) :
    { s with probe }.answer room =
      { s.answer room with transport := { (s.answer room).transport with probe } } := by
  obtain ⟨label, closeFails, isOpen, steps, leftover, before⟩ := s
  cases isOpen with
  | false => rfl
  | true =>
  by_cases somewhere : room = 0
  · simp [answer, somewhere]
  cases leftover with
  | cons b bs => simp [answer, somewhere, deliver]
  | nil =>
  cases steps with
  | nil => simp [answer, somewhere, takeStep]
  | cons step rest => cases step <;> simp [answer, somewhere, takeStep, deliver]

theorem hush_poll (s : Script) (room : Nat) (later : List ScriptStep) :
    (Transport.poll s room).transport.hush later = (s.answer room).transport.hush later := by
  show (s.poll room).transport.hush later = _
  unfold poll
  dsimp only
  split <;> rfl

/-- A read that is issued has the answer of the script. -/
theorem startRead_hush (s : Script) (room : Nat) (later : List ScriptStep) :
    (Transport.startRead s room).result = (s.answer room).result ∧
      (Transport.startRead s room).transport.hush later = (s.answer room).transport.hush later := by
  have same := s.answer_probe (s.probe.begin room) room
  refine ⟨(result_poll _ room).trans ?_, (hush_poll _ room later).trans ?_⟩
  · show ({ s with probe := s.probe.begin room }.answer room).result = _
    rw [same]
  · show ({ s with probe := s.probe.begin room }.answer room).transport.hush later = _
    rw [same]
    rfl

theorem Hushed.of_same {polled polled' : Polled Script} (hushed : Hushed s room later polled)
    (result : polled'.result = polled.result)
    (transport : polled'.transport.hush later = polled.transport.hush later) :
    Hushed s room later polled' := by
  have isOpen : (polled'.transport.hush later).isOpen = (polled.transport.hush later).isOpen := by
    rw [transport]
  change polled'.transport.isOpen = polled.transport.isOpen at isOpen
  cases hushed with
  | pending waits same => exact .pending (result.trans waits) (transport.trans same)
  | noise somewhere ended noise same =>
    exact .noise somewhere (result.trans ended) (isOpen ▸ noise) (transport.trans same)
  | signal ended heard same => exact .signal (result.trans ended) heard (same.trans transport.symm)

theorem hushed_startRead (s : Script) (room : Nat) (later : List ScriptStep) :
    Hushed s room later (Transport.startRead s room) :=
  (hushed_answer s room later).of_same (startRead_hush s room later).1
    (startRead_hush s room later).2

theorem hushed_poll (s : Script) (room : Nat) (later : List ScriptStep) :
    Hushed s room later (Transport.poll s room) :=
  (hushed_answer s room later).of_same (result_poll s room) (hush_poll s room later)

/-- A read that stays pending found nothing, and so it does without the noise. -/
theorem answer_hush_of_pending (pending : (Transport.poll s room).result = none) :
    (s.hush []).answer room = { transport := s.hush [], result := none } := by
  obtain ⟨steps, leftover, somewhere⟩ := poll_pending pending
  rw [result_poll] at pending
  have isOpen : s.isOpen = true := by
    cases isOpen : s.isOpen with
    | true => rfl
    | false => simp [answer, isOpen] at pending
  simp [answer, takeStep, hush, isOpen, steps, leftover, essential, Nat.pos_iff_ne_zero.1 somewhere]

/-- A read that fails and leaves the transport open had room. -/
theorem room_of_failure {cause : IoFailure}
    (ended : (Transport.poll s room).result = some (.error cause))
    (isOpen : (Transport.poll s room).transport.isOpen = true) : room ≠ 0 := by
  rw [result_poll] at ended
  rw [(sameScript_poll s room).isOpen] at isOpen
  have answers := s.answers room
  generalize s.answer room = polled at ended isOpen answers
  cases answers with
  | gone closed => cases closed.symm.trans isOpen
  | failure _ somewhere => exact Nat.pos_iff_ne_zero.1 somewhere
  | disconnect => cases isOpen
  | _ => cases ended

theorem isOpen_of_poll (isOpen : (Transport.poll s room).transport.isOpen = true) :
    s.isOpen = true := by
  rw [(sameScript_poll s room).isOpen] at isOpen
  have answers := s.answers room
  generalize s.answer room = polled at isOpen answers
  cases answers with
  | disconnect => cases isOpen
  | _ => exact isOpen

end Script

end ByteTap
