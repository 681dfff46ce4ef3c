import ByteTap.Proofs.Transport.Script

/-!
# A script is read in turn

Whoever holds a scripted transport issues reads of any room, looks at them, drops the one that is
pending, and may close the transport, while somebody else adds steps to the script.  Whatever they
do, the steps are answered one after another:

* `Script.Dialog`: all that can be done with a transport, and what its reads came to;
* `Answered`: the reads that answer one step, and what is left over of its bytes;
* `InTurn`: the reads that answer several steps, none before the step in front of it is done with;
* `Script.Dialog.reached`: every read keeps the script in turn;
* `script_read_in_turn`: so nothing is lost, repeated, mixed or out of order.
-/

namespace ByteTap

/-- A read that has ended: the room at its destination, and what it came to. -/
structure Exchange where
  room : Nat
  result : Except IoFailure Bytes

/-- The bytes of a step. -/
@[simp] def ScriptStep.bytes : ScriptStep → Bytes
  | data bytes => bytes
  | _ => []

/-- The bytes of all steps, joined. -/
def scriptBytes (steps : List ScriptStep) : Bytes := steps.flatMap ScriptStep.bytes

/-- The bytes that reads have returned, joined. -/
def returnedBytes (reads : List Exchange) : Bytes :=
  reads.flatMap fun read => Script.endedBytes read.result

/-- The reads with room, in order. -/
def withRoom (reads : List Exchange) : List Exchange := reads.filter fun read => 0 < read.room

@[simp] theorem scriptBytes_append (steps more : List ScriptStep) :
    scriptBytes (steps ++ more) = scriptBytes steps ++ scriptBytes more :=
  List.flatMap_append

@[simp] theorem returnedBytes_append (reads more : List Exchange) :
    returnedBytes (reads ++ more) = returnedBytes reads ++ returnedBytes more :=
  List.flatMap_append

@[simp] theorem withRoom_append (reads more : List Exchange) :
    withRoom (reads ++ more) = withRoom reads ++ withRoom more :=
  List.filter_append _ _

theorem returnedBytes_withRoom {reads : List Exchange}
    (roomless : ∀ read ∈ reads, read.room = 0 → Script.endedBytes read.result = []) :
    returnedBytes (withRoom reads) = returnedBytes reads := by
  induction reads with
  | nil => rfl
  | cons read rest ih =>
    have ih := ih fun later among => roomless later (List.mem_cons_of_mem read among)
    unfold returnedBytes withRoom at *
    rw [List.filter_cons, List.flatMap_cons]
    by_cases somewhere : 0 < read.room
    · rw [if_pos (by simpa using somewhere), List.flatMap_cons, ih]
    · rw [if_neg (by simpa using somewhere), ih,
        roomless read List.mem_cons_self (Nat.eq_zero_of_not_pos somewhere), List.nil_append]

/-! ## Steps and their reads -/

/-- The reads that answer one step, and what is left over of its bytes.  A step without bytes is
answered by one read. -/
inductive Answered : ScriptStep → List Exchange → Bytes → Prop
  | zero {room : Nat} (somewhere : 0 < room) : Answered .zero [⟨room, .ok []⟩] []
  | failure {room : Nat} (somewhere : 0 < room) (kind : IoKind) :
      Answered (.failure kind) [⟨room, .error ⟨kind, "scripted read failure"⟩⟩] []
  | disconnect {room : Nat} (somewhere : 0 < room) :
      Answered .disconnect [⟨room, .error ⟨.unexpectedEnd, "scripted disconnect"⟩⟩] []
  | data {room : Nat} (somewhere : 0 < room) (bytes : Bytes) :
      Answered (.data bytes) [⟨room, .ok (bytes.take room)⟩] (bytes.drop room)
  | more {room : Nat} {step : ScriptStep} {reads : List Exchange} {left : Bytes}
      (somewhere : 0 < room) (before : Answered step reads left) (some : left ≠ []) :
      Answered step (reads ++ [⟨room, .ok (left.take room)⟩]) (left.drop room)

/-- The reads that answer steps one after another, and what is left over of the last of them.
Nothing is left over of a step when the next one is answered. -/
inductive InTurn : List ScriptStep → List Exchange → Bytes → Prop
  | nil : InTurn [] [] []
  | snoc {steps : List ScriptStep} {step : ScriptStep} {earlier own : List Exchange} {left : Bytes}
      (before : InTurn steps earlier []) (answered : Answered step own left) :
      InTurn (steps ++ [step]) (earlier ++ own) left

section

variable {step : ScriptStep} {steps : List ScriptStep} {reads : List Exchange} {left : Bytes}

/-- The reads that answer a step return its bytes, but for what is left over. -/
theorem Answered.bytes_eq (answered : Answered step reads left) :
    step.bytes = returnedBytes reads ++ left := by
  induction answered with
  | more somewhere before some ih =>
    rw [ih, returnedBytes_append, List.append_assoc]
    simp [returnedBytes]
  | data somewhere bytes => simp [returnedBytes]
  | _ => rfl

/-- A step without bytes is answered by exactly one read. -/
theorem Answered.length_eq_one (answered : Answered step reads left) (nothing : step.bytes = []) :
    reads.length = 1 := by
  cases answered with
  | more somewhere before some =>
    have bytes := before.bytes_eq
    rw [nothing] at bytes
    exact absurd (List.append_eq_nil_iff.1 bytes.symm).2 some
  | _ => rfl

/-- The reads that answer many steps return all their bytes, but for what is left over of the
last. -/
theorem InTurn.bytes_eq (turn : InTurn steps reads left) :
    scriptBytes steps = returnedBytes reads ++ left := by
  induction turn with
  | nil => rfl
  | snoc before answered ih =>
    have own := answered.bytes_eq
    rw [scriptBytes_append, ih, returnedBytes_append, List.append_nil, List.append_assoc, ← own]
    simp [scriptBytes]

/-- A step without bytes has one read to itself, after all bytes of the steps in front of it and
before those behind it. -/
theorem InTurn.single (turn : InTurn steps reads left) {before after : List ScriptStep}
    (among : steps = before ++ step :: after) (nothing : step.bytes = []) :
    ∃ earlier own later, reads = earlier ++ own :: later ∧ InTurn before earlier [] ∧
      Answered step [own] [] ∧ InTurn after later left := by
  induction turn generalizing after with
  | nil => exact absurd among (by simp)
  | @snoc steps last earlier own left turn answered ih =>
    rcases List.eq_nil_or_concat after with rfl | ⟨between, final, rfl⟩
    · -- It is the last step that was taken.
      obtain ⟨rfl, same⟩ := List.append_inj' among rfl
      obtain rfl : last = step := List.head_eq_of_cons_eq same
      obtain ⟨only, rfl⟩ := List.length_eq_one_iff.1 (answered.length_eq_one nothing)
      have whole := answered.bytes_eq
      rw [nothing] at whole
      obtain rfl : left = [] := (List.append_eq_nil_iff.1 whole.symm).2
      exact ⟨earlier, only, [], rfl, turn, answered, .nil⟩
    · rw [List.concat_eq_append] at among ⊢
      rw [← List.cons_append, ← List.append_assoc] at among
      obtain ⟨front, same⟩ := List.append_inj' among rfl
      obtain rfl : last = final := List.head_eq_of_cons_eq same
      obtain ⟨first, only, later, rfl, before, alone, behind⟩ := ih front
      exact ⟨first, only, later ++ own, by simp, before, alone, behind.snoc answered⟩

/-- One more read of the bytes that are left over. -/
theorem InTurn.more {room : Nat} (turn : InTurn steps reads left) (somewhere : 0 < room)
    (some : left ≠ []) :
    InTurn steps (reads ++ [⟨room, .ok (left.take room)⟩]) (left.drop room) := by
  cases turn with
  | nil => exact absurd rfl some
  | snoc before answered =>
    rw [List.append_assoc]
    exact .snoc before (.more somewhere answered some)

end

namespace Script

/-- How a read of a closed transport fails. -/
def closedFailure : IoFailure := ⟨.notConnected, "scripted transport closed"⟩

/-- What was done with a transport: the steps that were pushed, the reads that have ended, the room
of the read that is pending, if there is one, and the transport that came of it.  Nothing but
pushing is possible while a read is pending, unless it is dropped. -/
inductive Dialog : List ScriptStep → List Exchange → Option Nat → Script → Prop
  | fresh (label : String) (closeFails : Bool) : Dialog [] [] none { label, closeFails }
  | push {pushed : List ScriptStep} {reads : List Exchange} {pending : Option Nat} {s : Script}
      (before : Dialog pushed reads pending s) (steps : List ScriptStep) :
      Dialog (pushed ++ steps) reads pending (s.push steps)
  | read {pushed : List ScriptStep} {reads : List Exchange} {s : Script} {room : Nat}
      {result : Except IoFailure Bytes} (before : Dialog pushed reads none s)
      (ended : (Transport.startRead s room).result = some result) :
      Dialog pushed (reads ++ [⟨room, result⟩]) none (Transport.startRead s room).transport
  | wait {pushed : List ScriptStep} {reads : List Exchange} {s : Script} {room : Nat}
      (before : Dialog pushed reads none s)
      (pending : (Transport.startRead s room).result = none) :
      Dialog pushed reads (some room) (Transport.startRead s room).transport
  | resume {pushed : List ScriptStep} {reads : List Exchange} {s : Script} {room : Nat}
      {result : Except IoFailure Bytes} (before : Dialog pushed reads (some room) s)
      (ended : (Transport.poll s room).result = some result) :
      Dialog pushed (reads ++ [⟨room, result⟩]) none (Transport.poll s room).transport
  | waitOn {pushed : List ScriptStep} {reads : List Exchange} {s : Script} {room : Nat}
      (before : Dialog pushed reads (some room) s)
      (pending : (Transport.poll s room).result = none) :
      Dialog pushed reads (some room) (Transport.poll s room).transport
  | drop {pushed : List ScriptStep} {reads : List Exchange} {s : Script} {room : Nat}
      (before : Dialog pushed reads (some room) s) :
      Dialog pushed reads none (Transport.abandon s)
  | close {pushed : List ScriptStep} {reads : List Exchange} {s : Script}
      (before : Dialog pushed reads none s) :
      Dialog pushed reads none (Transport.shut s).transport

/-- How far a script was read: the steps `taken` from it were answered in turn by the reads that
came before the transport was closed, those without room aside, and later reads have failed. -/
structure ReadUpTo (pushed : List ScriptStep) (reads : List Exchange) (s : Script)
    (taken : List ScriptStep) (early late : List Exchange) : Prop where
  split : pushed = taken ++ s.steps
  whole : reads = early ++ late
  turn : InTurn taken (withRoom early) s.leftover
  roomless : ∀ read ∈ early, read.room = 0 → read.result = .ok []
  failed : ∀ read ∈ late, read.result = .error closedFailure
  isOpen : s.isOpen = true ↔ .disconnect ∉ taken ∧ s.probe.closes = 0
  untold : s.isOpen = true → late = []

section

variable {pushed taken : List ScriptStep} {reads early late : List Exchange} {s s' : Script}
  {room : Nat}

/-! ## One read -/

theorem answer_of_closed (closed : s.isOpen = false) :
    s.answer room = { transport := s, result := some (.error closedFailure) } := by
  unfold answer
  rw [closed]
  rfl

theorem answer_of_roomless (isOpen : s.isOpen = true) :
    s.answer 0 = { transport := s, result := some (.ok []) } := by
  unfold answer
  rw [isOpen]
  rfl

theorem answer_of_leftover (isOpen : s.isOpen = true) (somewhere : 0 < room)
    (some : s.leftover ≠ []) : s.answer room = s.deliver s.leftover room := by
  unfold answer
  rw [isOpen, if_neg (by decide), if_neg (Nat.pos_iff_ne_zero.1 somewhere), if_neg]
  rwa [List.isEmpty_iff]

theorem answer_of_nothing (isOpen : s.isOpen = true) (somewhere : 0 < room)
    (nothing : s.leftover = []) : s.answer room = s.takeStep room := by
  unfold answer
  rw [isOpen, if_neg (by decide), if_neg (Nat.pos_iff_ne_zero.1 somewhere), if_pos]
  rw [nothing]
  rfl

theorem withRoom_singleton (somewhere : 0 < room) (result : Except IoFailure Bytes) :
    withRoom [⟨room, result⟩] = [⟨room, result⟩] := by
  simp [withRoom, somewhere]

/-! ## What reads keep -/

theorem ReadUpTo.same (reached : ReadUpTo pushed reads s taken early late) (same : SameScript s s')
    (closes : s'.probe.closes = s.probe.closes) :
    ReadUpTo pushed reads s' taken early late := by
  obtain ⟨steps, leftover, isOpen⟩ := same
  constructor
  · rw [steps]
    exact reached.split
  · exact reached.whole
  · rw [leftover]
    exact reached.turn
  · exact reached.roomless
  · exact reached.failed
  · rw [isOpen, closes]
    exact reached.isOpen
  · rw [isOpen]
    exact reached.untold

theorem ReadUpTo.push (reached : ReadUpTo pushed reads s taken early late)
    (steps : List ScriptStep) :
    ReadUpTo (pushed ++ steps) reads (s.push steps) taken early late := by
  obtain ⟨split, whole, turn, roomless, failed, isOpen, untold⟩ := reached
  refine ⟨?_, whole, turn, roomless, failed, isOpen, untold⟩
  rw [split, List.append_assoc]
  rfl

theorem ReadUpTo.shut (reached : ReadUpTo pushed reads s taken early late) :
    ReadUpTo pushed reads s.shut.transport taken early late := by
  obtain ⟨split, whole, turn, roomless, failed, isOpen, untold⟩ := reached
  refine ⟨split, whole, turn, roomless, failed, ?_, ?_⟩
  · show false = true ↔ .disconnect ∉ taken ∧ s.probe.closes + 1 = 0
    simp
  · rintro ⟨⟩

/-- A read of a closed transport comes after all that were answered. -/
theorem ReadUpTo.refused (reached : ReadUpTo pushed reads s taken early late)
    (closed : s.isOpen = false) :
    ReadUpTo pushed (reads ++ [⟨room, .error closedFailure⟩]) s taken early
      (late ++ [⟨room, .error closedFailure⟩]) := by
  obtain ⟨split, whole, turn, roomless, failed, isOpen, untold⟩ := reached
  refine ⟨split, ?_, turn, roomless, ?_, isOpen, ?_⟩
  · rw [whole, List.append_assoc]
  · intro read among
    rcases List.mem_append.1 among with before | last
    · exact failed read before
    · rw [List.mem_singleton.1 last]
  · rw [closed]
    rintro ⟨⟩

/-- A read without room comes between the others. -/
theorem ReadUpTo.nowhere (reached : ReadUpTo pushed reads s taken early late)
    (open' : s.isOpen = true) :
    ReadUpTo pushed (reads ++ [⟨0, .ok []⟩]) s taken (early ++ [⟨0, .ok []⟩]) [] := by
  obtain ⟨split, whole, turn, roomless, failed, isOpen, untold⟩ := reached
  refine ⟨split, ?_, ?_, ?_, ?_, isOpen, fun _ => rfl⟩
  · rw [whole, untold open', List.append_nil, List.append_nil]
  · rw [withRoom_append]
    exact (List.append_nil _).symm ▸ turn
  · intro read among
    rcases List.mem_append.1 among with before | last
    · exact roomless read before
    · rw [List.mem_singleton.1 last]
      exact fun _ => rfl
  · rintro read ⟨⟩

/-- A read with room is answered with what comes next in turn. -/
theorem ReadUpTo.next {steps rest : List ScriptStep} {result : Except IoFailure Bytes}
    (reached : ReadUpTo pushed reads s taken early late) (isOpen : s.isOpen = true)
    (somewhere : 0 < room) (first : s.steps = steps ++ rest) (rest_eq : s'.steps = rest)
    (turn : InTurn (taken ++ steps) (withRoom early ++ [⟨room, result⟩]) s'.leftover)
    (onward : s'.isOpen = true ↔ .disconnect ∉ steps)
    (closes : s'.probe.closes = s.probe.closes) :
    ReadUpTo pushed (reads ++ [⟨room, result⟩]) s' (taken ++ steps) (early ++ [⟨room, result⟩])
      [] := by
  have connected := reached.isOpen.1 isOpen
  constructor
  · rw [reached.split, first, rest_eq, List.append_assoc]
  · rw [reached.whole, reached.untold isOpen, List.append_nil, List.append_nil]
  · rw [withRoom_append, withRoom_singleton somewhere]
    exact turn
  · intro read among nowhere
    rcases List.mem_append.1 among with before | last
    · exact reached.roomless read before nowhere
    · rw [List.mem_singleton.1 last] at nowhere
      exact absurd nowhere (Nat.pos_iff_ne_zero.1 somewhere)
  · rintro read ⟨⟩
  · rw [onward, closes, List.mem_append, not_or]
    exact ⟨fun still => ⟨⟨connected.1, still⟩, connected.2⟩, fun still => still.1.2⟩
  · exact fun _ => rfl

/-- A read with room and nothing left over is answered by the next step. -/
theorem ReadUpTo.takeStep {result : Except IoFailure Bytes}
    (reached : ReadUpTo pushed reads s taken early late) (isOpen : s.isOpen = true)
    (somewhere : 0 < room) (nothing : s.leftover = [])
    (ended : (s.takeStep room).result = some result) :
    ∃ step, ReadUpTo pushed (reads ++ [⟨room, result⟩]) (s.takeStep room).transport
      (taken ++ [step]) (early ++ [⟨room, result⟩]) [] := by
  have turn : InTurn taken (withRoom early) [] := nothing ▸ reached.turn
  unfold Script.takeStep at ended ⊢
  cases steps : s.steps with
  | nil =>
    rw [steps] at ended
    cases ended
  | cons step rest =>
    rw [steps] at ended
    refine ⟨step, ?_⟩
    cases step with
    | data bytes =>
      cases ended
      refine reached.next isOpen somewhere steps rfl (turn.snoc (.data somewhere bytes)) ?_ rfl
      show s.isOpen = true ↔ _
      simp [isOpen]
    -- A step without bytes is taken whole, and leaves nothing over.
    | zero =>
      cases ended
      refine reached.next isOpen somewhere steps rfl ?_ ?_ rfl
      · show InTurn _ _ s.leftover
        rw [nothing]
        exact turn.snoc (.zero somewhere)
      · show s.isOpen = true ↔ _
        simp [isOpen]
    | failure kind =>
      cases ended
      refine reached.next isOpen somewhere steps rfl ?_ ?_ rfl
      · show InTurn _ _ s.leftover
        rw [nothing]
        exact turn.snoc (.failure somewhere kind)
      · show s.isOpen = true ↔ _
        simp [isOpen]
    | disconnect =>
      cases ended
      refine reached.next isOpen somewhere steps rfl ?_ ?_ rfl
      · show InTurn _ _ s.leftover
        rw [nothing]
        exact turn.snoc (.disconnect somewhere)
      · show false = true ↔ _
        simp

/-- A read that has ended was refused, or had no room, or was answered with what comes next. -/
theorem ReadUpTo.ended {result : Except IoFailure Bytes}
    (reached : ReadUpTo pushed reads s taken early late)
    (ended : (s.answer room).result = some result) :
    ∃ taken early late,
      ReadUpTo pushed (reads ++ [⟨room, result⟩]) (s.answer room).transport taken early late := by
  by_cases isOpen : s.isOpen = true
  · rcases Nat.eq_zero_or_pos room with rfl | somewhere
    · rw [answer_of_roomless isOpen] at ended ⊢
      cases ended
      exact ⟨_, _, _, reached.nowhere isOpen⟩
    by_cases nothing : s.leftover = []
    · rw [answer_of_nothing isOpen somewhere nothing] at ended ⊢
      obtain ⟨step, reached⟩ := reached.takeStep isOpen somewhere nothing ended
      exact ⟨_, _, _, reached⟩
    · rw [answer_of_leftover isOpen somewhere nothing] at ended ⊢
      cases ended
      -- No step is taken: the last one has bytes left.
      have turn := reached.turn.more somewhere nothing
      refine ⟨taken ++ [], _, _, reached.next isOpen somewhere rfl rfl ?_ ?_ rfl⟩
      · rw [List.append_nil]
        exact turn
      · show s.isOpen = true ↔ _
        simp [isOpen]
  · have closed : s.isOpen = false := by simpa using isOpen
    rw [answer_of_closed closed] at ended ⊢
    cases ended
    exact ⟨_, _, _, reached.refused closed⟩

theorem closes_poll (s : Script) (room : Nat) :
    (Transport.poll s room).transport.probe.closes = s.probe.closes := by
  rw [probe_poll]
  split <;> rfl

theorem ReadUpTo.poll {result : Except IoFailure Bytes}
    (reached : ReadUpTo pushed reads s taken early late)
    (ended : (Transport.poll s room).result = some result) :
    ∃ taken early late,
      ReadUpTo pushed (reads ++ [⟨room, result⟩]) (Transport.poll s room).transport taken early
        late := by
  have kept : (Transport.poll s room).transport.probe.closes =
      (s.answer room).transport.probe.closes := by
    rw [closes_poll, (answers s room).probe]
  rw [result_poll] at ended
  obtain ⟨taken, early, late, reached⟩ := reached.ended ended
  exact ⟨taken, early, late, reached.same (sameScript_poll s room) kept⟩

/-- A read that is pending has found nothing, and leaves the script as it was. -/
theorem sameScript_of_pending (pending : (Transport.poll s room).result = none) :
    SameScript s (Transport.poll s room).transport := by
  have kept := sameScript_poll s room
  rw [result_poll] at pending
  have answers := answers s room
  generalize s.answer room = polled at kept pending answers
  cases answers with
  | pending => exact kept
  | _ => cases pending

theorem ReadUpTo.issue (reached : ReadUpTo pushed reads s taken early late) (room : Nat) :
    ReadUpTo pushed reads (Transport.issue s room) taken early late :=
  reached.same ⟨rfl, rfl, rfl⟩ rfl

theorem ReadUpTo.pending (reached : ReadUpTo pushed reads s taken early late)
    (pending : (Transport.poll s room).result = none) :
    ReadUpTo pushed reads (Transport.poll s room).transport taken early late :=
  reached.same (sameScript_of_pending pending) (closes_poll s room)

/-- Whatever is done with a transport, its script is read in turn. -/
theorem Dialog.reached {pending : Option Nat} (dialog : Dialog pushed reads pending s) :
    ∃ taken early late, ReadUpTo pushed reads s taken early late := by
  induction dialog with
  | fresh label closeFails =>
    refine ⟨[], [], [], rfl, rfl, .nil, ?_, ?_, ?_, fun _ => rfl⟩
    · rintro read ⟨⟩
    · rintro read ⟨⟩
    · simp
  | push before steps ih =>
    obtain ⟨taken, early, late, reached⟩ := ih
    exact ⟨taken, early, late, reached.push steps⟩
  | read before ended ih =>
    obtain ⟨taken, early, late, reached⟩ := ih
    exact (reached.issue _).poll ended
  | wait before pending ih =>
    obtain ⟨taken, early, late, reached⟩ := ih
    exact ⟨taken, early, late, (reached.issue _).pending pending⟩
  | resume before ended ih =>
    obtain ⟨taken, early, late, reached⟩ := ih
    exact reached.poll ended
  | waitOn before pending ih =>
    obtain ⟨taken, early, late, reached⟩ := ih
    exact ⟨taken, early, late, reached.pending pending⟩
  | drop before ih =>
    obtain ⟨taken, early, late, reached⟩ := ih
    exact ⟨taken, early, late, reached.same ⟨rfl, rfl, rfl⟩ rfl⟩
  | close before ih =>
    obtain ⟨taken, early, late, reached⟩ := ih
    exact ⟨taken, early, late, reached.shut⟩

end

/-- What holds of a scripted transport whatever was done with it. -/
structure ReadInTurn (pushed : List ScriptStep) (reads : List Exchange) (s : Script) : Prop where
  /-- No byte is lost, repeated or moved. -/
  bytes : returnedBytes reads ++ s.leftover ++ scriptBytes s.steps = scriptBytes pushed
  /-- Steps are answered one after another, and one without bytes by one read with room. -/
  turn : ∃ taken early late, ReadUpTo pushed reads s taken early late ∧
    ∀ before step after, taken = before ++ step :: after → step.bytes = [] →
      ∃ earlier own later, withRoom early = earlier ++ own :: later ∧ InTurn before earlier [] ∧
        Answered step [own] [] ∧ InTurn after later s.leftover
  /-- A read without room ends at once and takes nothing. -/
  roomless : s.isOpen = true → (Transport.startRead s 0).result = some (.ok []) ∧
    SameScript s (Transport.startRead s 0).transport
  /-- A read that is pending has taken nothing, and takes nothing when it is dropped. -/
  dropped : ∀ room, (Transport.startRead s room).result = none →
    SameScript s (Transport.startRead s room).transport ∧
      SameScript s (Transport.abandon (Transport.startRead s room).transport)
  /-- Of a closed transport every read fails, and takes nothing. -/
  closed : s.isOpen = false → ∀ room,
    (Transport.startRead s room).result = some (.error closedFailure) ∧
      SameScript s (Transport.startRead s room).transport

section

variable {pushed taken : List ScriptStep} {reads early late : List Exchange} {s : Script}

/-- What was pushed was returned, or is left over, or is still in the script. -/
theorem ReadUpTo.bytes_eq (reached : ReadUpTo pushed reads s taken early late) :
    returnedBytes reads ++ s.leftover ++ scriptBytes s.steps = scriptBytes pushed := by
  have nowhere : ∀ read ∈ early, read.room = 0 → endedBytes read.result = [] := by
    intro read among roomless
    rw [reached.roomless read among roomless]
    rfl
  have nothing : returnedBytes late = [] := by
    refine List.flatMap_eq_nil_iff.2 fun read among => ?_
    rw [reached.failed read among]
    rfl
  have taken_eq : scriptBytes taken = returnedBytes reads ++ s.leftover := by
    rw [reached.turn.bytes_eq, returnedBytes_withRoom nowhere, reached.whole,
      returnedBytes_append, nothing, List.append_nil]
  rw [reached.split, scriptBytes_append, taken_eq]

/-- A read that is answered without a change of the script leaves it as it was. -/
theorem startRead_of_answer {room : Nat} {result : Except IoFailure Bytes}
    (answered : (Transport.issue s room).answer room =
      { transport := Transport.issue s room, result := some result }) :
    (Transport.startRead s room).result = some result ∧
      SameScript s (Transport.startRead s room).transport := by
  have kept := sameScript_poll (Transport.issue s room) room
  rw [answered] at kept
  refine ⟨?_, kept.steps, kept.leftover, kept.isOpen⟩
  show (Transport.poll (Transport.issue s room) room).result = _
  rw [result_poll, answered]

theorem startRead_of_closed (closed : s.isOpen = false) (room : Nat) :
    (Transport.startRead s room).result = some (.error closedFailure) ∧
      SameScript s (Transport.startRead s room).transport :=
  startRead_of_answer (answer_of_closed closed)

theorem startRead_of_roomless (isOpen : s.isOpen = true) :
    (Transport.startRead s 0).result = some (.ok []) ∧
      SameScript s (Transport.startRead s 0).transport :=
  startRead_of_answer (answer_of_roomless isOpen)

theorem startRead_of_pending {room : Nat} (pending : (Transport.startRead s room).result = none) :
    SameScript s (Transport.startRead s room).transport := by
  obtain ⟨steps, leftover, isOpen⟩ := sameScript_of_pending pending
  exact ⟨steps, leftover, isOpen⟩

end

end Script

/-- Whatever was read, dropped, pushed and closed, a script has been read in turn. -/
theorem script_read_in_turn {pushed : List ScriptStep} {reads : List Exchange}
    {pending : Option Nat} {s : Script} (dialog : Script.Dialog pushed reads pending s) :
    Script.ReadInTurn pushed reads s := by
  obtain ⟨taken, early, late, reached⟩ := dialog.reached
  constructor
  · exact reached.bytes_eq
  · refine ⟨taken, early, late, reached, ?_⟩
    intro before step after among nothing
    exact reached.turn.single among nothing
  · exact Script.startRead_of_roomless
  · intro room pending
    have same := Script.startRead_of_pending pending
    exact ⟨same, same.steps, same.leftover, same.isOpen⟩
  · exact Script.startRead_of_closed

namespace Script

/-- Steps of every kind, the first with data for two reads. -/
def everyKind : List ScriptStep :=
  [.data [1, 2, 3], .zero, .failure .timedOut, .data [], .disconnect, .data [9]]

/-- What reads of every kind come to on them. -/
def everyAnswer : List Exchange :=
  [⟨2, .ok [1, 2]⟩, ⟨0, .ok []⟩, ⟨4, .ok [3]⟩, ⟨4, .ok []⟩,
    ⟨1, .error ⟨.timedOut, "scripted read failure"⟩⟩, ⟨4, .ok []⟩,
    ⟨4, .error ⟨.unexpectedEnd, "scripted disconnect"⟩⟩, ⟨0, .error closedFailure⟩]

end Script

/-- A read is dropped before the first step comes, and one follows the end of the line. -/
theorem script_read_in_turn_of_every_kind :
    Script.Dialog Script.everyKind Script.everyAnswer none
        { isOpen := false, steps := [.data [9]]
          probe := { requestedRev := [0, 4, 4, 1, 4, 4, 0, 2, 2] } } ∧
      Script.ReadInTurn Script.everyKind Script.everyAnswer
        { isOpen := false, steps := [.data [9]]
          probe := { requestedRev := [0, 4, 4, 1, 4, 4, 0, 2, 2] } } := by
  have start : Script.Dialog [] [] none { label := "scripted" } := .fresh "scripted" false
  have dropped : Script.Dialog [] [] none { probe := { requestedRev := [2] } } :=
    (start.wait rfl : Script.Dialog [] [] (some 2) _).drop
  have fed : Script.Dialog Script.everyKind [] none
      { steps := Script.everyKind, probe := { requestedRev := [2] } } :=
    dropped.push Script.everyKind
  have dialog : Script.Dialog Script.everyKind Script.everyAnswer none
      { isOpen := false, steps := [.data [9]]
        probe := { requestedRev := [0, 4, 4, 1, 4, 4, 0, 2, 2] } } :=
    (((((((fed.read rfl).read rfl).read rfl).read rfl).read rfl).read rfl).read rfl).read rfl
  exact ⟨dialog, script_read_in_turn dialog⟩

end ByteTap
