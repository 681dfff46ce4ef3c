import ByteTap.Monitor.Watch

/-!
# The time of the watch

The watch adds its duration to the moment at which it starts, and takes the present moment from the
sum.  The second is safe on every clock (`since?_of_onClock`).  The first is not: valid options can
have a duration that leads beyond the last moment of the clock, and then the watch panics before its
first wait (`deadline_eq_error`).

A watch that has a deadline keeps it.  `move_eq_wait` and `move_eq_stop` say what one look at the
clock leads to, `timely_of_waits` and `follow_eq_durationElapsed` what a whole watch does.
-/

namespace ByteTap.Monitor

namespace Moment

/-- The first moment of the clock, as many seconds before its zero as a signed word can count. -/
def earliest : Int := -(Int.pow 2 63 * 1000000000)

/-- The clock has the moment. -/
structure OnClock (m : Moment) : Prop where
  earliest_le : earliest ≤ m.nanos
  le_latest : m.nanos ≤ latest

/-- The nanoseconds from an earlier moment to a later one, if a word can count the seconds. -/
def since? (later earlier : Moment) : Option Nat :=
  if earlier.nanos ≤ later.nanos ∧
      (later.nanos - earlier.nanos).toNat / 1000000000 < UInt64.size then
    some (later.nanos - earlier.nanos).toNat
  else none

variable {m sum : Moment} {nanos : Nat}

theorem add?_eq_some :
    m.add? nanos = some sum ↔ sum.nanos = m.nanos + nanos ∧ sum.nanos ≤ latest := by
  unfold add?
  split
  · next fits =>
    constructor
    · rintro ⟨⟩
      exact ⟨rfl, fits⟩
    · rintro ⟨same, -⟩
      rw [← same]
  · next overflows =>
    refine ⟨nofun, fun ⟨same, le⟩ => ?_⟩
    rw [same] at le
    exact absurd le overflows

theorem add?_eq_none : m.add? nanos = none ↔ latest < m.nanos + nanos := by
  unfold add?
  split
  · next fits => exact ⟨nofun, fun overflows => absurd fits (Int.not_le.2 overflows)⟩
  · next overflows => exact ⟨fun _ => Int.not_le.1 overflows, fun _ => rfl⟩

/-- No two moments of the clock are so far apart that the time between them could not be counted. -/
theorem since?_of_onClock {later earlier : Moment} (hereafter : later.OnClock)
    (before : earlier.OnClock) (order : earlier.nanos ≤ later.nanos) :
    later.since? earlier = some (later.nanos - earlier.nanos).toNat := by
  have last := hereafter.le_latest
  have first := before.earliest_le
  have size : UInt64.size = 18446744073709551616 := rfl
  have latest_eq : latest = 9223372036854775807999999999 := rfl
  have earliest_eq : earliest = -9223372036854775808000000000 := rfl
  refine if_pos ⟨order, ?_⟩
  omega

end Moment

/-- A wait of the watch. -/
structure Wait where
  /-- When it begins. -/
  begun : Moment
  /-- How many nanoseconds it lasts at most. -/
  nanos : Nat
  deriving DecidableEq, Repr

namespace Watch

/-- The waits of a watch over the moments at which it looks at the clock and the outcomes of its
waits. -/
def waits (o : Options) (deadline : Option Moment) : List (Moment × WaitOutcome) → List Wait
  | [] => []
  | (now, outcome) :: later =>
      match move o deadline now with
      | .stop _ => []
      | .wait nanos =>
          match reasonAfter outcome with
          | some _ => [⟨now, nanos⟩]
          | none => ⟨now, nanos⟩ :: waits o deadline later

/-- A wait takes time, but no more than the options allow, and it ends with the watch at the latest.
The time that is left could be computed. -/
structure Timely (o : Options) (started : Moment) (deadline : Option Moment) (wait : Wait) : Prop
    where
  positive : 0 < wait.nanos
  capped : wait.nanos ≤ pollNanos o
  within : ∀ secs, o.durationSecs = some secs →
    wait.begun.nanos + wait.nanos ≤ started.nanos + secs.toNat * 1000000000
  computed : ∀ moment, deadline = some moment →
    ∃ left, moment.since? wait.begun = some left ∧ wait.nanos = min (pollNanos o) left

section

variable {o : Options} {started now : Moment} {deadline : Option Moment}

theorem deadline_of_unlimited (unlimited : o.durationSecs = none) :
    Watch.deadline o started = .ok none := by
  unfold Watch.deadline durationNanos
  rw [unlimited]
  rfl

theorem deadline_of_duration {secs : UInt64} (duration : o.durationSecs = some secs) :
    Watch.deadline o started =
      match started.add? (secs.toNat * 1000000000) with
      | some moment => .ok (some moment)
      | none => .error clockOverflow := by
  unfold Watch.deadline durationNanos
  rw [duration]
  rfl

/-- The only panic is that of a duration that leads beyond the clock. -/
theorem deadline_eq_error {message : String} :
    Watch.deadline o started = .error message ↔
      message = clockOverflow ∧ ∃ secs, o.durationSecs = some secs ∧
        Moment.latest < started.nanos + secs.toNat * 1000000000 := by
  cases duration : o.durationSecs with
  | none => simp [deadline_of_unlimited duration]
  | some secs =>
    rw [deadline_of_duration duration]
    cases sum : started.add? (secs.toNat * 1000000000) with
    | none =>
      have beyond : Moment.latest < started.nanos + secs.toNat * 1000000000 := by
        have beyond := Moment.add?_eq_none.1 sum
        omega
      constructor
      · rintro ⟨⟩
        exact ⟨rfl, secs, rfl, beyond⟩
      · rintro ⟨rfl, -⟩
        rfl
    | some moment =>
      obtain ⟨same, fits⟩ := Moment.add?_eq_some.1 sum
      refine ⟨nofun, ?_⟩
      rintro ⟨-, _, ⟨⟩, beyond⟩
      omega

/-- The deadline is the start and the duration together. -/
theorem deadline_eq_ok (due : Watch.deadline o started = .ok deadline) :
    (o.durationSecs = none ∧ deadline = none) ∨
      ∃ secs moment, o.durationSecs = some secs ∧ deadline = some moment ∧
        moment.nanos = started.nanos + secs.toNat * 1000000000 ∧
        moment.nanos ≤ Moment.latest := by
  cases duration : o.durationSecs with
  | none =>
    rw [deadline_of_unlimited duration] at due
    cases due
    exact .inl ⟨rfl, rfl⟩
  | some secs =>
    rw [deadline_of_duration duration] at due
    cases sum : started.add? (secs.toNat * 1000000000) with
    | none =>
      rw [sum] at due
      cases due
    | some moment =>
      rw [sum] at due
      cases due
      obtain ⟨same, fits⟩ := Moment.add?_eq_some.1 sum
      exact .inr ⟨secs, moment, rfl, rfl, by omega, fits⟩

/-- The watch stops by itself only at its deadline. -/
theorem move_eq_stop {reason : StopReason} :
    move o deadline now = .stop reason ↔
      reason = .durationElapsed ∧ ∃ moment, deadline = some moment ∧ moment.nanos ≤ now.nanos := by
  cases deadline with
  | none => exact ⟨nofun, by rintro ⟨-, _, ⟨⟩, -⟩⟩
  | some moment =>
    unfold move
    dsimp only
    split
    · next passed => simp [passed, eq_comm]
    · next early => simp [early]

/-- It waits no longer than to the next poll, and not past the deadline. -/
theorem move_eq_wait {nanos : Nat} (waiting : move o deadline now = .wait nanos) :
    (deadline = none ∧ nanos = pollNanos o) ∨
      ∃ moment, deadline = some moment ∧ now.nanos < moment.nanos ∧
        nanos = min (pollNanos o) (moment.nanos - now.nanos).toNat := by
  cases deadline with
  | none =>
    cases waiting
    exact .inl ⟨rfl, rfl⟩
  | some moment =>
    unfold move at waiting
    dsimp only at waiting
    split at waiting
    · cases waiting
    · next early =>
      cases waiting
      exact .inr ⟨moment, rfl, Int.not_le.1 early, rfl⟩

/-- The watch waits in time at every look at the clock. -/
theorem timely_of_move (poll : 0 < pollNanos o) (begun : started.OnClock) (present : now.OnClock)
    (due : Watch.deadline o started = .ok deadline) {nanos : Nat}
    (waiting : move o deadline now = .wait nanos) : Timely o started deadline ⟨now, nanos⟩ := by
  rcases deadline_eq_ok due with ⟨unlimited, rfl⟩ | ⟨secs, moment, duration, rfl, same, fits⟩
  · rcases move_eq_wait waiting with ⟨-, rfl⟩ | ⟨_, ⟨⟩, -⟩
    exact
      { positive := poll
        capped := Nat.le_refl _
        within := fun secs duration => by rw [unlimited] at duration; cases duration
        computed := nofun }
  · rcases move_eq_wait waiting with ⟨⟨⟩, -⟩ | ⟨_, ⟨⟩, early, rfl⟩
    have onClock : moment.OnClock := ⟨by have := begun.earliest_le; omega, fits⟩
    refine
      { positive := by dsimp only; omega
        capped := Nat.min_le_left _ _
        within := fun secs' duration' => ?_
        computed := ?_ }
    · cases duration.symm.trans duration'
      dsimp only
      omega
    · rintro _ ⟨⟩
      exact ⟨_, Moment.since?_of_onClock onClock present (Int.le_of_lt early), rfl⟩

/-- The watch waits in time, every time. -/
theorem timely_of_waits (poll : 0 < pollNanos o) (begun : started.OnClock)
    (due : Watch.deadline o started = .ok deadline) {readings : List (Moment × WaitOutcome)}
    (onClock : ∀ reading ∈ readings, reading.1.OnClock) :
    ∀ wait ∈ waits o deadline readings, Timely o started deadline wait := by
  induction readings with
  | nil => exact nofun
  | cons reading later ih =>
    obtain ⟨now, outcome⟩ := reading
    have present : now.OnClock := onClock _ List.mem_cons_self
    have others := ih fun reading among => onClock reading (List.mem_cons_of_mem _ among)
    intro wait among
    unfold waits at among
    cases next : move o deadline now with
    | stop reason =>
      rw [next] at among
      cases among
    | wait nanos =>
      have first := timely_of_move poll begun present due next
      rw [next] at among
      dsimp only at among
      cases onward : reasonAfter outcome with
      -- This wait is the last one.
      | some reason =>
        rw [onward] at among
        cases List.mem_singleton.1 among
        exact first
      | none =>
        rw [onward] at among
        rcases List.mem_cons.1 among with rfl | among
        · exact first
        · exact others wait among

/-- While the watch goes on, every look at the clock leads to a wait. -/
theorem length_waits {readings : List (Moment × WaitOutcome)}
    (goesOn : follow o deadline readings = none) :
    (waits o deadline readings).length = readings.length := by
  induction readings with
  | nil => rfl
  | cons reading later ih =>
    obtain ⟨now, outcome⟩ := reading
    unfold follow at goesOn
    unfold waits
    cases next : move o deadline now with
    | stop reason =>
      rw [next] at goesOn
      cases goesOn
    | wait nanos =>
      rw [next] at goesOn
      dsimp only at goesOn ⊢
      cases onward : reasonAfter outcome with
      | some reason =>
        rw [onward] at goesOn
        cases goesOn
      | none =>
        rw [onward] at goesOn
        exact congrArg Nat.succ (ih goesOn)

/-- A watch whose time is up has seen a moment at or after its deadline, and had no reason to stop
before. -/
theorem follow_eq_durationElapsed {readings : List (Moment × WaitOutcome)}
    (elapsed : follow o deadline readings = some .durationElapsed) :
    ∃ before now outcome later moment, readings = before ++ (now, outcome) :: later ∧
      follow o deadline before = none ∧ deadline = some moment ∧ moment.nanos ≤ now.nanos := by
  induction readings with
  | nil => cases elapsed
  | cons reading later ih =>
    obtain ⟨now, outcome⟩ := reading
    unfold follow at elapsed
    cases next : move o deadline now with
    | stop reason =>
      obtain ⟨-, moment, due, passed⟩ := move_eq_stop.1 next
      exact ⟨[], now, outcome, later, moment, rfl, rfl, due, passed⟩
    | wait nanos =>
      rw [next] at elapsed
      dsimp only at elapsed
      cases onward : reasonAfter outcome with
      | some reason =>
        rw [onward] at elapsed
        cases elapsed
        -- no outcome of a wait is that the time is up
        cases outcome <;> cases onward
      | none =>
        rw [onward] at elapsed
        obtain ⟨before, now', outcome', later', moment, rfl, goesOn, due, passed⟩ := ih elapsed
        refine ⟨(now, outcome) :: before, now', outcome', later', moment, rfl, ?_, due, passed⟩
        unfold follow
        rw [next]
        dsimp only
        rw [onward]
        exact goesOn

end

end Watch

theorem Configuration.flaw?_of_validate {c : Configuration} (valid : c.validate = .ok ()) :
    c.flaw? = none := by
  unfold validate at valid
  cases engine : c.engine.validate with
  | error fault =>
    rw [engine] at valid
    cases valid
  | ok =>
    cases flaw : c.flaw? with
    | none => rfl
    | some flaw =>
      rw [engine, flaw] at valid
      cases valid

/-- The options of a valid configuration have time between two looks at the clock. -/
theorem Watch.pollNanos_pos {c : Configuration} (valid : c.validate = .ok ()) :
    0 < pollNanos c.monitor := by
  have poll : c.monitor.pollIntervalMs ≠ 0 := by
    intro zero
    have flawless := Configuration.flaw?_of_validate valid
    unfold Configuration.flaw? at flawless
    rw [if_pos zero] at flawless
    repeat' split at flawless
    all_goals cases flawless
  have positive : 0 < c.monitor.pollIntervalMs.toNat :=
    Nat.pos_of_ne_zero fun zero => poll (UInt64.toNat_inj.1 zero)
  unfold pollNanos
  omega

/-- A valid configuration makes the watch panic over its deadline exactly if its duration leads
beyond the last moment of the clock.  With a deadline, or without one, the watch waits after every
look at the clock, unless it stops.  Each wait takes time, is no longer than the options allow and
does not go on after the deadline; and the time is up only if there is a duration and the present
moment lies so far after the start. -/
theorem watch_keeps_time {c : Configuration} (valid : c.validate = .ok ()) {started : Moment}
    (begun : started.OnClock) :
    (∀ message, Watch.deadline c.monitor started = .error message ↔
      message = clockOverflow ∧ ∃ secs, c.monitor.durationSecs = some secs ∧
        Moment.latest < started.nanos + secs.toNat * 1000000000) ∧
    ∀ deadline, Watch.deadline c.monitor started = .ok deadline →
      ∀ readings : List (Moment × WaitOutcome), (∀ reading ∈ readings, reading.1.OnClock) →
        (∀ wait ∈ Watch.waits c.monitor deadline readings,
          Watch.Timely c.monitor started deadline wait) ∧
        (Watch.follow c.monitor deadline readings = none →
          (Watch.waits c.monitor deadline readings).length = readings.length) ∧
        (Watch.follow c.monitor deadline readings = some .durationElapsed →
          ∃ before now outcome later secs, readings = before ++ (now, outcome) :: later ∧
            Watch.follow c.monitor deadline before = none ∧
            c.monitor.durationSecs = some secs ∧
            started.nanos + secs.toNat * 1000000000 ≤ now.nanos) := by
  refine ⟨fun message => Watch.deadline_eq_error, fun deadline due readings onClock =>
    ⟨Watch.timely_of_waits (Watch.pollNanos_pos valid) begun due onClock, Watch.length_waits,
      fun elapsed => ?_⟩⟩
  obtain ⟨before, now, outcome, later, moment, split, goesOn, given, passed⟩ :=
    Watch.follow_eq_durationElapsed elapsed
  rcases Watch.deadline_eq_ok due with ⟨-, rfl⟩ | ⟨secs, _, duration, rfl, same, -⟩
  · cases given
  · cases given
    exact ⟨before, now, outcome, later, secs, split, goesOn, duration, by omega⟩

/-- A run of two seconds, of which the watch sees the beginning, a moment shortly before the end and
the end. -/
def twoSeconds : List (Moment × WaitOutcome) :=
  [(.ofSeconds 100, .timedOut), (⟨101900000000⟩, .dataReceived), (.ofSeconds 102, .timedOut)]

/-- The second wait of the run is cut short by the deadline, and the run ends there. -/
theorem watch_keeps_time_of_two_seconds :
    Watch.Timely { durationSecs := some 2 } (.ofSeconds 100) (some (.ofSeconds 102))
      ⟨⟨101900000000⟩, 100000000⟩ ∧
    ∃ before now outcome later secs, twoSeconds = before ++ (now, outcome) :: later ∧
      Watch.follow { durationSecs := some 2 } (some (.ofSeconds 102)) before = none ∧
      some (2 : UInt64) = some secs ∧
      (Moment.ofSeconds 100).nanos + secs.toNat * 1000000000 ≤ now.nanos := by
  have valid : Configuration.validate { monitor := { durationSecs := some 2 } } = .ok () := by rfl
  have begun : (Moment.ofSeconds 100).OnClock := ⟨by decide, by decide⟩
  obtain ⟨-, keeps⟩ := watch_keeps_time valid begun
  obtain ⟨timely, -, elapsed⟩ := keeps (some (.ofSeconds 102)) (by rfl) twoSeconds (by
    intro reading among
    simp only [twoSeconds, List.mem_cons, List.not_mem_nil, or_false] at among
    rcases among with rfl | rfl | rfl <;> exact ⟨by decide, by decide⟩)
  exact ⟨timely _ (by decide +kernel), elapsed (by decide +kernel)⟩

/-- A duration as long as a word can count makes the watch panic at once. -/
theorem deadline_beyond_clock :
    ¬ ∀ (c : Configuration) (started : Moment), c.validate = .ok () → started.OnClock →
      ∀ message, Watch.deadline c.monitor started ≠ .error message := by
  intro never
  exact never { monitor := { durationSecs := some 0xffffffffffffffff } } (.ofSeconds 0) (by rfl)
    ⟨by decide, by decide⟩ clockOverflow (by rfl)

end ByteTap.Monitor
