import ByteTap.Monitor.CommandLine
import ByteTap.Proofs.Outcome
import Mathlib.Data.List.Nodup

/-!
# One source on the command line

Whatever is put into a command line is noted as given, and nothing is given twice (`Reading.Noted`,
kept by every word that is read).  Since two sources among what was given are refused at the end, a
command line that is accepted names at most one (`parse_names_one`).
-/

namespace ByteTap.Monitor

namespace CommandLine

variable {line changed : CommandLine}

/-- Another option leaves a source as it is. -/
theorem set_sources {o : ValueOption} {value : String} (set : line.set o value = .ok changed) :
    (o ≠ .tcp → changed.tcp = line.tcp) ∧ (o ≠ .device → changed.device = line.device) := by
  unfold CommandLine.set at set
  cases o with
  | tcp =>
    cases set
    exact ⟨fun other => absurd rfl other, fun _ => rfl⟩
  | device =>
    dsimp only at set
    split at set
    · cases set
    · cases set
      exact ⟨fun _ => rfl, fun other => absurd rfl other⟩
  | _ =>
    dsimp only at set
    split at set
    all_goals cases set
    all_goals exact ⟨fun _ => rfl, fun _ => rfl⟩

/-- So does a switch. -/
theorem turnOn_sources (line : CommandLine) (s : Switch) :
    (line.turnOn s).tcp = line.tcp ∧ (line.turnOn s).device = line.device := by
  cases s <;> exact ⟨rfl, rfl⟩

end CommandLine

namespace CommandLine.Reading

/-- The sources that are put into the line were given, and nothing was given twice. -/
structure Noted (r : Reading) : Prop where
  once : r.given.Nodup
  tcp : r.line.tcp.isSome = true → .option .tcp ∈ r.given
  device : r.line.device.isSome = true → .option .device ∈ r.given

variable {r r' : Reading}

theorem Noted.give {flag : Flag} (noted : r.Noted) (given : r.give flag = .ok r') :
    r'.Noted ∧ flag ∈ r'.given := by
  unfold Reading.give at given
  split at given
  · cases given
  · next fresh =>
    cases given
    have fresh : flag ∉ r.given := by simpa using fresh
    exact ⟨⟨noted.once.cons fresh, fun set => List.mem_cons_of_mem flag (noted.tcp set),
      fun set => List.mem_cons_of_mem flag (noted.device set)⟩, List.mem_cons_self⟩

/-- What an option sets is noted with it. -/
theorem Noted.take {o : ValueOption} {value : Option String} (noted : r.Noted)
    (taken : r.take o value = .ok r') : r'.Noted := by
  cases value with
  | none => cases taken
  | some value =>
    obtain ⟨between, given, taken⟩ := bind_eq_ok.1 taken
    obtain ⟨line, set, taken⟩ := bind_eq_ok.1 taken
    cases taken
    obtain ⟨noted, among⟩ := noted.give given
    obtain ⟨tcp, device⟩ := CommandLine.set_sources set
    refine ⟨noted.once, fun some => ?_, fun some => ?_⟩
    · by_cases own : o = .tcp
      · exact own ▸ among
      · exact noted.tcp (tcp own ▸ some)
    · by_cases own : o = .device
      · exact own ▸ among
      · exact noted.device (device own ▸ some)

theorem Noted.resolve (noted : r.Noted) (resolved : r.resolve = .ok r') : r'.Noted := by
  unfold Reading.resolve at resolved
  split at resolved
  · cases resolved
    exact noted
  · have waiting : { r with pending := none }.Noted := ⟨noted.once, noted.tcp, noted.device⟩
    exact waiting.take resolved

/-- An option is noted when its value comes, a switch at once. -/
theorem Noted.known {flag : Flag} {attached : Option String} (noted : r.Noted)
    (read : r.known flag attached = .ok r') : r'.Noted := by
  unfold Reading.known at read
  split at read
  · obtain ⟨between, resolved, read⟩ := bind_eq_ok.1 read
    exact (noted.resolve resolved).take read
  · obtain ⟨between, resolved, read⟩ := bind_eq_ok.1 read
    cases read
    have noted := noted.resolve resolved
    exact ⟨noted.once, noted.tcp, noted.device⟩
  · cases read
  · obtain ⟨between, resolved, read⟩ := bind_eq_ok.1 read
    obtain ⟨after, given, read⟩ := bind_eq_ok.1 read
    cases read
    obtain ⟨noted, -⟩ := (noted.resolve resolved).give given
    have sources := CommandLine.turnOn_sources after.line
    exact ⟨noted.once, fun some => noted.tcp ((sources _).1 ▸ some),
      fun some => noted.device ((sources _).2 ▸ some)⟩
  · obtain ⟨between, resolved, read⟩ := bind_eq_ok.1 read
    cases read
  · obtain ⟨between, resolved, read⟩ := bind_eq_ok.1 read
    cases read

theorem Noted.letters {cs : List Char} (noted : r.Noted) (read : r.letters cs = .ok r') :
    r'.Noted := by
  induction cs generalizing r with
  | nil =>
    cases read
    exact noted
  | cons c rest ih =>
    unfold Reading.letters at read
    split at read
    · cases read
    · exact noted.known read
    · obtain ⟨between, known, read⟩ := bind_eq_ok.1 read
      exact ih (noted.known known) read

theorem Noted.plain {word : String} (noted : r.Noted) (read : r.plain word = .ok r') :
    r'.Noted := by
  unfold Reading.plain at read
  split at read
  · cases read
    exact ⟨noted.once, noted.tcp, noted.device⟩
  · cases read

theorem Noted.long {cs : List Char} (noted : r.Noted) (read : r.long cs = .ok r') : r'.Noted := by
  unfold Reading.long at read
  dsimp only at read
  split at read
  · exact noted.known read
  · cases read

theorem Noted.word {text : String} (noted : r.Noted) (read : r.word text = .ok r') : r'.Noted := by
  unfold Reading.word at read
  split at read
  · exact noted.plain read
  · split at read
    · cases read
      exact ⟨noted.once, noted.tcp, noted.device⟩
    · exact noted.long read
    · exact noted.letters read
    · exact noted.plain read

/-- A whole command line is noted word by word. -/
theorem Noted.words {words : List String} (noted : r.Noted)
    (read : words.foldlM Reading.word r = .ok r') : r'.Noted := by
  induction words generalizing r with
  | nil =>
    cases read
    exact noted
  | cons text rest ih =>
    rw [List.foldlM_cons] at read
    obtain ⟨between, first, read⟩ := bind_eq_ok.1 read
    exact ih (noted.word first) read

/-- Two sources would be all that is left of what was given, and this is refused. -/
theorem Noted.finish {line : CommandLine} (noted : r.Noted) (finished : r.finish = .ok line) :
    line.tcp = none ∨ line.device = none := by
  obtain ⟨last, resolved, finished⟩ := bind_eq_ok.1 finished
  have noted := noted.resolve resolved
  split at finished
  · cases finished
  · next several =>
    cases finished
    by_contra both
    rw [not_or, ← ne_eq, ← ne_eq, Option.ne_none_iff_isSome, Option.ne_none_iff_isSome] at both
    have kept : [.option .tcp, .option .device].Perm (last.given.filter isEndpoint) := by
      refine (List.perm_ext_iff_of_nodup (by decide) (noted.once.filter _)).2 fun flag => ?_
      rw [List.mem_filter]
      constructor
      · intro among
        simp only [List.mem_cons, List.not_mem_nil, or_false] at among
        rcases among with rfl | rfl
        · exact ⟨noted.tcp both.1, rfl⟩
        · exact ⟨noted.device both.2, rfl⟩
      · rintro ⟨-, source⟩
        unfold isEndpoint at source
        split at source
        · simp
        · simp
        · cases source
    obtain ⟨second, first, two⟩ := List.length_eq_two.1 kept.length_eq.symm
    exact several second first two

end CommandLine.Reading

/-- A command line that is accepted names at most one source. -/
theorem CommandLine.parse_names_one {words : List String} {line : CommandLine}
    (accepted : parse words = .ok line) : line.tcp = none ∨ line.device = none := by
  obtain ⟨last, read, finished⟩ := bind_eq_ok.1 accepted
  have noted : Reading.Noted {} := ⟨.nil, nofun, nofun⟩
  exact (noted.words read).finish finished

end ByteTap.Monitor
