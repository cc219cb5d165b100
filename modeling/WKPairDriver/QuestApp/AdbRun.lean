import WKPairDriver.Lib.Run

/-!
# A run of adb

`AdbController::Run` starts adb with a pipe for its standard output and one for its standard error,
waits for the process to exit, and only then reads the pipes to their ends.  The child is a list of
actions: it works for some milliseconds, or it writes bytes to one of the pipes, where each byte
waits for room.

* `run_complete_iff` — `Run` returns without a timeout and with the complete outputs, and never
  waits for a child that waits for room, exactly when each output fits into its pipe (and the wait
  is not shorter than the child's time).
* `run_packages_blocks` — an output that does not fit blocks the child until the timeout.
-/

set_option autoImplicit false

namespace WKPairDriver.QuestApp

open Lib

/-- The two output streams of the child. -/
inductive Stream where
  | stdout
  | stderr
  deriving DecidableEq, Repr

/-- What the child does next. -/
inductive Action where
  | work (ms : Nat)
  | write (stream : Stream) (bytes : List UInt8)
  deriving DecidableEq, Repr

/-- The bytes a program writes to a stream. -/
def written (stream : Stream) : List Action → List UInt8
  | [] => []
  | .work _ :: program => written stream program
  | .write t bytes :: program =>
    if t = stream then bytes ++ written stream program else written stream program

/-- The time a program takes when its output is consumed as it is produced. -/
def duration : List Action → Nat
  | [] => 0
  | .work ms :: program => ms + duration program
  | .write _ _ :: program => duration program

/-- `AdbController::Result`. -/
structure Result where
  exitCode : Int := -1
  out : List UInt8 := []
  err : List UInt8 := []
  timedOut : Bool := false
  deriving DecidableEq, Repr

/-- Where `Run` stands: in its wait, in the `DrainPipeFull` of a stream, or behind its return. -/
inductive Parent where
  | waiting
  | draining (stream : Stream)
  | returned (result : Result)
  deriving DecidableEq, Repr

/-- The child, its pipes and the parent. -/
structure State where
  program : List Action
  exited : Bool
  exitCode : Int
  /-- Milliseconds since the wait began. -/
  clock : Nat
  pipe : Stream → List UInt8
  parent : Parent
  timedOut : Bool
  /-- What `DrainPipeFull` has read of each stream. -/
  captured : Stream → List UInt8

/-- What does not change during a run: the sizes of the pipes, the timeout of the wait (`none` is
    `INFINITE`), and the exit code of the child. -/
structure Setting where
  capacity : Stream → Nat
  waitMs : Option Nat
  exitCode : Int

/-- `waitMs` of `Run`: at least one millisecond, and cast to a `DWORD`, whose largest value is
    `INFINITE`. -/
def waitMs (timeout : Int) : Option Nat :=
  let dword := ((if 0 < timeout then timeout else 1) % 2 ^ 32).toNat
  if dword = 2 ^ 32 - 1 then none else some dword

/-- The size of `chunk` in `DrainPipeFull`. -/
def chunkSize : Nat := 4096

/-- The child right after `CreateProcessW`. -/
def start (program : List Action) : State where
  program := program
  exited := false
  exitCode := 259
  clock := 0
  pipe := fun _ => []
  parent := .waiting
  timedOut := false
  captured := fun _ => []

/-- The wait is over its time. -/
def timeUp (m : Setting) (s : State) : Bool :=
  match m.waitMs with
  | none => false
  | some w => decide (w ≤ s.clock)

/-- `WAIT_TIMEOUT`: the child is terminated with exit code 1. -/
def terminate (s : State) : State :=
  { s with exited := true, exitCode := 1, timedOut := true, parent := .draining .stdout }

/-- A millisecond passes, or the wait ends. -/
def pass (m : Setting) (s : State) (program : List Action) : State :=
  if timeUp m s = true then terminate s
  else { s with clock := s.clock + 1, program := program }

/-- One step while the parent waits for the exit of the child. -/
def waitStep (m : Setting) (s : State) : State :=
  if s.exited = true then { s with parent := .draining .stdout }
  else
    match s.program with
    | [] => { s with exited := true, exitCode := m.exitCode }
    | .work 0 :: program | .write _ [] :: program => { s with program := program }
    | .work (ms + 1) :: program => pass m s (.work ms :: program)
    | .write stream (b :: bytes) :: program =>
      if (s.pipe stream).length < m.capacity stream then
        { s with
          program := .write stream bytes :: program
          pipe := Function.update s.pipe stream (s.pipe stream ++ [b]) }
      -- the child is blocked
      else pass m s s.program

/-- One read of `DrainPipeFull`; the child has exited, so an empty pipe is at its end. -/
def drainStep (stream : Stream) (s : State) : State :=
  if s.pipe stream = [] then
    match stream with
    | .stdout => { s with parent := .draining .stderr }
    | .stderr =>
      { s with
        parent := .returned ⟨s.exitCode, s.captured .stdout, s.captured .stderr, s.timedOut⟩ }
  else
    { s with
      pipe := Function.update s.pipe stream ((s.pipe stream).drop chunkSize)
      captured := Function.update s.captured stream
        (s.captured stream ++ (s.pipe stream).take chunkSize) }

/-- **One step of the run**: there is none once `Run` has returned. -/
def step (m : Setting) (s : State) (_ : Unit) : Option State :=
  match s.parent with
  | .waiting => some (waitStep m s)
  | .draining stream => some (drainStep stream s)
  | .returned _ => none

/-- The parent waits for the exit of the child and the child for room in a pipe. -/
def Deadlocked (m : Setting) (s : State) : Prop :=
  s.parent = .waiting ∧ s.exited = false ∧ ∃ stream b bytes program,
    s.program = .write stream (b :: bytes) :: program ∧
      m.capacity stream ≤ (s.pipe stream).length

/-- No state of the run is a deadlock, and `Run` returns without a timeout and with the complete
    outputs. -/
def Complete (m : Setting) (program : List Action) : Prop :=
  (∀ acts, Always (step m) (fun s => ¬ Deadlocked m s) (start program) acts) ∧
  ∃ acts s, runTo (step m) (start program) acts = some s ∧
    s.parent = .returned ⟨m.exitCode, written .stdout program, written .stderr program, false⟩

/-- Each output fits into its pipe, and the wait is not shorter than the time of the child. -/
def Fits (m : Setting) (program : List Action) : Prop :=
  (∀ stream, (written stream program).length ≤ m.capacity stream) ∧
  ∀ w, m.waitMs = some w → duration program ≤ w

/-! ## What a step does -/

/-- What can happen while the parent waits. -/
inductive WaitStep (m : Setting) (s : State) : State → Prop where
  | exitSeen (h : s.exited = true) : WaitStep m s { s with parent := .draining .stdout }
  | exit (h : s.exited = false) (hp : s.program = []) :
      WaitStep m s { s with exited := true, exitCode := m.exitCode }
  | skip (h : s.exited = false) {a : Action} {program : List Action} (hp : s.program = a :: program)
      (ha : a = .work 0 ∨ ∃ stream, a = .write stream []) : WaitStep m s { s with program := program }
  | tick (h : s.exited = false) {ms : Nat} {program : List Action}
      (hp : s.program = .work (ms + 1) :: program) (ht : timeUp m s = false) :
      WaitStep m s { s with clock := s.clock + 1, program := .work ms :: program }
  | byte (h : s.exited = false) {stream : Stream} {b : UInt8} {bytes : List UInt8}
      {program : List Action} (hp : s.program = .write stream (b :: bytes) :: program)
      (hroom : (s.pipe stream).length < m.capacity stream) :
      WaitStep m s { s with
        program := .write stream bytes :: program
        pipe := Function.update s.pipe stream (s.pipe stream ++ [b]) }
  | blocked (h : s.exited = false) {stream : Stream} {b : UInt8} {bytes : List UInt8}
      {program : List Action} (hp : s.program = .write stream (b :: bytes) :: program)
      (hfull : m.capacity stream ≤ (s.pipe stream).length) (ht : timeUp m s = false) :
      WaitStep m s { s with clock := s.clock + 1 }
  | timeout (h : s.exited = false) (ht : timeUp m s = true)
      (hp : (∃ ms program, s.program = .work (ms + 1) :: program) ∨
        ∃ stream b bytes program, s.program = .write stream (b :: bytes) :: program ∧
          m.capacity stream ≤ (s.pipe stream).length) : WaitStep m s (terminate s)

theorem waitStep_cases (m : Setting) (s : State) : WaitStep m s (waitStep m s) := by
  unfold waitStep
  split
  · next h => exact .exitSeen h
  · next h =>
    rw [Bool.not_eq_true] at h
    split
    · next hp => exact .exit h hp
    · next hp => exact .skip h hp (.inl rfl)
    · next stream _ hp => exact .skip h hp (.inr ⟨stream, rfl⟩)
    · next ms program hp =>
      unfold pass
      split
      · next ht => exact .timeout h ht (.inl ⟨ms, program, hp⟩)
      · next ht => exact .tick h hp (by simpa using ht)
    · next stream b bytes program hp =>
      split
      · next hroom => exact .byte h hp hroom
      · next hfull =>
        unfold pass
        rw [Nat.not_lt] at hfull
        split
        · next ht => exact .timeout h ht (.inr ⟨stream, b, bytes, program, hp, hfull⟩)
        · next ht => exact .blocked h hp hfull (by simpa using ht)

/-- What can happen while the parent drains a stream. -/
inductive DrainStep (s : State) : Stream → State → Prop where
  | next (hp : s.pipe .stdout = []) : DrainStep s .stdout { s with parent := .draining .stderr }
  | finish (hp : s.pipe .stderr = []) : DrainStep s .stderr { s with
      parent := .returned ⟨s.exitCode, s.captured .stdout, s.captured .stderr, s.timedOut⟩ }
  | read {stream : Stream} (hp : s.pipe stream ≠ []) : DrainStep s stream { s with
      pipe := Function.update s.pipe stream ((s.pipe stream).drop chunkSize)
      captured := Function.update s.captured stream
        (s.captured stream ++ (s.pipe stream).take chunkSize) }

theorem drainStep_cases (s : State) (stream : Stream) : DrainStep s stream (drainStep stream s) := by
  unfold drainStep
  split
  · next hp =>
    cases stream with
    | stdout => exact .next hp
    | stderr => exact .finish hp
  · next hp => exact .read hp

/-- An action that does nothing. -/
theorem skip_written {a : Action} (ha : a = .work 0 ∨ ∃ stream, a = .write stream [])
    (stream : Stream) (program : List Action) :
    written stream (a :: program) = written stream program := by
  rcases ha with rfl | ⟨t, rfl⟩
  · rfl
  · rw [written, List.nil_append, ite_self]

theorem skip_duration {a : Action} (ha : a = .work 0 ∨ ∃ stream, a = .write stream [])
    (program : List Action) : duration (a :: program) = duration program := by
  rcases ha with rfl | ⟨t, rfl⟩
  · rw [duration, Nat.zero_add]
  · rfl

/-! ## A child whose outputs fit -/

section Fitting
variable {m : Setting} {program₀ : List Action}

/-- What a run keeps while the outputs fit: no byte is lost, the child has time left for its
    program, and the parent drains only behind its exit. -/
structure Sound (m : Setting) (program₀ : List Action) (s : State) : Prop where
  bytes : ∀ stream, s.captured stream ++ s.pipe stream ++ written stream s.program =
    written stream program₀
  time : ∀ w, m.waitMs = some w → s.clock + duration s.program ≤ w
  onTime : s.timedOut = false
  waiting : s.parent = .waiting → ∀ stream, s.captured stream = []
  exited : s.exited = true → s.program = [] ∧ s.exitCode = m.exitCode
  drained : s.parent ≠ .waiting → s.exited = true
  stderr : s.parent = .draining .stderr → s.pipe .stdout = []
  returned : ∀ r, s.parent = .returned r →
    r = ⟨m.exitCode, written .stdout program₀, written .stderr program₀, false⟩

theorem Sound.start (h : Fits m program₀) : Sound m program₀ (start program₀) where
  bytes _ := rfl
  time w hw := by
    show 0 + duration program₀ ≤ w
    have := h.2 w hw
    omega
  onTime := rfl
  waiting _ _ := rfl
  exited hex := by cases hex
  drained hp := absurd rfl hp
  stderr hp := by cases hp
  returned r hr := by cases hr

/-- The next byte finds room. -/
theorem Sound.room {s : State} (hs : Sound m program₀ s) (h : Fits m program₀)
    (hw : s.parent = .waiting) {stream : Stream} {b : UInt8} {bytes : List UInt8}
    {program : List Action} (hp : s.program = .write stream (b :: bytes) :: program) :
    (s.pipe stream).length < m.capacity stream := by
  have hbytes := hs.bytes stream
  rw [hs.waiting hw stream, hp, written, if_pos rfl] at hbytes
  have hlen := congrArg List.length hbytes
  simp only [List.nil_append, List.length_append, List.length_cons] at hlen
  have := h.1 stream
  omega

theorem Sound.not_deadlocked {s : State} (hs : Sound m program₀ s) (h : Fits m program₀) :
    ¬ Deadlocked m s := by
  rintro ⟨hw, -, stream, b, bytes, program, hp, hfull⟩
  have := hs.room h hw hp
  omega

theorem Sound.waitStep {s t : State} (hs : Sound m program₀ s) (h : Fits m program₀)
    (hw : s.parent = .waiting) (hst : WaitStep m s t) : Sound m program₀ t := by
  cases hst with
  | exitSeen hex =>
    exact { hs with
      waiting := fun hp => by cases hp
      drained := fun _ => hex
      stderr := fun hp => by cases hp
      returned := fun r hr => by cases hr }
  | exit hex hp =>
    exact { hs with
      exited := fun _ => ⟨hp, rfl⟩
      drained := fun _ => rfl }
  | skip hex hp ha =>
    refine { hs with bytes := fun stream => ?_, time := fun w hw' => ?_, exited := fun hex' => ?_ }
    · rw [← hs.bytes stream, hp, skip_written ha]
    · rw [← skip_duration ha, ← hp]
      exact hs.time w hw'
    · exact absurd (hex.symm.trans hex') (by decide)
  | tick hex hp ht =>
    refine { hs with bytes := fun stream => ?_, time := fun w hw' => ?_, exited := fun hex' => ?_ }
    · rw [← hs.bytes stream, hp]
      rfl
    · have := hs.time w hw'
      rw [hp] at this
      simp only [duration] at this ⊢
      omega
    · exact absurd (hex.symm.trans hex') (by decide)
  | @byte hex stream b bytes program hp hroom =>
    refine { hs with bytes := fun t => ?_, time := fun w hw' => ?_, exited := fun hex' => ?_,
                     stderr := fun hp' => ?_ }
    · have hbytes := hs.bytes t
      rw [hp] at hbytes
      by_cases ht : stream = t
      · subst ht
        simpa [written] using hbytes
      · simpa [written, ht, Function.update_of_ne (Ne.symm ht)] using hbytes
    · have := hs.time w hw'
      rw [hp] at this
      exact this
    · exact absurd (hex.symm.trans hex') (by decide)
    · rw [hw] at hp'
      cases hp'
  | blocked hex hp hfull ht => exact absurd (hs.room h hw hp) (by omega)
  | timeout hex ht hp =>
    exfalso
    rcases hp with ⟨ms, program, hp⟩ | ⟨stream, b, bytes, program, hp, hfull⟩
    · unfold timeUp at ht
      split at ht
      · cases ht
      · next w hw' =>
        have := hs.time w hw'
        rw [hp] at this
        simp only [duration] at this
        have := of_decide_eq_true ht
        omega
    · exact absurd (hs.room h hw hp) (by omega)

theorem Sound.drainStep {s t : State} (hs : Sound m program₀ s) {stream : Stream}
    (hp : s.parent = .draining stream) (hst : DrainStep s stream t) : Sound m program₀ t := by
  have hex : s.exited = true := hs.drained (by rw [hp]; simp)
  obtain ⟨hnil, hcode⟩ := hs.exited hex
  cases hst with
  | next hout =>
    exact { hs with
      waiting := fun hw => by cases hw
      drained := fun _ => hex
      stderr := fun _ => hout
      returned := fun r hr => by cases hr }
  | finish herr =>
    have all : ∀ stream, s.pipe stream = [] → s.captured stream = written stream program₀ := by
      intro stream hpipe
      rw [← hs.bytes stream, hpipe, hnil]
      simp [written]
    refine { hs with
      waiting := fun hw => by cases hw
      drained := fun _ => hex
      stderr := fun hp' => by cases hp'
      returned := fun r hr => ?_ }
    cases hr
    rw [all .stdout (hs.stderr hp), all .stderr herr, hcode, hs.onTime]
  | read hne =>
    refine { hs with bytes := fun t => ?_, waiting := fun hw => ?_, stderr := fun hp' => ?_ }
    · rw [← hs.bytes t]
      by_cases ht : t = stream
      · subst ht
        simp [List.append_assoc]
      · simp [Function.update_of_ne ht]
    · rw [hp] at hw
      cases hw
    · rw [hp] at hp'
      cases hp'
      simpa using hs.stderr hp

theorem Sound.step (h : Fits m program₀) (s : State) (a : Unit) (t : State)
    (hs : Sound m program₀ s) (ht : step m s a = some t) : Sound m program₀ t := by
  unfold QuestApp.step at ht
  split at ht
  · next hw =>
    cases ht
    exact hs.waitStep h hw (waitStep_cases m s)
  · next stream hp =>
    cases ht
    exact hs.drainStep hp (drainStep_cases s stream)
  · cases ht

/-! ### The run ends -/

/-- The actions of a program, a byte counted as one. -/
def actions : List Action → Nat
  | [] => 0
  | .work ms :: program => ms + 1 + actions program
  | .write _ bytes :: program => bytes.length + 1 + actions program

/-- Where the parent stands. -/
def stage (s : State) : Nat :=
  match s.parent with
  | .waiting => if s.exited = true then 3 else 4
  | .draining .stdout => 2
  | .draining .stderr => 1
  | .returned _ => 0

/-- What is left to do: a byte that the child still has to write is moved twice. -/
def rank (s : State) : Nat :=
  2 * actions s.program + ((s.pipe .stdout).length + (s.pipe .stderr).length) + stage s

theorem rank_waitStep {s t : State} (hs : Sound m program₀ s) (h : Fits m program₀)
    (hw : s.parent = .waiting) (hst : WaitStep m s t) : rank t < rank s := by
  have hsound := hs.waitStep h hw hst
  cases hst with
  | exitSeen hex => simp [rank, stage, hw, hex]
  | exit hex hp => simp [rank, stage, hw, hex]
  | skip hex hp ha =>
    simp only [rank, stage, hw, hp]
    rcases ha with rfl | ⟨stream, rfl⟩ <;> simp only [actions, List.length_nil] <;> omega
  | tick hex hp ht =>
    simp only [rank, stage, hw, hp, actions]
    omega
  | @byte hex stream b bytes program hp hroom =>
    have hout : ∀ t, (Function.update s.pipe stream (s.pipe stream ++ [b]) t).length =
        (s.pipe t).length + if t = stream then 1 else 0 := by
      intro t
      by_cases ht : t = stream
      · subst ht
        simp
      · simp [ht]
    simp only [rank, stage, hw, hp, actions, hout, List.length_cons]
    cases stream <;> simp <;> omega
  | blocked hex hp hfull ht => exact absurd (hs.room h hw hp) (by omega)
  | timeout hex ht hp => exact absurd hsound.onTime (by simp [terminate])

theorem rank_drainStep {s t : State} {stream : Stream} (hp : s.parent = .draining stream)
    (hst : DrainStep s stream t) : rank t < rank s := by
  cases hst with
  | next hout => simp [rank, stage, hp]
  | finish herr => simp [rank, stage, hp]
  | read hne =>
    have hpos : 0 < (s.pipe stream).length := List.length_pos_of_ne_nil hne
    have hchunk : 0 < chunkSize := by decide
    have hlen : ((s.pipe stream).drop chunkSize).length < (s.pipe stream).length := by
      rw [List.length_drop]
      omega
    cases stream <;> simp [rank, stage, hp, Function.update_of_ne] at hlen ⊢ <;> omega

theorem Sound.progress (h : Fits m program₀) (s : State) (hs : Sound m program₀ s)
    (hF : ¬ ∃ r, s.parent = .returned r) :
    ∃ a t, QuestApp.step m s a = some t ∧ Sound m program₀ t ∧ rank t < rank s := by
  cases hp : s.parent with
  | waiting =>
    have hst := waitStep_cases m s
    exact ⟨(), _, by simp only [QuestApp.step, hp], hs.waitStep h hp hst,
      rank_waitStep hs h hp hst⟩
  | draining stream =>
    have hst := drainStep_cases s stream
    exact ⟨(), _, by simp only [QuestApp.step, hp], hs.drainStep hp hst, rank_drainStep hp hst⟩
  | returned r => exact absurd ⟨r, hp⟩ hF

theorem complete_of_fits (h : Fits m program₀) : Complete m program₀ := by
  refine ⟨fun acts => ?_, ?_⟩
  · exact Always.of_inv' (Sound.step h) (fun _ hs => hs.not_deadlocked h) (.start h)
  · obtain ⟨acts, s, hrun, hs, r, hr⟩ := exists_runTo_of_measure rank (Sound.progress h) (.start h)
    exact ⟨acts, s, hrun, by rw [hr, hs.returned r hr]⟩

end Fitting

/-! ## A run that is complete -/

section Converse
variable {m : Setting} {program₀ : List Action}

/-- What every run keeps: nothing is read before the exit, so a stream never holds more than its
    pipe, and the time that has passed covers the program so far. -/
structure Bounded (m : Setting) (program₀ : List Action) (s : State) : Prop where
  size : ∀ stream, (s.captured stream ++ s.pipe stream).length ≤ m.capacity stream
  clock : ∀ w, m.waitMs = some w → s.clock ≤ w
  time : s.timedOut = false → duration program₀ ≤ s.clock + duration s.program
  waiting : s.parent = .waiting → s.timedOut = false ∧ ∀ stream, s.captured stream = []
  exited : s.exited = true → s.timedOut = false → s.program = []
  drained : s.parent ≠ .waiting → s.exited = true
  returned : ∀ r, s.parent = .returned r → r.timedOut = s.timedOut ∧
    r.out = s.captured .stdout ∧ r.err = s.captured .stderr

theorem Bounded.start : Bounded m program₀ (start program₀) where
  size stream := Nat.zero_le _
  clock w _ := Nat.zero_le w
  time _ := by
    show duration program₀ ≤ 0 + duration program₀
    omega
  waiting _ := ⟨rfl, fun _ => rfl⟩
  exited hex := by cases hex
  drained hp := absurd rfl hp
  returned r hr := by cases hr

theorem Bounded.waitStep {s t : State} (hs : Bounded m program₀ s) (hw : s.parent = .waiting)
    (hst : WaitStep m s t) : Bounded m program₀ t := by
  obtain ⟨honTime, hcaptured⟩ := hs.waiting hw
  -- a wait that is not over leaves another millisecond
  have hclock : timeUp m s = false → ∀ w, m.waitMs = some w → s.clock + 1 ≤ w := by
    intro ht w hwait
    simp only [timeUp, hwait, decide_eq_false_iff_not] at ht
    omega
  cases hst with
  | exitSeen hex =>
    exact { hs with
      waiting := fun hp => by cases hp
      drained := fun _ => hex
      returned := fun r hr => by cases hr }
  | exit hex hp => exact { hs with exited := fun _ _ => hp, drained := fun _ => rfl }
  | skip hex hp ha =>
    refine { hs with time := fun ht => ?_, exited := fun hex' => ?_ }
    · have := hs.time ht
      rw [hp, skip_duration ha] at this
      exact this
    · exact absurd (hex.symm.trans hex') (by decide)
  | tick hex hp ht =>
    refine { hs with clock := hclock ht, time := fun htime => ?_, exited := fun hex' => ?_ }
    · have := hs.time htime
      rw [hp] at this
      simp only [duration] at this ⊢
      omega
    · exact absurd (hex.symm.trans hex') (by decide)
  | @byte hex stream b bytes program hp hroom =>
    refine { hs with size := fun t => ?_, time := fun htime => ?_, exited := fun hex' => ?_ }
    · have hsize := hs.size t
      by_cases ht : t = stream
      · subst ht
        simp only [hcaptured, Function.update_self, List.nil_append, List.length_append,
          List.length_singleton]
        omega
      · simpa [Function.update_of_ne ht] using hsize
    · have := hs.time htime
      rw [hp] at this
      exact this
    · exact absurd (hex.symm.trans hex') (by decide)
  | blocked hex hp hfull ht =>
    refine { hs with clock := hclock ht, time := fun htime => ?_ }
    have := hs.time htime
    show duration program₀ ≤ s.clock + 1 + duration s.program
    omega
  | timeout hex ht hp =>
    exact { hs with
      time := fun htime => by cases htime
      waiting := fun hp => by cases hp
      exited := fun _ htime => by cases htime
      drained := fun _ => rfl
      returned := fun r hr => by cases hr }

theorem Bounded.drainStep {s t : State} (hs : Bounded m program₀ s) {stream : Stream}
    (hp : s.parent = .draining stream) (hst : DrainStep s stream t) : Bounded m program₀ t := by
  have hex : s.exited = true := hs.drained (by rw [hp]; simp)
  cases hst with
  | next hout =>
    exact { hs with
      waiting := fun hw => by cases hw
      drained := fun _ => hex
      returned := fun r hr => by cases hr }
  | finish herr =>
    refine { hs with
      waiting := fun hw => by cases hw
      drained := fun _ => hex
      returned := fun r hr => ?_ }
    cases hr
    exact ⟨rfl, rfl, rfl⟩
  | read hne =>
    refine { hs with size := fun t => ?_, waiting := fun hw => ?_, returned := fun r hr => ?_ }
    · have hsize := hs.size t
      by_cases ht : t = stream
      · subst ht
        simpa [List.append_assoc] using hsize
      · simpa [Function.update_of_ne ht] using hsize
    · rw [hp] at hw
      cases hw
    · rw [hp] at hr
      cases hr

theorem Bounded.step (s : State) (a : Unit) (t : State) (hs : Bounded m program₀ s)
    (ht : step m s a = some t) : Bounded m program₀ t := by
  unfold QuestApp.step at ht
  split at ht
  · next hw =>
    cases ht
    exact hs.waitStep hw (waitStep_cases m s)
  · next stream hp =>
    cases ht
    exact hs.drainStep hp (drainStep_cases s stream)
  · cases ht

theorem fits_of_complete (h : Complete m program₀) : Fits m program₀ := by
  obtain ⟨-, acts, s, hrun, hreturned⟩ := h
  have hs : Bounded m program₀ s :=
    (Always.of_inv' Bounded.step (fun _ hs => hs) Bounded.start).runTo hrun
  obtain ⟨htime, hout, herr⟩ := hs.returned _ hreturned
  refine ⟨fun stream => ?_, fun w hw => ?_⟩
  · have hsize := hs.size stream
    rw [List.length_append] at hsize
    cases stream with
    | stdout =>
      rw [← hout] at hsize
      exact Nat.le_trans (Nat.le_add_right _ _) hsize
    | stderr =>
      rw [← herr] at hsize
      exact Nat.le_trans (Nat.le_add_right _ _) hsize
  · have hclock := hs.clock w hw
    have hdur := hs.time htime.symm
    have hex := hs.drained (by rw [hreturned]; simp)
    rw [hs.exited hex htime.symm, duration, Nat.add_zero] at hdur
    omega

end Converse

/-- Below 2^32 milliseconds the cast does not shorten the timeout. -/
theorem le_waitMs {timeout : Int} (h : timeout < 2 ^ 32) {d : Nat} (hd : (d : Int) ≤ timeout)
    {w : Nat} (hw : waitMs timeout = some w) : d ≤ w := by
  rw [waitMs, Option.ite_none_left_eq_some] at hw
  obtain ⟨-, hw⟩ := hw
  have hw : ((if 0 < timeout then timeout else 1) % 2 ^ 32).toNat = w := Option.some.inj hw
  split at hw <;> omega

/-- A child that would exit within the timeout has its outputs as the only condition. -/
theorem fits_iff_of_inTime {timeout : Int} (h : timeout < 2 ^ 32) {program : List Action}
    (hd : (duration program : Int) ≤ timeout) (capacity : Stream → Nat) (exitCode : Int) :
    Fits ⟨capacity, waitMs timeout, exitCode⟩ program ↔
      ∀ stream, (written stream program).length ≤ capacity stream :=
  and_iff_left fun _ hw => le_waitMs h hd hw

/-- **A run of adb is complete exactly when its outputs fit**: `Run` returns without a timeout and
    with the complete outputs, and never waits for the exit of a child that waits for room, if and
    only if each output fits into its pipe and the wait is not shorter than the child's time. -/
theorem run_complete_iff (m : Setting) (program : List Action) :
    Complete m program ↔ Fits m program :=
  ⟨fits_of_complete, complete_of_fits⟩

/-- The package listing of `QueryInstalledPackages`, one byte longer than a pipe of 4096 bytes: adb
    would be done at once, but it is not within ten seconds. -/
theorem run_packages_blocks :
    let packages := [Action.write .stdout (List.replicate 4097 112)]
    duration packages = 0 ∧ ¬ Complete ⟨fun _ => 4096, waitMs 10000, 0⟩ packages := by
  refine ⟨rfl, fun h => ?_⟩
  have hsize := (fits_of_complete h).1 .stdout
  rw [written, if_pos rfl, List.length_append, List.length_replicate] at hsize
  exact absurd hsize (by show ¬ 4097 + 0 ≤ 4096; omega)

end WKPairDriver.QuestApp
