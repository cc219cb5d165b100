import WKPairDriver.Lib.Run

/-!
# Segmentation of the captured speech

The main loop of the captions host polls the push-to-talk action, drains the audio queue, takes a
copy of the configuration and processes the frames.  In always-on mode a voice detector begins and
ends an utterance, in push-to-talk mode the button does; both collect into one buffer, and each
keeps its own flag.  Frames are captured and the mode is switched by other threads at any time.

The state holds a log of what the loop has seen, so that an utterance can be compared with it.

* `Press`, `Onset` — an utterance that is open in the log, in either mode.
* `utterances_one_mode` — in a run whose mode switches meet no open utterance, no waiting frame and
  (towards push-to-talk) no held button, and in which no release goes by without a frame, every
  buffer that is transcribed is one utterance of one mode.
-/

set_option autoImplicit false

namespace WKPairDriver.Captions

open Lib

universe u
variable {α : Type u}

/-- `kSpeechThreshold`. -/
def kSpeechThreshold : ℚ := 0.5

/-- `kSilenceFrames`. -/
def kSilenceFrames : Nat := 20

/-- The samples without which `speech_buf` is too short to transcribe. -/
def kMinSamples : Nat := 1600

/-- A captured frame, with the probability the voice detector will give it, and how often the mode
    had been switched when it was captured. -/
structure AudioFrame (α : Type u) where
  samples : List α
  prob : ℚ
  epoch : Nat
  deriving DecidableEq, Repr

/-- What the loop sees: the button, a frame it processes, and that the mode was switched. -/
inductive Entry (α : Type u) where
  | poll (held : Bool)
  | frame (f : AudioFrame α)
  | switched
  deriving DecidableEq, Repr

/-- A call of `Transcribe`: the mode, how often it had been switched, the buffer, and the log up to
    the frame that ended the utterance. -/
structure Transcription (α : Type u) where
  alwaysOn : Bool
  epoch : Nat
  samples : List α
  log : List (Entry α)
  deriving DecidableEq, Repr

/-- Where the loop stands: before it polls, drains the queue, or copies the configuration. -/
inductive LoopPoint where
  | poll
  | drain
  | process
  deriving DecidableEq, Repr

/-- The main loop, the audio queue and the mode. -/
structure MainLoop (α : Type u) where
  /-- `g_config.mode == 1` -/
  alwaysOn : Bool
  audioQueue : List (AudioFrame α)
  point : LoopPoint
  pttHeld : Bool
  frames : List (AudioFrame α)
  silenceCount : Nat
  inSpeech : Bool
  pttWasHeld : Bool
  speechBuf : List α
  epoch : Nat
  log : List (Entry α)
  transcribed : List (Transcription α)
  deriving DecidableEq, Repr

/-- The loop before its first turn. -/
def MainLoop.start (mode : Nat) : MainLoop α where
  alwaysOn := mode == 1
  audioQueue := []
  point := .poll
  pttHeld := false
  frames := []
  silenceCount := 0
  inSpeech := false
  pttWasHeld := false
  speechBuf := []
  epoch := 0
  log := []
  transcribed := []

/-- What happens next, in the loop or in another thread. -/
inductive LoopAction (α : Type u) where
  | capture (samples : List α) (prob : ℚ)
  | setMode (mode : Nat)
  | poll (held : Bool)
  | drain
  | process
  deriving DecidableEq, Repr

/-- `transcribe:` — a buffer that is too short is only cleared. -/
def transcribe (s : MainLoop α) : MainLoop α :=
  if s.speechBuf.length < kMinSamples then { s with speechBuf := [] }
  else
    { s with
      speechBuf := []
      transcribed := s.transcribed ++ [⟨s.alwaysOn, s.epoch, s.speechBuf, s.log⟩] }

/-- A frame in always-on mode. -/
def vadFrame (s : MainLoop α) (f : AudioFrame α) : MainLoop α :=
  if kSpeechThreshold ≤ f.prob then
    { s with
      inSpeech := true
      silenceCount := 0
      speechBuf := (if s.inSpeech = true then s.speechBuf else []) ++ f.samples }
  else if s.inSpeech = true then
    if kSilenceFrames ≤ s.silenceCount + 1 then
      transcribe { s with silenceCount := s.silenceCount + 1, inSpeech := false }
    else
      { s with silenceCount := s.silenceCount + 1, speechBuf := s.speechBuf ++ f.samples }
  else s

/-- A frame in push-to-talk mode. -/
def pttFrame (s : MainLoop α) (f : AudioFrame α) : MainLoop α :=
  if s.pttHeld = true then
    { s with
      pttWasHeld := true
      speechBuf := (if s.pttWasHeld = true then s.speechBuf else []) ++ f.samples }
  else if s.pttWasHeld = true then transcribe { s with pttWasHeld := false }
  else s

/-- One frame. -/
def processFrame (vadLoaded : Bool) (s : MainLoop α) (f : AudioFrame α) : MainLoop α :=
  let s := { s with log := s.log ++ [.frame f] }
  if s.alwaysOn = true ∧ vadLoaded = true then vadFrame s f
  else if s.alwaysOn = false then pttFrame s f
  else s

/-- The system: the loop in its order, and the threads that capture and configure. -/
def loopStep (vadLoaded : Bool) (s : MainLoop α) : LoopAction α → Option (MainLoop α)
  | .capture samples prob =>
    some { s with audioQueue := s.audioQueue ++ [⟨samples, prob, s.epoch⟩] }
  | .setMode mode =>
    if (mode == 1) = s.alwaysOn then some s
    else
      some { s with alwaysOn := mode == 1, epoch := s.epoch + 1, log := s.log ++ [.switched] }
  | .poll held =>
    if s.point = .poll then
      some { s with pttHeld := held, point := .drain, log := s.log ++ [.poll held] }
    else none
  | .drain =>
    if s.point = .drain then
      some { s with frames := s.audioQueue, audioQueue := [], point := .process }
    else none
  | .process =>
    if s.point = .process then
      some { s.frames.foldl (processFrame vadLoaded) s with frames := [], point := .poll }
    else none

/-! ## Reading the log -/

/-- The samples of the frames of a part of the log. -/
def samplesOf (es : List (Entry α)) : List α :=
  es.flatMap fun e => match e with
    | .frame f => f.samples
    | _ => []

/-- The frames of a part of the log. -/
def framesOf (es : List (Entry α)) : List (AudioFrame α) :=
  es.filterMap fun e => match e with
    | .frame f => some f
    | _ => none

/-- The button as it was polled last. -/
def lastPoll (es : List (Entry α)) : Bool :=
  es.foldl (fun h e => match e with
    | .poll held => held
    | _ => h) false

/-- The frames processed since the mode was switched. -/
def sinceSwitch (es : List (Entry α)) : List (AudioFrame α) :=
  es.foldl (fun fs e => match e with
    | .poll _ => fs
    | .frame f => fs ++ [f]
    | .switched => []) []

/-- How many frames at the end are below the speech threshold. -/
def silentTail (fs : List (AudioFrame α)) : Nat :=
  fs.foldl (fun n f => if kSpeechThreshold ≤ f.prob then 0 else n + 1) 0

/-- Nobody speaks behind the frames: none is speech, or enough silent ones follow the last. -/
def Quiet (fs : List (AudioFrame α)) : Prop :=
  (∀ f ∈ fs, f.prob < kSpeechThreshold) ∨ kSilenceFrames ≤ silentTail fs

/-- Speech has not ended in the frames. -/
def SpeechGoesOn (fs : List (AudioFrame α)) : Prop :=
  ∀ part, part <+: fs → silentTail part < kSilenceFrames

/-- The button was pressed behind `older`, has been held through `since`, and is released in
    `rest`; the mode was not switched in between, and the frames were captured in it. -/
structure Press (log : List (Entry α)) (epoch : Nat) (older since rest : List (Entry α)) :
    Prop where
  log_eq : log = older ++ .poll true :: (since ++ rest)
  pressed : lastPoll older = false
  held : ∀ e ∈ since, e = .poll true ∨ ∃ f, e = .frame f ∧ f.epoch = epoch
  released : ∀ e ∈ rest, e = .poll false

/-- Speech began behind `older` with the frame `onset` and has gone on through `since`; the mode was
    not switched in between, and the frames were captured in it. -/
structure Onset (log : List (Entry α)) (epoch : Nat) (older : List (Entry α))
    (onset : AudioFrame α) (since : List (Entry α)) : Prop where
  log_eq : log = older ++ .frame onset :: since
  quiet : Quiet (sinceSwitch older)
  loud : kSpeechThreshold ≤ onset.prob
  onset_epoch : onset.epoch = epoch
  captured : ∀ e ∈ since, (∃ h, e = .poll h) ∨ ∃ f, e = .frame f ∧ f.epoch = epoch
  goesOn : SpeechGoesOn (onset :: framesOf since)

/-- The buffer holds the frames processed from a press until its release. -/
def Transcription.FromPress (u : Transcription α) : Prop :=
  ∃ log closing older since rest, u.log = log ++ [.frame closing] ∧
    Press log u.epoch older since rest ∧ rest ≠ [] ∧ u.samples = samplesOf since

/-- The buffer holds the frames from a speech onset until the end of the speech. -/
def Transcription.FromOnset (u : Transcription α) : Prop :=
  ∃ log closing older onset since, u.log = log ++ [.frame closing] ∧
    Onset log u.epoch older onset since ∧
    silentTail (onset :: framesOf since ++ [closing]) = kSilenceFrames ∧
    u.samples = onset.samples ++ samplesOf since

/-- The buffer is one utterance of the mode it is transcribed in. -/
def Transcription.OneUtterance (u : Transcription α) : Prop :=
  if u.alwaysOn = true then u.FromOnset else u.FromPress

/-- The condition on a step.  A mode switch finds no frame waiting and no utterance open, and no
    button held if it is towards push-to-talk; the button is not pressed while the utterance of the
    press before is still open. -/
def MeetsNoUtterance (s : MainLoop α) : LoopAction α → Prop
  | .setMode mode => (mode == 1) ≠ s.alwaysOn →
      s.audioQueue = [] ∧ s.frames = [] ∧ s.inSpeech = false ∧ s.pttWasHeld = false ∧
        (mode ≠ 1 → s.pttHeld = false)
  | .poll held => held = true → s.pttWasHeld = true → s.pttHeld = true
  | _ => True

/-! ## One more entry -/

section Snoc

variable (es : List (Entry α)) (fs : List (AudioFrame α)) (f : AudioFrame α) (h : Bool)

@[simp] theorem samplesOf_nil : samplesOf ([] : List (Entry α)) = [] := rfl

@[simp] theorem samplesOf_poll : samplesOf (es ++ [.poll h]) = samplesOf es := by
  simp [samplesOf]

@[simp] theorem samplesOf_frame : samplesOf (es ++ [.frame f]) = samplesOf es ++ f.samples := by
  simp [samplesOf]

@[simp] theorem framesOf_poll : framesOf (es ++ [.poll h]) = framesOf es := by
  simp [framesOf]

@[simp] theorem framesOf_frame : framesOf (es ++ [.frame f]) = framesOf es ++ [f] := by
  simp [framesOf]

@[simp] theorem lastPoll_poll : lastPoll (es ++ [.poll h]) = h := by
  simp [lastPoll]

@[simp] theorem lastPoll_frame : lastPoll (es ++ [.frame f]) = lastPoll es := by
  simp [lastPoll]

@[simp] theorem lastPoll_switched : lastPoll (es ++ [.switched]) = lastPoll es := by
  simp [lastPoll]

@[simp] theorem sinceSwitch_poll : sinceSwitch (es ++ [.poll h]) = sinceSwitch es := by
  simp [sinceSwitch]

@[simp] theorem sinceSwitch_frame : sinceSwitch (es ++ [.frame f]) = sinceSwitch es ++ [f] := by
  simp [sinceSwitch]

@[simp] theorem sinceSwitch_switched : sinceSwitch (es ++ [.switched]) = [] := by
  simp [sinceSwitch]

theorem silentTail_loud (hf : kSpeechThreshold ≤ f.prob) : silentTail (fs ++ [f]) = 0 := by
  simp [silentTail, hf]

theorem silentTail_low (hf : ¬ kSpeechThreshold ≤ f.prob) :
    silentTail (fs ++ [f]) = silentTail fs + 1 := by
  simp [silentTail, hf]

end Snoc

/-- Frames in front of others only add to the silent ones at the end. -/
theorem silentTail_append_le (fs gs : List (AudioFrame α)) :
    silentTail gs ≤ silentTail (fs ++ gs) := by
  induction gs using List.reverseRecOn with
  | nil => exact Nat.zero_le _
  | append_singleton gs g ih =>
    rw [← List.append_assoc]
    by_cases hg : kSpeechThreshold ≤ g.prob
    · rw [silentTail_loud _ _ hg]
      exact Nat.zero_le _
    · rw [silentTail_low _ _ hg, silentTail_low _ _ hg]
      omega

theorem Quiet.low {fs : List (AudioFrame α)} (h : Quiet fs) {f : AudioFrame α}
    (hf : ¬ kSpeechThreshold ≤ f.prob) : Quiet (fs ++ [f]) := by
  rcases h with h | h
  · refine .inl fun g hg => ?_
    rcases List.mem_append.1 hg with hg | hg
    · exact h g hg
    · rw [List.mem_singleton.1 hg]
      exact not_le.1 hf
  · right
    rw [silentTail_low _ _ hf]
    omega

/-- Speech goes on with a frame behind which not enough silent ones stand. -/
theorem SpeechGoesOn.snoc {fs : List (AudioFrame α)} (h : SpeechGoesOn fs) {f : AudioFrame α}
    (hf : silentTail (fs ++ [f]) < kSilenceFrames) : SpeechGoesOn (fs ++ [f]) := by
  intro part hpart
  rcases List.prefix_concat_iff.1 hpart with rfl | hpart
  · exact hf
  · exact h part hpart

/-- What is left of the frames behind the mode switch is what is behind the onset and more. -/
theorem sinceSwitch_onset {log older since : List (Entry α)} {epoch : Nat} {onset : AudioFrame α}
    (h : Onset log epoch older onset since) :
    sinceSwitch log = sinceSwitch older ++ onset :: framesOf since := by
  have key : ∀ es : List (Entry α),
      (∀ e ∈ es, (∃ h, e = .poll h) ∨ ∃ f, e = .frame f ∧ f.epoch = epoch) →
      sinceSwitch (older ++ .frame onset :: es) =
        sinceSwitch older ++ onset :: framesOf es := by
    intro es
    induction es using List.reverseRecOn with
    | nil =>
      intro _
      rw [sinceSwitch_frame]
      rfl
    | append_singleton es e ih =>
      intro hes
      have ih := ih fun e he => hes e (List.mem_append_left _ he)
      rw [← List.cons_append, ← List.append_assoc]
      rcases hes e (by simp) with ⟨h, rfl⟩ | ⟨f, rfl, _⟩
      · rw [sinceSwitch_poll, framesOf_poll, ih]
      · rw [sinceSwitch_frame, framesOf_frame, ih]
        simp
  rw [h.log_eq]
  exact key since h.captured

/-! ## The open utterance -/

section Press

variable {log older since rest : List (Entry α)} {epoch : Nat}

theorem Press.begin (h : lastPoll log = false) :
    Press (log ++ [.poll true]) epoch log [] [] where
  log_eq := rfl
  pressed := h
  held := by simp
  released := by simp

theorem Press.hold (h : Press log epoch older since []) {e : Entry α}
    (he : e = .poll true ∨ ∃ f, e = .frame f ∧ f.epoch = epoch) :
    Press (log ++ [e]) epoch older (since ++ [e]) [] where
  log_eq := by rw [h.log_eq]; simp
  pressed := h.pressed
  held := by
    intro d hd
    rcases List.mem_append.1 hd with hd | hd
    · exact h.held d hd
    · rw [List.mem_singleton.1 hd]
      exact he
  released := by simp

theorem Press.release (h : Press log epoch older since rest) :
    Press (log ++ [.poll false]) epoch older since (rest ++ [.poll false]) where
  log_eq := by rw [h.log_eq]; simp
  pressed := h.pressed
  held := h.held
  released := by
    intro d hd
    rcases List.mem_append.1 hd with hd | hd
    · exact h.released d hd
    · exact List.mem_singleton.1 hd

variable {onset : AudioFrame α}

theorem Onset.begin (hquiet : Quiet (sinceSwitch log)) (hloud : kSpeechThreshold ≤ onset.prob)
    (hepoch : onset.epoch = epoch) :
    Onset (log ++ [.frame onset]) epoch log onset [] where
  log_eq := rfl
  quiet := hquiet
  loud := hloud
  onset_epoch := hepoch
  captured := by simp
  goesOn := by
    intro part hpart
    have hnil : SpeechGoesOn ([] : List (AudioFrame α)) := fun part hpart => by
      rw [List.prefix_nil.1 hpart]
      exact Nat.zero_lt_succ 19
    refine hnil.snoc (f := onset) ?_ part hpart
    rw [silentTail_loud _ _ hloud]
    decide

/-- An entry of the utterance's own mode leaves it open, unless the silence has become long. -/
theorem Onset.snoc (h : Onset log epoch older onset since) {e : Entry α}
    (he : (∃ held, e = .poll held) ∨ ∃ f, e = .frame f ∧ f.epoch = epoch)
    (hgoes : SpeechGoesOn (onset :: framesOf (since ++ [e]))) :
    Onset (log ++ [e]) epoch older onset (since ++ [e]) where
  log_eq := by rw [h.log_eq]; simp
  quiet := h.quiet
  loud := h.loud
  onset_epoch := h.onset_epoch
  captured := by
    intro d hd
    rcases List.mem_append.1 hd with hd | hd
    · exact h.captured d hd
    · rw [List.mem_singleton.1 hd]
      exact he
  goesOn := hgoes

theorem Onset.poll (h : Onset log epoch older onset since) (held : Bool) :
    Onset (log ++ [.poll held]) epoch older onset (since ++ [.poll held]) := by
  refine h.snoc (.inl ⟨held, rfl⟩) ?_
  rw [framesOf_poll]
  exact h.goesOn

theorem Onset.frame (h : Onset log epoch older onset since) {f : AudioFrame α}
    (hepoch : f.epoch = epoch)
    (hf : silentTail (onset :: framesOf since ++ [f]) < kSilenceFrames) :
    Onset (log ++ [.frame f]) epoch older onset (since ++ [.frame f]) := by
  refine h.snoc (.inr ⟨f, rfl, hepoch⟩) ?_
  rw [framesOf_frame, ← List.cons_append]
  exact h.goesOn.snoc hf

end Press

/-- **The invariant.** The flags and the buffer are those of the utterance that is open in the
    log, and all that has been transcribed is one utterance each. -/
structure LoopInv (vadLoaded : Bool) (s : MainLoop α) : Prop where
  poll : s.pttHeld = lastPoll s.log
  queued : ∀ f ∈ s.audioQueue, f.epoch = s.epoch
  drained : ∀ f ∈ s.frames, f.epoch = s.epoch
  noPress : s.alwaysOn = true → s.pttWasHeld = false
  noSpeech : s.alwaysOn = false ∨ vadLoaded = false → s.inSpeech = false
  /-- The button is held: a press is open, and the buffer has its frames, if there are any. -/
  held : s.alwaysOn = false → s.pttHeld = true → ∃ older since,
    Press s.log s.epoch older since [] ∧
      (if s.pttWasHeld = true then s.speechBuf else []) = samplesOf since
  /-- The button is released, and no frame has been processed since. -/
  released : s.alwaysOn = false → s.pttHeld = false → s.pttWasHeld = true → ∃ older since rest,
    Press s.log s.epoch older since rest ∧ rest ≠ [] ∧ s.speechBuf = samplesOf since
  silent : s.alwaysOn = true → vadLoaded = true → s.inSpeech = false → Quiet (sinceSwitch s.log)
  speaking : s.inSpeech = true → ∃ older onset since,
    Onset s.log s.epoch older onset since ∧ s.speechBuf = onset.samples ++ samplesOf since ∧
      s.silenceCount = silentTail (onset :: framesOf since)
  transcribed : ∀ u ∈ s.transcribed, u.OneUtterance

variable {vadLoaded : Bool} {s : MainLoop α}

/-- What is left to say in always-on mode. -/
theorem LoopInv.ofAlwaysOn (hmode : s.alwaysOn = true) (hvad : vadLoaded = true)
    (poll : s.pttHeld = lastPoll s.log) (queued : ∀ f ∈ s.audioQueue, f.epoch = s.epoch)
    (drained : ∀ f ∈ s.frames, f.epoch = s.epoch) (noPress : s.pttWasHeld = false)
    (silent : s.inSpeech = false → Quiet (sinceSwitch s.log))
    (speaking : s.inSpeech = true → ∃ older onset since,
      Onset s.log s.epoch older onset since ∧ s.speechBuf = onset.samples ++ samplesOf since ∧
        s.silenceCount = silentTail (onset :: framesOf since))
    (transcribed : ∀ u ∈ s.transcribed, u.OneUtterance) : LoopInv vadLoaded s where
  poll := poll
  queued := queued
  drained := drained
  noPress := fun _ => noPress
  noSpeech := by simp [hmode, hvad]
  held := by simp [hmode]
  released := by simp [hmode]
  silent := fun _ _ => silent
  speaking := speaking
  transcribed := transcribed

/-- What is left to say in push-to-talk mode. -/
theorem LoopInv.ofPushToTalk (hmode : s.alwaysOn = false)
    (poll : s.pttHeld = lastPoll s.log) (queued : ∀ f ∈ s.audioQueue, f.epoch = s.epoch)
    (drained : ∀ f ∈ s.frames, f.epoch = s.epoch) (noSpeech : s.inSpeech = false)
    (held : s.pttHeld = true → ∃ older since, Press s.log s.epoch older since [] ∧
      (if s.pttWasHeld = true then s.speechBuf else []) = samplesOf since)
    (released : s.pttHeld = false → s.pttWasHeld = true → ∃ older since rest,
      Press s.log s.epoch older since rest ∧ rest ≠ [] ∧ s.speechBuf = samplesOf since)
    (transcribed : ∀ u ∈ s.transcribed, u.OneUtterance) : LoopInv vadLoaded s where
  poll := poll
  queued := queued
  drained := drained
  noPress := by simp [hmode]
  noSpeech := fun _ => noSpeech
  held := fun _ => held
  released := fun _ => released
  silent := by simp [hmode]
  speaking := by simp [noSpeech]
  transcribed := transcribed

/-! ## One frame -/

/-- What `transcribe` leaves. -/
theorem transcribe_cases (s : MainLoop α) : ∃ us,
    transcribe s = { s with speechBuf := [], transcribed := us } ∧
      ∀ u ∈ us, u ∈ s.transcribed ∨ u = ⟨s.alwaysOn, s.epoch, s.speechBuf, s.log⟩ := by
  unfold transcribe
  split
  · exact ⟨s.transcribed, rfl, fun u hu => .inl hu⟩
  · refine ⟨_, rfl, fun u hu => ?_⟩
    rcases List.mem_append.1 hu with hu | hu
    · exact .inl hu
    · exact .inr (List.mem_singleton.1 hu)

/-- A frame in always-on mode. -/
theorem LoopInv.vadFrame (h : LoopInv vadLoaded s) (hmode : s.alwaysOn = true)
    (hvad : vadLoaded = true) {f : AudioFrame α} (hf : f.epoch = s.epoch) :
    LoopInv vadLoaded (vadFrame { s with log := s.log ++ [.frame f] } f) := by
  have hpoll : s.pttHeld = lastPoll (s.log ++ [.frame f]) := by rw [lastPoll_frame, h.poll]
  have hnone := h.noPress hmode
  unfold Captions.vadFrame
  dsimp only
  by_cases hloud : kSpeechThreshold ≤ f.prob
  · rw [if_pos hloud]
    refine .ofAlwaysOn hmode hvad hpoll h.queued h.drained hnone (by simp) (fun _ => ?_)
      h.transcribed
    dsimp only
    by_cases hspeech : s.inSpeech = true
    · obtain ⟨older, onset, since, honset, hbuf, _⟩ := h.speaking hspeech
      have hzero : silentTail (onset :: framesOf since ++ [f]) = 0 := silentTail_loud _ _ hloud
      refine ⟨older, onset, since ++ [.frame f], honset.frame hf (hzero ▸ by decide), ?_, ?_⟩
      · rw [if_pos hspeech, hbuf, samplesOf_frame, List.append_assoc]
      · rw [framesOf_frame, ← List.cons_append, hzero]
    · have hquiet := h.silent hmode hvad (by simpa using hspeech)
      refine ⟨s.log, f, [], Onset.begin hquiet hloud hf, ?_, ?_⟩
      · simp [hspeech]
      · exact (silentTail_loud [] f hloud).symm
  · rw [if_neg hloud]
    by_cases hspeech : s.inSpeech = true
    · rw [if_pos hspeech]
      obtain ⟨older, onset, since, honset, hbuf, hcount⟩ := h.speaking hspeech
      have htail : silentTail (onset :: framesOf since ++ [f]) = s.silenceCount + 1 := by
        rw [silentTail_low _ _ hloud, hcount]
      have hlt : s.silenceCount < kSilenceFrames := by
        rw [hcount]
        exact honset.goesOn _ List.prefix_rfl
      by_cases hend : kSilenceFrames ≤ s.silenceCount + 1
      · rw [if_pos hend]
        obtain ⟨us, heq, hus⟩ := transcribe_cases
          { s with log := s.log ++ [.frame f], silenceCount := s.silenceCount + 1, inSpeech := false }
        rw [heq]
        refine .ofAlwaysOn hmode hvad hpoll h.queued h.drained hnone (fun _ => ?_) (by simp)
          fun u hu => ?_
        · right
          have hle := silentTail_append_le (sinceSwitch older) (onset :: framesOf since ++ [f])
          dsimp only
          rw [sinceSwitch_frame, sinceSwitch_onset honset, List.append_assoc]
          omega
        · rcases hus u hu with hu | rfl
          · exact h.transcribed u hu
          · rw [Transcription.OneUtterance, if_pos hmode]
            exact ⟨s.log, f, older, onset, since, rfl, honset, by omega, hbuf⟩
      · rw [if_neg hend]
        refine .ofAlwaysOn hmode hvad hpoll h.queued h.drained hnone (by simp [hspeech])
          (fun _ => ?_) h.transcribed
        refine ⟨older, onset, since ++ [.frame f], honset.frame hf (by omega), ?_, ?_⟩
        · dsimp only
          rw [hbuf, samplesOf_frame, List.append_assoc]
        · dsimp only
          rw [framesOf_frame, ← List.cons_append, htail]
    · rw [if_neg hspeech]
      refine .ofAlwaysOn hmode hvad hpoll h.queued h.drained hnone (fun hs => ?_)
        (fun hs => absurd hs hspeech) h.transcribed
      dsimp only at hs ⊢
      rw [sinceSwitch_frame]
      exact (h.silent hmode hvad hs).low hloud

/-- A frame in push-to-talk mode. -/
theorem LoopInv.pttFrame (h : LoopInv vadLoaded s) (hmode : s.alwaysOn = false)
    {f : AudioFrame α} (hf : f.epoch = s.epoch) :
    LoopInv vadLoaded (pttFrame { s with log := s.log ++ [.frame f] } f) := by
  have hpoll : s.pttHeld = lastPoll (s.log ++ [.frame f]) := by rw [lastPoll_frame, h.poll]
  have hsilent := h.noSpeech (.inl hmode)
  unfold Captions.pttFrame
  dsimp only
  by_cases hheld : s.pttHeld = true
  · rw [if_pos hheld]
    refine .ofPushToTalk hmode hpoll h.queued h.drained hsilent (fun _ => ?_)
      (fun hno => absurd hno (by simp [hheld])) h.transcribed
    obtain ⟨older, since, hpress, hbuf⟩ := h.held hmode hheld
    refine ⟨older, since ++ [.frame f], hpress.hold (.inr ⟨f, rfl, hf⟩), ?_⟩
    dsimp only
    rw [if_pos rfl, samplesOf_frame, hbuf]
  · rw [if_neg hheld]
    have hno : s.pttHeld = false := by simpa using hheld
    by_cases hwas : s.pttWasHeld = true
    · rw [if_pos hwas]
      obtain ⟨us, heq, hus⟩ := transcribe_cases
        { s with log := s.log ++ [.frame f], pttWasHeld := false }
      rw [heq]
      refine .ofPushToTalk hmode hpoll h.queued h.drained hsilent (fun hy => absurd hy hheld)
        (by simp) fun u hu => ?_
      rcases hus u hu with hu | rfl
      · exact h.transcribed u hu
      · obtain ⟨older, since, rest, hpress, hrest, hbuf⟩ := h.released hmode hno hwas
        rw [Transcription.OneUtterance, if_neg (by simp [hmode])]
        exact ⟨s.log, f, older, since, rest, rfl, hpress, hrest, hbuf⟩
    · rw [if_neg hwas]
      exact .ofPushToTalk hmode hpoll h.queued h.drained hsilent (fun hy => absurd hy hheld)
        (fun _ hy => absurd hy hwas) h.transcribed

/-- Any frame. -/
theorem LoopInv.processFrame (h : LoopInv vadLoaded s) {f : AudioFrame α}
    (hf : f.epoch = s.epoch) : LoopInv vadLoaded (processFrame vadLoaded s f) := by
  unfold Captions.processFrame
  dsimp only
  by_cases hmode : s.alwaysOn = true
  · by_cases hvad : vadLoaded = true
    · rw [if_pos ⟨hmode, hvad⟩]
      exact h.vadFrame hmode hvad hf
    · rw [if_neg (fun hboth => hvad hboth.2), if_neg (by simp [hmode])]
      -- without a voice detector always-on mode leaves its frames
      have hsilent := h.noSpeech (.inr (by simpa using hvad))
      exact {
        poll := by rw [lastPoll_frame]; exact h.poll
        queued := h.queued
        drained := h.drained
        noPress := h.noPress
        noSpeech := h.noSpeech
        held := fun hno => absurd hno (by simp [hmode])
        released := fun hno => absurd hno (by simp [hmode])
        silent := fun _ hv => absurd hv hvad
        speaking := fun hs => absurd hs (by simp [hsilent])
        transcribed := h.transcribed }
  · have hptt : s.alwaysOn = false := by simpa using hmode
    rw [if_neg (fun hboth => hmode hboth.1), if_pos hptt]
    exact h.pttFrame hptt hf

theorem transcribe_epoch (s : MainLoop α) : (transcribe s).epoch = s.epoch := by
  obtain ⟨us, heq, _⟩ := transcribe_cases s
  rw [heq]

/-- Processing a frame is no mode switch. -/
theorem processFrame_epoch (vadLoaded : Bool) (s : MainLoop α) (f : AudioFrame α) :
    (processFrame vadLoaded s f).epoch = s.epoch := by
  unfold processFrame vadFrame pttFrame
  dsimp only
  split_ifs <;> first | rfl | exact transcribe_epoch _

/-- The frames of a turn. -/
theorem LoopInv.foldl {fs : List (AudioFrame α)} (h : LoopInv vadLoaded s)
    (hfs : ∀ f ∈ fs, f.epoch = s.epoch) :
    LoopInv vadLoaded (fs.foldl (Captions.processFrame vadLoaded) s) := by
  induction fs generalizing s with
  | nil => exact h
  | cons f fs ih =>
    refine ih (h.processFrame (hfs f (List.mem_cons_self ..))) fun g hg => ?_
    rw [processFrame_epoch]
    exact hfs g (List.mem_cons_of_mem f hg)

/-! ## One step -/

theorem LoopInv.poll_step (h : LoopInv vadLoaded s) {held : Bool}
    (hclean : held = true → s.pttWasHeld = true → s.pttHeld = true) :
    LoopInv vadLoaded
      { s with pttHeld := held, point := .drain, log := s.log ++ [.poll held] } where
  poll := (lastPoll_poll s.log held).symm
  queued := h.queued
  drained := h.drained
  noPress := h.noPress
  noSpeech := h.noSpeech
  held := by
    intro hmode hheld
    dsimp only at hheld ⊢
    rw [hheld]
    by_cases hbefore : s.pttHeld = true
    · obtain ⟨older, since, hpress, hbuf⟩ := h.held hmode hbefore
      exact ⟨older, since ++ [.poll true], hpress.hold (.inl rfl), by rw [samplesOf_poll, hbuf]⟩
    · -- a press: no utterance is open
      have hwas : ¬ s.pttWasHeld = true := fun hwas => hbefore (hclean hheld hwas)
      have hno : lastPoll s.log = false := by
        rw [← h.poll]
        simpa using hbefore
      exact ⟨s.log, [], Press.begin hno, by rw [if_neg hwas, samplesOf_nil]⟩
  released := by
    intro hmode hno hwas
    dsimp only at hno ⊢
    rw [hno]
    by_cases hbefore : s.pttHeld = true
    · obtain ⟨older, since, hpress, hbuf⟩ := h.held hmode hbefore
      rw [if_pos hwas] at hbuf
      exact ⟨older, since, [.poll false], hpress.release, by simp, hbuf⟩
    · obtain ⟨older, since, rest, hpress, _, hbuf⟩ :=
        h.released hmode (by simpa using hbefore) hwas
      exact ⟨older, since, rest ++ [.poll false], hpress.release, by simp, hbuf⟩
  silent := by
    intro hmode hvad hs
    dsimp only
    rw [sinceSwitch_poll]
    exact h.silent hmode hvad hs
  speaking := by
    intro hs
    obtain ⟨older, onset, since, honset, hbuf, hcount⟩ := h.speaking hs
    exact ⟨older, onset, since ++ [.poll held], honset.poll held,
      by rw [samplesOf_poll]; exact hbuf, by rw [framesOf_poll]; exact hcount⟩
  transcribed := h.transcribed

/-- A switch that finds nothing waiting and nothing open. -/
theorem LoopInv.switch (h : LoopInv vadLoaded s) (hqueue : s.audioQueue = [])
    (hframes : s.frames = []) (hspeech : s.inSpeech = false) (hwas : s.pttWasHeld = false)
    {mode : Nat} (hheld : mode ≠ 1 → s.pttHeld = false) :
    LoopInv vadLoaded
      { s with alwaysOn := mode == 1, epoch := s.epoch + 1, log := s.log ++ [.switched] } where
  poll := by
    dsimp only
    rw [lastPoll_switched]
    exact h.poll
  queued := by simp [hqueue]
  drained := by simp [hframes]
  noPress := fun _ => hwas
  noSpeech := fun _ => hspeech
  held := fun hmode hy => absurd (hheld (by simpa using hmode)) (by simpa using hy)
  released := fun _ _ hy => absurd hwas (by simpa using hy)
  silent := fun _ _ _ => by
    dsimp only
    rw [sinceSwitch_switched]
    exact .inl (by simp)
  speaking := fun hy => absurd hspeech (by simpa using hy)
  transcribed := h.transcribed

/-- **Every step that meets the condition keeps the invariant.** -/
theorem loopStep_inv {t : MainLoop α} {a : LoopAction α} (h : LoopInv vadLoaded s)
    (hclean : MeetsNoUtterance s a) (hstep : loopStep vadLoaded s a = some t) :
    LoopInv vadLoaded t := by
  cases a with
  | capture samples prob =>
    cases hstep
    exact { h with
      queued := by
        intro f hf
        rcases List.mem_append.1 hf with hf | hf
        · exact h.queued f hf
        · rw [List.mem_singleton.1 hf] }
  | setMode mode =>
    rw [loopStep] at hstep
    split at hstep
    · cases hstep
      exact h
    · rename_i hne
      cases hstep
      obtain ⟨hqueue, hframes, hspeech, hwas, hheld⟩ := hclean hne
      exact h.switch hqueue hframes hspeech hwas hheld
  | poll held =>
    rw [loopStep] at hstep
    split at hstep
    · cases hstep
      exact h.poll_step hclean
    · cases hstep
  | drain =>
    rw [loopStep] at hstep
    split at hstep
    · cases hstep
      exact { h with queued := by simp, drained := h.queued }
    · cases hstep
  | process =>
    rw [loopStep] at hstep
    split at hstep
    · cases hstep
      exact { h.foldl h.drained with drained := by simp }
    · cases hstep

theorem start_inv (mode : Nat) : LoopInv vadLoaded (MainLoop.start mode : MainLoop α) where
  poll := rfl
  queued := by simp [MainLoop.start]
  drained := by simp [MainLoop.start]
  noPress := fun _ => rfl
  noSpeech := fun _ => rfl
  held := by simp [MainLoop.start]
  released := by simp [MainLoop.start]
  silent := fun _ _ _ => .inl (by simp [MainLoop.start, sinceSwitch])
  speaking := by simp [MainLoop.start]
  transcribed := by simp [MainLoop.start]

/-- **In every run whose steps meet the condition, every buffer handed to `Transcribe` is one
    utterance of the mode it is transcribed in.** -/
theorem utterances_one_mode (vadLoaded : Bool) (mode : Nat) (actions : List (LoopAction α))
    (h : AllSteps (loopStep vadLoaded) MeetsNoUtterance (MainLoop.start mode) actions) :
    Always (loopStep vadLoaded) (fun s => ∀ u ∈ s.transcribed, u.OneUtterance)
      (MainLoop.start mode) actions :=
  Always.of_inv (I := LoopInv vadLoaded) (fun _ _ _ hs hc ht => loopStep_inv hs hc ht)
    (fun _ hs => hs.transcribed) (start_inv mode) h

instance (s : MainLoop α) [DecidableEq α] (a : LoopAction α) : Decidable (MeetsNoUtterance s a) :=
  match a with
  | .setMode mode => inferInstanceAs (Decidable ((mode == 1) ≠ s.alwaysOn → _ ∧ _))
  | .poll held => inferInstanceAs (Decidable (held = true → _))
  | .capture _ _ => isTrue trivial
  | .drain => isTrue trivial
  | .process => isTrue trivial

/-- A tenth of a second of samples. -/
def longFrame : List ℤ := List.replicate 1600 0

/-- An utterance between a press and its release, then a switch. -/
theorem utterances_one_mode_press :
    Always (loopStep true) (fun s => ∀ u ∈ s.transcribed, u.OneUtterance)
      (MainLoop.start 0 : MainLoop ℤ)
      [.poll true, .capture longFrame 0, .drain, .process, .poll false, .capture [0] 0, .drain,
        .process, .setMode 1] :=
  utterances_one_mode true 0 _ (by decide +kernel)

/-- What the loop has seen before the last frame. -/
def acrossLog : List (Entry ℤ) :=
  [.poll true, .frame ⟨longFrame, 0, 0⟩, .switched, .switched, .poll false]

/-- The mode is switched and switched back while the button is held, and the button is released:
    the buffer of before the switches is transcribed without a press behind them. -/
theorem utterance_across_switches :
    ∃ s : MainLoop ℤ, runTo (loopStep true) (MainLoop.start 0)
        [.poll true, .capture longFrame 0, .drain, .process, .setMode 1, .setMode 0,
          .poll false, .capture [0] 0, .drain, .process] = some s ∧
      ∃ u ∈ s.transcribed, ¬ u.OneUtterance := by
  refine ⟨_, rfl, ⟨false, 2, longFrame, acrossLog ++ [.frame ⟨[0], 0, 2⟩]⟩, by decide +kernel, ?_⟩
  rintro ⟨log, closing, older, since, rest, hlog, hpress, -, hsamples⟩
  have hbefore : acrossLog = log := (List.append_inj' hlog rfl).1
  -- the only frame before the last one was captured before the switches
  have hnone : ∀ e ∈ since, e = .poll true := by
    intro e he
    rcases hpress.held e he with h | ⟨f, rfl, hepoch⟩
    · exact h
    · have hmem : Entry.frame f ∈ log := by
        rw [hpress.log_eq]
        simp [he]
      rw [← hbefore, acrossLog] at hmem
      simp only [List.mem_cons, Entry.frame.injEq, reduceCtorEq, List.not_mem_nil, or_false,
        false_or] at hmem
      rw [hmem] at hepoch
      cases hepoch
  have hempty : samplesOf since = [] := by
    rw [samplesOf, List.flatMap_eq_nil_iff]
    intro e he
    rw [hnone e he]
  rw [hempty] at hsamples
  cases hsamples

end WKPairDriver.Captions
