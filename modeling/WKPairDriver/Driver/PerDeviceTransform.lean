import Mathlib
import WKPairDriver.Driver.DeviceTransforms
import WKPairDriver.Lib.Run

/-!
# A device's own transform against the fallback of its tracking system

Pose updates of any devices, on any number of threads, run against the requests of the overlay.  A
pose update that queries the tracking system of its device stands between its two locked sections
meanwhile.

* `Kept` — what an operation other than `SetDeviceTransform` leaves of an entry.
* `step` — one locked section of a request or of a pose update.
* `perDevice_wins` — the target and scale of an enabled transform are those `SetDeviceTransform`
  set, while no pose update comes back from its query to a transform enabled meanwhile whose system
  has a fallback, and no message enables a transform without what it is missing.
* `enabledDuringQuery_overwritten` — a transform enabled during a query loses to the fallback.
-/

set_option autoImplicit false

namespace WKPairDriver.Driver

open Lib Lib.Bytes

variable {V Q S P : Type}

/-! ## What the operations keep -/

/-- An entry that is enabled and follows no fallback keeps its target and scale. -/
structure Kept (tf tf' : DeviceTransform V Q S) : Prop where
  enabled : tf'.enabled = tf.enabled
  own : tf.enabled = true → tf.fallbackActive = false →
    tf'.fallbackActive = false ∧ tf'.targetTransform = tf.targetTransform ∧ tf'.scale = tf.scale

theorem Kept.refl (tf : DeviceTransform V Q S) : Kept tf tf := ⟨rfl, fun _ h => ⟨h, rfl, rfl⟩⟩

theorem Kept.trans {tf tf' tf'' : DeviceTransform V Q S} (h : Kept tf tf') (h' : Kept tf' tf'') :
    Kept tf tf'' := by
  refine ⟨h'.enabled.trans h.enabled, fun he hf => ?_⟩
  obtain ⟨hf', htarget, hscale⟩ := h.own he hf
  obtain ⟨hf'', htarget', hscale'⟩ := h'.own (h.enabled.trans he) hf'
  exact ⟨hf'', htarget'.trans htarget, hscale'.trans hscale⟩

/-- Only the transform, the clock and the rate change. -/
theorem Kept.blend (tf : DeviceTransform V Q S) (m : PoseMath V Q S P) (pose : P) (poll : ℤ) :
    Kept tf (tf.blend m pose poll) := ⟨rfl, fun _ h => ⟨h, rfl, rfl⟩⟩

/-- An entry that is disabled, or followed a fallback, may change but for that. -/
theorem Kept.of_not_own {tf tf' : DeviceTransform V Q S} (henabled : tf'.enabled = tf.enabled)
    (h : tf.enabled = true → tf.fallbackActive = true) : Kept tf tf' :=
  ⟨henabled, fun he hf => by
    rw [h he] at hf
    cases hf⟩

theorem DeviceTransform.follow_enabled (tf : DeviceTransform V Q S) (fb : FallbackTransform V Q S)
    (now : ℤ) : (tf.follow fb now).enabled = tf.enabled := by
  unfold follow
  dsimp only
  split <;> rfl

namespace Provider

variable {p : Provider V Q S}

/-- A change of one entry that keeps it keeps all. -/
theorem setTransform_kept {id : Fin k_unMaxTrackedDeviceCount} {tf : DeviceTransform V Q S}
    (h : Kept (p.transforms id) tf) (id' : Fin k_unMaxTrackedDeviceCount) :
    Kept (p.transforms id') ((p.setTransform id tf).transforms id') := by
  by_cases hid : id' = id
  · subst hid
    simpa [setTransform] using h
  · simpa [setTransform, hid] using Kept.refl _

theorem setTrackingSystemFallback_kept (m : PoseMath V Q S P)
    (msg : SetTrackingSystemFallback V Q S) (now : ℤ) (id : Fin k_unMaxTrackedDeviceCount) :
    Kept (p.transforms id) ((p.setTrackingSystemFallback m msg now).transforms id) := by
  unfold setTrackingSystemFallback
  dsimp only
  split_ifs with hempty hdisable
  · exact Kept.refl _
  · dsimp only
    split_ifs with hfollow
    · exact Kept.of_not_own rfl fun _ => (Bool.and_eq_true_iff.1 hfollow).1
    · exact Kept.refl _
  · split <;> exact Kept.refl _

/-- A device follows a fallback only from a disabled transform, or where it overwrites it. -/
theorem followFallback_kept (m : PoseMath V Q S P) {id : Fin k_unMaxTrackedDeviceCount}
    (h : (p.transforms id).enabled = true → p.enabledFallback id = none) (pose : P) (now poll : ℤ)
    (id' : Fin k_unMaxTrackedDeviceCount) :
    Kept (p.transforms id') ((p.followFallback m id pose now poll).1.transforms id') := by
  unfold followFallback
  dsimp only
  split
  · exact Kept.refl _
  · split
    · rename_i fb hfb
      have hfollow : Kept (p.transforms id) ((p.transforms id).follow fb now) :=
        Kept.of_not_own (DeviceTransform.follow_enabled ..) fun he => by
          rw [h he] at hfb
          cases hfb
      exact setTransform_kept (hfollow.trans (Kept.blend ..)) id'
    · split
      · rename_i hactive
        have hleave : Kept (p.transforms id) ((p.transforms id).leaveFallback now) :=
          Kept.of_not_own rfl fun _ => hactive
        exact setTransform_kept hleave id'
      · exact Kept.refl _

theorem handleDevicePoseUpdated_kept (m : PoseMath V Q S P) (id : Fin k_unMaxTrackedDeviceCount)
    (pose : P) (synthSlot : Bool) (now poll : ℤ) (id' : Fin k_unMaxTrackedDeviceCount) :
    Kept (p.transforms id')
      ((p.handleDevicePoseUpdated m id pose synthSlot now poll).1.transforms id') := by
  have hquash : Kept (p.transforms id)
      { p.transforms id with prevQuash := (p.transforms id).quash } :=
    ⟨rfl, fun _ h => ⟨h, rfl, rfl⟩⟩
  have hq := setTransform_kept hquash
  unfold handleDevicePoseUpdated
  dsimp only
  split_ifs with hhidden hsynth henabled hdue
  · exact (hq id').trans (setTransform_kept (by simpa [setTransform] using Kept.blend ..) id')
  · exact (hq id').trans (setTransform_kept (by simpa [setTransform] using Kept.refl _) id')
  · exact (hq id').trans (setTransform_kept (by simpa [setTransform] using Kept.blend ..) id')
  · exact hq id'
  · exact (hq id').trans (followFallback_kept m
      (fun he => absurd (by simpa [setTransform] using he) henabled) ..)

theorem storeLookup_transforms (id : Fin k_unMaxTrackedDeviceCount)
    (queried : Option (List UInt8)) (now : ℤ) :
    (p.storeLookup id queried now).transforms = p.transforms := by
  unfold storeLookup
  split
  · split <;> rfl
  · rfl

theorem resumePoseUpdate_kept (m : PoseMath V Q S P) {id : Fin k_unMaxTrackedDeviceCount}
    {queried : Option (List UInt8)} {now : ℤ}
    (h : (p.transforms id).enabled = true →
      (p.storeLookup id queried now).enabledFallback id = none) (pose : P) (poll : ℤ)
    (id' : Fin k_unMaxTrackedDeviceCount) :
    Kept (p.transforms id') ((p.resumePoseUpdate m id pose queried now poll).1.transforms id') := by
  have htf := p.storeLookup_transforms id queried now
  have := followFallback_kept (p := p.storeLookup id queried now) m
    (fun he => h (by rwa [htf] at he)) pose now poll id'
  rwa [htf] at this

/-- Coming back from its query to an enabled fallback, a pose update makes it the target of the
    entry, whether the transform is enabled by then or not. -/
theorem resumePoseUpdate_overwrites (m : PoseMath V Q S P) {id : Fin k_unMaxTrackedDeviceCount}
    {queried : Option (List UInt8)} {now : ℤ} {fb : FallbackTransform V Q S}
    (h : (p.storeLookup id queried now).enabledFallback id = some fb) (pose : P) (poll : ℤ) :
    ((p.resumePoseUpdate m id pose queried now poll).1.transforms id).targetTransform =
      fb.transform ∧
    ((p.resumePoseUpdate m id pose queried now poll).1.transforms id).scale = fb.scale := by
  have hsys : (p.storeLookup id queried now).deviceSystem id ≠ [] := by
    intro hempty
    simp [enabledFallback, findFallbackSlot, hempty] at h
  simp only [resumePoseUpdate, followFallback, if_neg hsys, h, setTransform, Function.update_self]
  unfold DeviceTransform.follow
  dsimp only [DeviceTransform.blend]
  constructor <;> split <;> rfl

end Provider

/-! ## Runs -/

/-- What `SetDeviceTransform` set last. -/
structure LastSet (V Q S : Type) where
  targetTransform : IsoTransform V Q
  scale : S

/-- The record after a message to an entry: what it carries, and the target a disable transition
    leaves. -/
def LastSet.record (l : LastSet V Q S) (tf : DeviceTransform V Q S) (msg : SetDeviceTransform V Q S)
    (now : ℤ) : LastSet V Q S where
  targetTransform :=
    if tf.enabled && !msg.enabled then (tf.set msg now).targetTransform
    else
      ⟨if msg.updateTranslation then msg.translation else l.targetTransform.translation,
       if msg.updateRotation then msg.rotation else l.targetTransform.rotation⟩
  scale := if msg.updateScale then msg.scale else l.scale

/-- The driver, the pose updates that query a tracking system, and history: what
    `SetDeviceTransform` set last for each device. -/
structure State (V Q S P : Type) where
  provider : Provider V Q S
  queries : List (Fin k_unMaxTrackedDeviceCount × P)
  lastSet : Fin k_unMaxTrackedDeviceCount → LastSet V Q S

/-- Nothing is set, and no transform and no fallback is enabled. -/
def State.new (m : PoseMath V Q S P) (qpcFreq : ℤ) : State V Q S P where
  provider := {
    transforms := fun _ =>
      ⟨false, false, false, m.identity, m.identity, m.one, 0, .TINY, false, false, false⟩
    deviceSystem := fun _ => []
    lookupState := fun _ => .NotTried
    lastLookupAttempt := fun _ => 0
    systemFallbacks := fun _ => ⟨fun _ => 0, ⟨false, m.identity, m.one, false⟩, false⟩
    qpcFreq := qpcFreq }
  queries := []
  lastSet := fun _ => ⟨m.identity, m.one⟩

inductive Action (V Q S P : Type) where
  | setDeviceTransform (msg : SetDeviceTransform V Q S) (now : ℤ)
  | setTrackingSystemFallback (msg : SetTrackingSystemFallback V Q S) (now : ℤ)
  | poseUpdated (id : Fin k_unMaxTrackedDeviceCount) (pose : P) (synthSlot : Bool) (now poll : ℤ)
  | resume (query : ℕ) (queried : Option (List UInt8)) (now poll : ℤ)

def step (m : PoseMath V Q S P) (s : State V Q S P) : Action V Q S P → Option (State V Q S P)
  | .setDeviceTransform msg now =>
    some { s with
      provider := s.provider.setDeviceTransform msg now
      lastSet := fun id =>
        if id.val = msg.openVRID then (s.lastSet id).record (s.provider.transforms id) msg now
        else s.lastSet id }
  | .setTrackingSystemFallback msg now =>
    some { s with provider := s.provider.setTrackingSystemFallback m msg now }
  | .poseUpdated id pose synthSlot now poll =>
    match s.provider.handleDevicePoseUpdated m id pose synthSlot now poll with
    | (p, some _) => some { s with provider := p }
    | (p, none) => some { s with provider := p, queries := s.queries ++ [(id, pose)] }
  | .resume query queried now poll =>
    match s.queries[query]? with
    | some (id, pose) => some { s with
        provider := (s.provider.resumePoseUpdate m id pose queried now poll).1
        queries := s.queries.eraseIdx query }
    | none => none

/-- The target and the scale of an entry are those set last. -/
def LastSet.Holds (l : LastSet V Q S) (tf : DeviceTransform V Q S) : Prop :=
  tf.targetTransform = l.targetTransform ∧ tf.scale = l.scale

/-- Every enabled transform has the target and the scale set last. -/
def PerDeviceWins (s : State V Q S P) : Prop :=
  ∀ id, (s.provider.transforms id).enabled = true → (s.lastSet id).Holds (s.provider.transforms id)

instance [DecidableEq V] [DecidableEq Q] [DecidableEq S] :
    DecidablePred (PerDeviceWins (V := V) (Q := Q) (S := S) (P := P)) := fun s => by
  unfold PerDeviceWins LastSet.Holds
  infer_instance

/-- A message that enables an entry carries each part of the target, and the scale, that is not
    the one set last. -/
def Carries (msg : SetDeviceTransform V Q S) (tf : DeviceTransform V Q S) (l : LastSet V Q S) :
    Prop :=
  (msg.updateTranslation = true ∨ tf.targetTransform.translation = l.targetTransform.translation) ∧
  (msg.updateRotation = true ∨ tf.targetTransform.rotation = l.targetTransform.rotation) ∧
  (msg.updateScale = true ∨ tf.scale = l.scale)

/-- A message that enables a transform carries what the entry is missing; and a pose update comes
    back from its query to a transform that is still disabled, or whose system has no fallback. -/
def Undisputed (s : State V Q S P) : Action V Q S P → Prop
  | .setDeviceTransform msg _ => ∀ id, id.val = msg.openVRID →
      (s.provider.transforms id).enabled = false → msg.enabled = true →
        Carries msg (s.provider.transforms id) (s.lastSet id)
  | .resume query queried now _ => ∀ l ∈ s.queries[query]?,
      (s.provider.transforms l.1).enabled = true →
        (s.provider.storeLookup l.1 queried now).enabledFallback l.1 = none
  | _ => True

instance [DecidableEq V] [DecidableEq Q] [DecidableEq S] (s : State V Q S P)
    (a : Action V Q S P) : Decidable (Undisputed s a) := by
  unfold Undisputed Carries
  split <;> infer_instance

/-! ## Invariant -/

/-- An enabled transform follows no fallback. -/
def Inv (s : State V Q S P) : Prop :=
  ∀ id, (s.provider.transforms id).enabled = true →
    (s.provider.transforms id).fallbackActive = false ∧
      (s.lastSet id).Holds (s.provider.transforms id)

variable {m : PoseMath V Q S P} {s s' : State V Q S P}

theorem Inv.new (m : PoseMath V Q S P) (qpcFreq : ℤ) : Inv (State.new m qpcFreq) := by
  intro id he
  cases he

/-- The invariant over operations that keep every entry. -/
theorem Inv.of_kept (hs : Inv s) {p : Provider V Q S}
    (h : ∀ id, Kept (s.provider.transforms id) (p.transforms id))
    (queries : List (Fin k_unMaxTrackedDeviceCount × P)) :
    Inv { s with provider := p, queries := queries } := by
  intro id he
  have he' := (h id).enabled.symm.trans he
  obtain ⟨hf, htarget, hscale⟩ := hs id he'
  obtain ⟨hf', htarget', hscale'⟩ := (h id).own he' hf
  exact ⟨hf', htarget'.trans htarget, hscale'.trans hscale⟩

theorem LastSet.record_targetTransform {l : LastSet V Q S} {tf : DeviceTransform V Q S}
    {msg : SetDeviceTransform V Q S} (now : ℤ) (he : msg.enabled = true) :
    (l.record tf msg now).targetTransform =
      ⟨if msg.updateTranslation then msg.translation else l.targetTransform.translation,
       if msg.updateRotation then msg.rotation else l.targetTransform.rotation⟩ :=
  if_neg (by simp [he])

/-- A message to an entry that is enabled after it. -/
theorem LastSet.record_holds {l : LastSet V Q S} {tf : DeviceTransform V Q S}
    {msg : SetDeviceTransform V Q S} (now : ℤ) (he : msg.enabled = true)
    (h : Carries msg tf l) : (l.record tf msg now).Holds (tf.set msg now) := by
  obtain ⟨htranslation, hrotation, hscale⟩ := h
  refine ⟨(tf.set_targetTransform now he).trans (.trans ?_ (record_targetTransform now he).symm),
    (tf.set_scale msg now).trans ?_⟩
  · congr 1
    · split
      · rfl
      · rename_i hupdate
        exact htranslation.resolve_left hupdate
    · split
      · rfl
      · rename_i hupdate
        exact hrotation.resolve_left hupdate
  · unfold record
    split
    · rfl
    · rename_i hupdate
      exact hscale.resolve_left hupdate

theorem LastSet.Holds.carries {l : LastSet V Q S} {tf : DeviceTransform V Q S} (h : l.Holds tf)
    (msg : SetDeviceTransform V Q S) : Carries msg tf l :=
  ⟨.inr (by rw [h.1]), .inr (by rw [h.1]), .inr h.2⟩

theorem setDeviceTransform_self {p : Provider V Q S} {msg : SetDeviceTransform V Q S} {now : ℤ}
    {id : Fin k_unMaxTrackedDeviceCount} (h : id.val = msg.openVRID) :
    (p.setDeviceTransform msg now).transforms id = (p.transforms id).set msg now := by
  have hlt : msg.openVRID < k_unMaxTrackedDeviceCount := h ▸ id.isLt
  have hid : (⟨msg.openVRID, hlt⟩ : Fin k_unMaxTrackedDeviceCount) = id := Fin.ext h.symm
  simp only [Provider.setDeviceTransform, dif_pos hlt, hid, Function.update_self]

theorem setDeviceTransform_of_ne {p : Provider V Q S} {msg : SetDeviceTransform V Q S} {now : ℤ}
    {id : Fin k_unMaxTrackedDeviceCount} (h : id.val ≠ msg.openVRID) :
    (p.setDeviceTransform msg now).transforms id = p.transforms id := by
  unfold Provider.setDeviceTransform
  split
  · exact Function.update_of_ne (fun hid => h (by rw [hid])) _ _
  · rfl

theorem step_inv {a : Action V Q S P} (hs : Inv s) (hc : Undisputed s a)
    (h : step m s a = some s') : Inv s' := by
  cases a with
  | setDeviceTransform msg now =>
    cases h
    intro id he
    dsimp only at he ⊢
    by_cases hid : id.val = msg.openVRID
    · rw [if_pos hid, setDeviceTransform_self hid]
      rw [setDeviceTransform_self hid, DeviceTransform.set_enabled] at he
      refine ⟨DeviceTransform.set_fallbackActive .., LastSet.record_holds now he ?_⟩
      -- an entry that was enabled has what was set last, one that was not gets it
      cases hwas : (s.provider.transforms id).enabled with
      | true => exact (hs id hwas).2.carries msg
      | false => exact hc id hid hwas he
    · rw [if_neg hid, setDeviceTransform_of_ne hid]
      rw [setDeviceTransform_of_ne hid] at he
      exact hs id he
  | setTrackingSystemFallback msg now =>
    cases h
    exact hs.of_kept (Provider.setTrackingSystemFallback_kept m msg now) s.queries
  | poseUpdated id pose synthSlot now poll =>
    have hkept := s.provider.handleDevicePoseUpdated_kept m id pose synthSlot now poll
    simp only [step] at h
    split at h
    · rename_i p _ hp
      cases h
      rw [hp] at hkept
      exact hs.of_kept hkept s.queries
    · rename_i p hp
      cases h
      rw [hp] at hkept
      exact hs.of_kept hkept _
  | resume query queried now poll =>
    simp only [step] at h
    split at h
    · rename_i id pose hquery
      cases h
      exact hs.of_kept (Provider.resumePoseUpdate_kept m (hc (id, pose) hquery) pose poll) _
    · cases h

/-- **A device's own transform wins.**  Along every interleaving of pose updates with the requests
    of the overlay in which no pose update comes back from its query to a transform enabled
    meanwhile whose system has an enabled fallback, and each message that enables a transform
    carries what its entry is missing, every enabled transform has the target and the scale
    `SetDeviceTransform` set last. -/
theorem perDevice_wins (m : PoseMath V Q S P) (qpcFreq : ℤ) (as : List (Action V Q S P))
    (h : AllSteps (step m) Undisputed (State.new m qpcFreq) as) :
    Always (step m) PerDeviceWins (State.new m qpcFreq) as :=
  Always.of_inv (fun _ _ _ hs hc hst => step_inv hs hc hst) (fun _ hs id he => (hs id he).2)
    (Inv.new m qpcFreq) h

/-! ## On a line -/

/-- Positions on a line, with an alignment speed of one over a tick of the clock. -/
def onLine : PoseMath ℤ Unit ℤ ℤ where
  identity := ⟨0, ()⟩
  one := 1
  scalePosition scale pose := scale * pose
  deltaSize _ _ src target := if src = target then .TINY else .LARGE
  blend now lastPoll _ _ src target := if lastPoll < now then target else src
  applyTransform tf pose := tf.translation + pose
  applyQuashToPose pose := pose + 10000

/-- The message for an adopted tracker of the system `lighthouse`. -/
def adopt (translation : ℤ) : SetDeviceTransform ℤ Unit ℤ :=
  ⟨5, true, true, true, true, translation, (), 2, false, false, true,
   nulPadded (ascii "lighthouse"), false⟩

def lighthouseFallback (enabled : Bool) : SetTrackingSystemFallback ℤ Unit ℤ :=
  ⟨nulPadded (ascii "lighthouse"), enabled, 30, (), 3, false⟩

/-- The tracker follows the fallback of its system, until its own transform is set. -/
def adoptedLater : List (Action ℤ Unit ℤ ℤ) :=
  [.setTrackingSystemFallback (lighthouseFallback true) 1, .poseUpdated 5 7 false 2 2,
   .resume 0 (some (ascii "lighthouse")) 3 3, .setDeviceTransform (adopt 50) 4,
   .poseUpdated 5 7 false 5 5, .setTrackingSystemFallback (lighthouseFallback false) 6]

theorem adoptedLater_wins :
    AllSteps (step onLine) Undisputed (State.new onLine 10) adoptedLater ∧
      Always (step onLine) PerDeviceWins (State.new onLine 10) adoptedLater := by
  have h : AllSteps (step onLine) Undisputed (State.new onLine 10) adoptedLater := by
    decide +kernel
  exact ⟨h, perDevice_wins onLine 10 adoptedLater h⟩

/-- The transform of the tracker is set while its first pose update queries its system. -/
def enabledDuringQuery : List (Action ℤ Unit ℤ ℤ) :=
  [.setTrackingSystemFallback (lighthouseFallback true) 1, .poseUpdated 5 7 false 2 2,
   .setDeviceTransform (adopt 50) 3, .resume 0 (some (ascii "lighthouse")) 4 4]

/-- The target and the scale of the enabled transform are those of the fallback. -/
theorem enabledDuringQuery_overwritten :
    ¬ Always (step onLine) PerDeviceWins (State.new onLine 10) enabledDuringQuery := by
  decide +kernel

end WKPairDriver.Driver
