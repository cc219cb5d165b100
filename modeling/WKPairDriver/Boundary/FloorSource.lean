import WKPairDriver.Boundary.BoundaryCapture

/-!
# Where the floor of a boundary comes from

`ResolveBoundaryFloorSource` asks four sources for the standing floor, in order: SteamVR, the saved
boundary, a controller on the floor, and a manual value.  A boundary in target space keeps its floor
in target coordinates; except for the saved one it is computed by inverting the height at the centre
of the polygon.

* `resolve_priority` — the decision is that of the first source that is not rejected, and every
  source before it has left its reason.
* `height_targetFloor_iff` — when the inverted height is one.
* `floorSource_consistent_iff` — a target-space decision maps its boundary floor to its standing
  floor exactly when the transform's vertical coefficient is not taken for zero, or no height is
  inverted, or the height that is set is the one of the target's origin plane already.

Arithmetic is exact, over any ordered field; a double that is not finite is `none`.
-/

set_option autoImplicit false

namespace WKPairDriver.Boundary.FloorSource

open Capture (BoundaryVertex)

variable {K : Type} [Field K] [LinearOrder K]

/-- A row of an affine map. -/
structure AffineRow (K : Type) where
  x : K
  y : K
  z : K
  w : K
  deriving DecidableEq

/-- `Eigen::AffineCompact3d`: the rows of its matrix. -/
structure AffineCompact3d (K : Type) where
  rowX : AffineRow K
  rowY : AffineRow K
  rowZ : AffineRow K
  deriving DecidableEq

/-- The map is a rotation and a translation. -/
structure AffineCompact3d.Rigid (t : AffineCompact3d K) : Prop where
  unitX : t.rowX.x * t.rowX.x + t.rowX.y * t.rowX.y + t.rowX.z * t.rowX.z = 1
  unitY : t.rowY.x * t.rowY.x + t.rowY.y * t.rowY.y + t.rowY.z * t.rowY.z = 1
  orthogonal : t.rowX.x * t.rowY.x + t.rowX.y * t.rowY.y + t.rowX.z * t.rowY.z = 0
  crossX : t.rowZ.x = t.rowX.y * t.rowY.z - t.rowX.z * t.rowY.y
  crossY : t.rowZ.y = t.rowX.z * t.rowY.x - t.rowX.x * t.rowY.z
  crossZ : t.rowZ.z = t.rowX.x * t.rowY.y - t.rowX.y * t.rowY.x

/-! ## Heights at the centre of a polygon -/

/-- `minX`, `maxX`, `minZ`, `maxZ`. -/
structure Extent (K : Type) where
  minX : K
  maxX : K
  minZ : K
  maxZ : K

def Extent.widen (e : Extent K) (v : BoundaryVertex K) : Extent K where
  minX := if v.x < e.minX then v.x else e.minX
  maxX := if e.maxX < v.x then v.x else e.maxX
  minZ := if v.z < e.minZ then v.z else e.minZ
  maxZ := if e.maxZ < v.z then v.z else e.maxZ

/-- The centre of the polygon's bounding rectangle, the origin without vertices. -/
def polygonCentre (targetSpace : List (BoundaryVertex K)) : K × K :=
  match targetSpace with
  | [] => (0, 0)
  | v :: _ =>
    let e := targetSpace.foldl Extent.widen ⟨v.x, v.x, v.z, v.z⟩
    ((e.minX + e.maxX) * 0.5, (e.minZ + e.maxZ) * 0.5)

/-- `TransformHeightToStandingUniverse`. -/
def TransformHeightToStandingUniverse (targetSpace : List (BoundaryVertex K)) (targetY : K)
    (targetToStanding : AffineCompact3d K) : K :=
  let m := targetToStanding.rowY
  let centre := polygonCentre targetSpace
  m.x * centre.1 + m.y * targetY + m.z * centre.2 + m.w

/-- `TargetFloorYForStandingFloor`. -/
def TargetFloorYForStandingFloor (targetSpace : List (BoundaryVertex K))
    (targetToStanding : AffineCompact3d K) (standingFloorY : K) : K :=
  let m := targetToStanding.rowY
  let centre := polygonCentre targetSpace
  if |m.y| < 1e-9 then 0
  else (standingFloorY - m.x * centre.1 - m.z * centre.2 - m.w) / m.y

/-- The height is inverted exactly, unless the coefficient counts as zero: then the result is the
    height of the target's origin plane. -/
theorem height_targetFloor_iff [IsStrictOrderedRing K] (targetSpace : List (BoundaryVertex K))
    (t : AffineCompact3d K) (standingFloorY : K) :
    TransformHeightToStandingUniverse targetSpace
        (TargetFloorYForStandingFloor targetSpace t standingFloorY) t = standingFloorY ↔
      1e-9 ≤ |t.rowY.y| ∨
        TransformHeightToStandingUniverse targetSpace 0 t = standingFloorY := by
  unfold TargetFloorYForStandingFloor
  dsimp only
  split_ifs with h
  · rw [or_iff_right (not_le.2 h)]
  · have hy : t.rowY.y ≠ 0 := by
      rintro hzero
      rw [hzero, abs_zero] at h
      exact h (by norm_num)
    refine iff_of_true ?_ (.inl (not_lt.1 h))
    rw [TransformHeightToStandingUniverse, mul_div_cancel₀ _ hy]
    ring

/-! ## The sources -/

inductive ChaperoneCalibrationState where
  | OK
  | Warning
  | Warning_BaseStationMayHaveMoved
  | Warning_BaseStationRemoved
  | Warning_SeatedBoundsInvalid
  | Error
  | Error_BaseStationUninitialized
  | Error_BaseStationConflict
  | Error_PlayAreaInvalid
  | Error_CollisionBoundsInvalid
  deriving DecidableEq

inductive BoundaryFloorSourceKind where
  | None
  | SteamVrStanding
  | SavedBoundary
  | ControllerContact
  | Manual
  deriving DecidableEq

/-- The fields of `SteamVrFloorSnapshot` that the decision reads. -/
structure SteamVrFloorSnapshot where
  chaperoneAvailable : Bool
  calibrationState : ChaperoneCalibrationState
  playAreaSizeValid : Bool
  playAreaRectValid : Bool
  chaperoneSetupAvailable : Bool
  standingZeroValid : Bool

structure BoundaryFloorSourceRequest (K : Type) where
  boundaryStandingSpace : Bool
  boundaryVertices : List (BoundaryVertex K)
  savedBoundaryFloorY : Option K
  hasSavedBoundaryFloor : Bool
  targetTransformValid : Bool
  targetToStanding : AffineCompact3d K
  controllerContactValid : Bool
  controllerContactStandingY : Option K
  manualFloorValid : Bool
  manualStandingFloorY : Option K

structure BoundaryFloorSourceDecision (K : Type) where
  valid : Bool
  source : BoundaryFloorSourceKind
  boundaryFloorY : K
  standingFloorY : K
  rejectedReasons : List String
  deriving DecidableEq

/-- A standing floor with the floor of the boundary that belongs to it. -/
structure Floor (K : Type) where
  standing : K
  boundary : K
  deriving DecidableEq

/-- Finite and within five metres. -/
def inRange (y : Option K) : Option K := y.filter fun y => decide (-5.0 ≤ y ∧ y ≤ 5.0)

/-- `StandingFloorToBoundaryFloor`. -/
def StandingFloorToBoundaryFloor (request : BoundaryFloorSourceRequest K)
    (standingFloorY : Option K) : Option (Floor K) :=
  (inRange standingFloorY).bind fun standing =>
    if request.boundaryStandingSpace = true then some ⟨standing, standing⟩
    else if request.targetTransformValid = false then none
    else
      (inRange (some (TargetFloorYForStandingFloor request.boundaryVertices
        request.targetToStanding standing))).map fun boundary => ⟨standing, boundary⟩

/-- `SavedBoundaryStandingFloor`, with the saved floor it comes from. -/
def SavedBoundaryStandingFloor (request : BoundaryFloorSourceRequest K) : Option (Floor K) :=
  if request.hasSavedBoundaryFloor = false then none
  else
    (inRange request.savedBoundaryFloorY).bind fun saved =>
      if request.boundaryStandingSpace = true then some ⟨saved, saved⟩
      else if request.targetTransformValid = false then none
      else some ⟨TransformHeightToStandingUniverse request.boundaryVertices saved
        request.targetToStanding, saved⟩

namespace BoundaryFloorSourceDecision

/-- A decision before any source was asked. -/
def undecided : BoundaryFloorSourceDecision K := ⟨false, .None, 0, 0, []⟩

/-- `reject`. -/
def reject (d : BoundaryFloorSourceDecision K) (reason : String) : BoundaryFloorSourceDecision K :=
  { d with rejectedReasons := d.rejectedReasons ++ [reason] }

/-- The decision is made. -/
def choose (d : BoundaryFloorSourceDecision K) (source : BoundaryFloorSourceKind) (f : Floor K) :
    BoundaryFloorSourceDecision K :=
  { d with
    valid := true
    source := source
    boundaryFloorY := f.boundary
    standingFloorY := f.standing }

/-- `selectStandingFloor`. -/
def selectStandingFloor (request : BoundaryFloorSourceRequest K) (d : BoundaryFloorSourceDecision K)
    (source : BoundaryFloorSourceKind) (standingFloorY : Option K) (rejectReason : String) :
    BoundaryFloorSourceDecision K :=
  if d.valid = true then d
  else
    match StandingFloorToBoundaryFloor request standingFloorY with
    | none => d.reject rejectReason
    | some f => d.choose source f

end BoundaryFloorSourceDecision

open BoundaryFloorSourceDecision

/-- `steamVrReady`. -/
def steamVrReady (steamVr : SteamVrFloorSnapshot) : Bool :=
  steamVr.chaperoneAvailable && decide (steamVr.calibrationState = .OK) &&
    steamVr.playAreaSizeValid && steamVr.playAreaRectValid

/-- The reasons SteamVR's own state gives, in the order they are collected. -/
def steamVrReasons (steamVr : SteamVrFloorSnapshot) : List String :=
  (if steamVr.chaperoneAvailable = false then ["steamvr_chaperone_unavailable"] else []) ++
  (if steamVr.chaperoneAvailable = true ∧ steamVr.calibrationState ≠ .OK then
    ["steamvr_chaperone_not_ok"] else []) ++
  (if steamVr.playAreaSizeValid = false then ["steamvr_play_area_size_invalid"] else []) ++
  (if steamVr.playAreaRectValid = false then ["steamvr_play_area_rect_invalid"] else []) ++
  (if steamVr.chaperoneSetupAvailable = true ∧ steamVr.standingZeroValid = false then
    ["steamvr_standing_zero_invalid"] else [])

/-- SteamVR is asked. -/
def askSteamVr (steamVr : SteamVrFloorSnapshot) (request : BoundaryFloorSourceRequest K)
    (d : BoundaryFloorSourceDecision K) : BoundaryFloorSourceDecision K :=
  let d := (steamVrReasons steamVr).foldl reject d
  if steamVrReady steamVr = true then
    d.selectStandingFloor request .SteamVrStanding (some 0) "steamvr_floor_transform_rejected"
  else d

/-- The saved boundary is asked. -/
def askSavedBoundary (request : BoundaryFloorSourceRequest K) (d : BoundaryFloorSourceDecision K) :
    BoundaryFloorSourceDecision K :=
  match SavedBoundaryStandingFloor request with
  | some f => if d.valid = true then d else d.choose .SavedBoundary f
  | none => d.reject "saved_boundary_floor_unavailable"

/-- The controller is asked. -/
def askController (request : BoundaryFloorSourceRequest K) (d : BoundaryFloorSourceDecision K) :
    BoundaryFloorSourceDecision K :=
  if request.controllerContactValid = true then
    d.selectStandingFloor request .ControllerContact request.controllerContactStandingY
      "controller_floor_rejected"
  else d.reject "controller_floor_unavailable"

/-- The manual value is asked. -/
def askManual (request : BoundaryFloorSourceRequest K) (d : BoundaryFloorSourceDecision K) :
    BoundaryFloorSourceDecision K :=
  if request.manualFloorValid = true then
    d.selectStandingFloor request .Manual request.manualStandingFloorY "manual_floor_rejected"
  else d.reject "manual_floor_unavailable"

/-- `ResolveBoundaryFloorSource`. -/
def ResolveBoundaryFloorSource (steamVr : SteamVrFloorSnapshot)
    (request : BoundaryFloorSourceRequest K) : BoundaryFloorSourceDecision K :=
  askManual request (askController request (askSavedBoundary request
    (askSteamVr steamVr request undecided)))

/-! ## The first source that is not rejected -/

/-- The sources in the order they are asked. -/
def priority : List BoundaryFloorSourceKind :=
  [.SteamVrStanding, .SavedBoundary, .ControllerContact, .Manual]

/-- The sources asked before one. -/
def BoundaryFloorSourceKind.higher (source : BoundaryFloorSourceKind) :
    List BoundaryFloorSourceKind :=
  priority.takeWhile (· ≠ source)

/-- The floor a source has to offer. -/
def candidate (steamVr : SteamVrFloorSnapshot) (request : BoundaryFloorSourceRequest K) :
    BoundaryFloorSourceKind → Option (Floor K)
  | .None => none
  | .SteamVrStanding =>
    if steamVrReady steamVr = true then StandingFloorToBoundaryFloor request (some 0) else none
  | .SavedBoundary => SavedBoundaryStandingFloor request
  | .ControllerContact =>
    if request.controllerContactValid = true then
      StandingFloorToBoundaryFloor request request.controllerContactStandingY
    else none
  | .Manual =>
    if request.manualFloorValid = true then
      StandingFloorToBoundaryFloor request request.manualStandingFloorY
    else none

/-- The reasons that name a source as rejected. -/
def BoundaryFloorSourceKind.reasons : BoundaryFloorSourceKind → List String
  | .None => []
  | .SteamVrStanding =>
    ["steamvr_chaperone_unavailable", "steamvr_chaperone_not_ok", "steamvr_play_area_size_invalid",
      "steamvr_play_area_rect_invalid", "steamvr_floor_transform_rejected"]
  | .SavedBoundary => ["saved_boundary_floor_unavailable"]
  | .ControllerContact => ["controller_floor_unavailable", "controller_floor_rejected"]
  | .Manual => ["manual_floor_unavailable", "manual_floor_rejected"]

/-- A source has no floor to offer, and the decision says why. -/
def Rejected (steamVr : SteamVrFloorSnapshot) (request : BoundaryFloorSourceRequest K)
    (d : BoundaryFloorSourceDecision K) (source : BoundaryFloorSourceKind) : Prop :=
  candidate steamVr request source = none ∧ ∃ reason ∈ source.reasons, reason ∈ d.rejectedReasons

/-- The floor of a decision. -/
def BoundaryFloorSourceDecision.floor (d : BoundaryFloorSourceDecision K) : Floor K :=
  ⟨d.standingFloorY, d.boundaryFloorY⟩

/-- One source is asked. -/
def ask (steamVr : SteamVrFloorSnapshot) (request : BoundaryFloorSourceRequest K)
    (d : BoundaryFloorSourceDecision K) :
    BoundaryFloorSourceKind → BoundaryFloorSourceDecision K
  | .None => d
  | .SteamVrStanding => askSteamVr steamVr request d
  | .SavedBoundary => askSavedBoundary request d
  | .ControllerContact => askController request d
  | .Manual => askManual request d

theorem resolve_eq_foldl (steamVr : SteamVrFloorSnapshot) (request : BoundaryFloorSourceRequest K) :
    ResolveBoundaryFloorSource steamVr request =
      priority.foldl (ask steamVr request) undecided := rfl

/-- What asking one source does to the decision. -/
structure Answered (source : BoundaryFloorSourceKind) (offer : Option (Floor K))
    (d d' : BoundaryFloorSourceDecision K) : Prop where
  keeps : ∀ reason ∈ d.rejectedReasons, reason ∈ d'.rejectedReasons
  stays : d.valid = true → d'.valid = true ∧ d'.source = d.source ∧ d'.floor = d.floor
  chooses : d.valid = false → ∀ f, offer = some f →
    d'.valid = true ∧ d'.source = source ∧ d'.floor = f
  rejects : d.valid = false → offer = none →
    d'.valid = false ∧ ∃ reason ∈ source.reasons, reason ∈ d'.rejectedReasons

section Reject

variable {F : Type} (d : BoundaryFloorSourceDecision F)

@[simp] theorem reject_valid (reason : String) : (d.reject reason).valid = d.valid := rfl

@[simp] theorem reject_source (reason : String) : (d.reject reason).source = d.source := rfl

@[simp] theorem reject_floor (reason : String) : (d.reject reason).floor = d.floor := rfl

theorem mem_reject {reason r : String} :
    r ∈ (d.reject reason).rejectedReasons ↔ r ∈ d.rejectedReasons ∨ r = reason := by
  simp [reject]

theorem mem_foldl_reject {rs : List String} {r : String} :
    r ∈ (rs.foldl reject d).rejectedReasons ↔ r ∈ d.rejectedReasons ∨ r ∈ rs := by
  induction rs generalizing d with
  | nil => simp
  | cons reason rs ih =>
    rw [List.foldl_cons, ih, mem_reject, List.mem_cons, or_assoc]

theorem foldl_reject (rs : List String) :
    (rs.foldl reject d).valid = d.valid ∧ (rs.foldl reject d).source = d.source ∧
      (rs.foldl reject d).floor = d.floor := by
  induction rs generalizing d with
  | nil => exact ⟨rfl, rfl, rfl⟩
  | cons reason rs ih => simpa using ih (d.reject reason)

end Reject

namespace Answered

variable {F : Type} {source : BoundaryFloorSourceKind} {d : BoundaryFloorSourceDecision F}

/-- A decision that is made already stays. -/
theorem made (offer : Option (Floor F)) (h : d.valid = true) : Answered source offer d d where
  keeps _ hr := hr
  stays _ := ⟨h, rfl, rfl⟩
  chooses hv := absurd h (Bool.eq_false_iff.1 hv)
  rejects hv := absurd h (Bool.eq_false_iff.1 hv)

/-- An offer is taken. -/
theorem chosen (f : Floor F) (h : ¬d.valid = true) :
    Answered source (some f) d (d.choose source f) where
  keeps _ hr := hr
  stays hv := absurd hv h
  chooses _ _ hf := by cases hf; exact ⟨rfl, rfl, rfl⟩
  rejects _ hn := by cases hn

/-- A source without an offer is rejected with one of its own reasons. -/
theorem rejected {reason : String} (d : BoundaryFloorSourceDecision F)
    (h : reason ∈ source.reasons) : Answered source none d (d.reject reason) where
  keeps _ hr := (mem_reject d).2 (.inl hr)
  stays hv := ⟨hv, rfl, rfl⟩
  chooses _ _ hf := by cases hf
  rejects hv _ := ⟨hv, reason, h, (mem_reject d).2 (.inr rfl)⟩

end Answered

/-- `selectStandingFloor` offers what the standing floor comes to. -/
theorem answered_select {source : BoundaryFloorSourceKind} {reason : String}
    (request : BoundaryFloorSourceRequest K) (standingFloorY : Option K)
    (d : BoundaryFloorSourceDecision K) (h : reason ∈ source.reasons) :
    Answered source (StandingFloorToBoundaryFloor request standingFloorY) d
      (d.selectStandingFloor request source standingFloorY reason) := by
  unfold selectStandingFloor
  split_ifs with hv
  · exact .made _ hv
  · cases StandingFloorToBoundaryFloor request standingFloorY with
    | none => exact .rejected d h
    | some f => exact .chosen f hv

/-- When SteamVR is not ready it says why. -/
theorem exists_steamVrReason {steamVr : SteamVrFloorSnapshot}
    (h : ¬steamVrReady steamVr = true) :
    ∃ reason ∈ BoundaryFloorSourceKind.SteamVrStanding.reasons, reason ∈ steamVrReasons steamVr := by
  unfold steamVrReasons
  by_cases hc : steamVr.chaperoneAvailable = true
  · by_cases ho : steamVr.calibrationState = .OK
    · by_cases hs : steamVr.playAreaSizeValid = true
      · have hr : steamVr.playAreaRectValid = false := by simpa [steamVrReady, hc, ho, hs] using h
        exact ⟨"steamvr_play_area_rect_invalid", by decide, by simp [hr]⟩
      · exact ⟨"steamvr_play_area_size_invalid", by decide, by simp [hs]⟩
    · exact ⟨"steamvr_chaperone_not_ok", by decide, by simp [hc, ho]⟩
  · exact ⟨"steamvr_chaperone_unavailable", by decide, by simp [hc]⟩

theorem answered_steamVr (steamVr : SteamVrFloorSnapshot) (request : BoundaryFloorSourceRequest K)
    (d : BoundaryFloorSourceDecision K) :
    Answered .SteamVrStanding (candidate steamVr request .SteamVrStanding) d
      (askSteamVr steamVr request d) := by
  obtain ⟨hvalid, hsource, hfloor⟩ := foldl_reject d (steamVrReasons steamVr)
  unfold askSteamVr candidate
  dsimp only
  split_ifs with hready
  · have h : Answered .SteamVrStanding (StandingFloorToBoundaryFloor request (some 0))
        ((steamVrReasons steamVr).foldl reject d)
        (((steamVrReasons steamVr).foldl reject d).selectStandingFloor request .SteamVrStanding
          (some 0) "steamvr_floor_transform_rejected") :=
      answered_select request (some 0) _ (by decide)
    refine ⟨fun r hr => h.keeps r ((mem_foldl_reject d).2 (.inl hr)), ?_, ?_, ?_⟩
    · intro hv
      obtain ⟨h1, h2, h3⟩ := h.stays (hvalid.trans hv)
      exact ⟨h1, h2.trans hsource, h3.trans hfloor⟩
    · exact fun hv => h.chooses (hvalid.trans hv)
    · exact fun hv => h.rejects (hvalid.trans hv)
  · refine ⟨fun r hr => (mem_foldl_reject d).2 (.inl hr),
      fun hv => ⟨hvalid.trans hv, hsource, hfloor⟩,
      fun _ _ hf => (Option.some_ne_none _ hf.symm).elim,
      fun hv _ => ⟨hvalid.trans hv, ?_⟩⟩
    obtain ⟨reason, hmem, hreason⟩ := exists_steamVrReason hready
    exact ⟨reason, hmem, (mem_foldl_reject d).2 (.inr hreason)⟩

/-- Every source answers as its candidate says. -/
theorem answered_ask (steamVr : SteamVrFloorSnapshot) (request : BoundaryFloorSourceRequest K)
    (d : BoundaryFloorSourceDecision K) {source : BoundaryFloorSourceKind}
    (hsource : source ∈ priority) :
    Answered source (candidate steamVr request source) d (ask steamVr request d source) := by
  cases source with
  | None => simp [priority] at hsource
  | SteamVrStanding => exact answered_steamVr steamVr request d
  | SavedBoundary =>
    unfold ask askSavedBoundary candidate
    cases SavedBoundaryStandingFloor request with
    | none => exact .rejected d (by decide)
    | some f =>
      dsimp only
      split_ifs with hv
      · exact .made _ hv
      · exact .chosen f hv
  | ControllerContact =>
    unfold ask askController candidate
    dsimp only
    split_ifs with hc
    · exact answered_select request _ d (by decide)
    · exact .rejected d (by decide)
  | Manual =>
    unfold ask askManual candidate
    dsimp only
    split_ifs with hm
    · exact answered_select request _ d (by decide)
    · exact .rejected d (by decide)

/-- Once made, the decision is not changed by asking further sources. -/
theorem stays_foldl (steamVr : SteamVrFloorSnapshot) (request : BoundaryFloorSourceRequest K)
    {sources : List BoundaryFloorSourceKind} (hsources : sources ⊆ priority)
    (d : BoundaryFloorSourceDecision K) :
    let d' := sources.foldl (ask steamVr request) d
    (∀ reason ∈ d.rejectedReasons, reason ∈ d'.rejectedReasons) ∧
      (d.valid = true → d'.valid = true ∧ d'.source = d.source ∧ d'.floor = d.floor) := by
  induction sources generalizing d with
  | nil => exact ⟨fun _ hr => hr, fun hv => ⟨hv, rfl, rfl⟩⟩
  | cons source sources ih =>
    have h := answered_ask steamVr request d (hsources List.mem_cons_self)
    obtain ⟨hkeeps, hstays⟩ :=
      ih (fun _ hm => hsources (List.mem_cons_of_mem _ hm)) (ask steamVr request d source)
    refine ⟨fun r hr => hkeeps r (h.keeps r hr), fun hv => ?_⟩
    obtain ⟨hv', hs', hf'⟩ := h.stays hv
    obtain ⟨hv2, hs2, hf2⟩ := hstays hv'
    exact ⟨hv2, hs2.trans hs', hf2.trans hf'⟩

/-- Asking a list of sources takes the offer of the first that is not rejected. -/
theorem foldl_ask (steamVr : SteamVrFloorSnapshot) (request : BoundaryFloorSourceRequest K)
    {sources : List BoundaryFloorSourceKind} (hsources : sources ⊆ priority)
    (d : BoundaryFloorSourceDecision K) (hd : d.valid = false)
    (hvalid : (sources.foldl (ask steamVr request) d).valid = true) :
    let d' := sources.foldl (ask steamVr request) d
    d'.source ∈ sources ∧ candidate steamVr request d'.source = some d'.floor ∧
      ∀ source ∈ sources.takeWhile (· ≠ d'.source), Rejected steamVr request d' source := by
  induction sources generalizing d with
  | nil => simp [hd] at hvalid
  | cons source sources ih =>
    have hrest : sources ⊆ priority := fun _ hm => hsources (List.mem_cons_of_mem _ hm)
    have h := answered_ask steamVr request d (hsources List.mem_cons_self)
    dsimp only
    rw [List.foldl_cons] at hvalid ⊢
    obtain ⟨hkeeps, hstays⟩ := stays_foldl steamVr request hrest (ask steamVr request d source)
    cases hoffer : candidate steamVr request source with
    | some f =>
      obtain ⟨hv, hs, hf⟩ := h.chooses hd f hoffer
      obtain ⟨-, hs', hf'⟩ := hstays hv
      rw [hs', hs, hf', hf]
      exact ⟨List.mem_cons_self, hoffer, by simp⟩
    | none =>
      obtain ⟨hv, reason, hreason, hmem⟩ := h.rejects hd hoffer
      obtain ⟨hin, hcand, hhigher⟩ := ih hrest _ hv hvalid
      refine ⟨List.mem_cons_of_mem _ hin, hcand, fun j hj => ?_⟩
      rw [List.takeWhile_cons] at hj
      split_ifs at hj with hne
      · obtain rfl | hj := List.mem_cons.1 hj
        · exact ⟨hoffer, reason, hreason, hkeeps _ hmem⟩
        · exact hhigher j hj
      · simp at hj

/-- A valid decision is the offer of its source, and every source before it is rejected. -/
theorem resolve_priority (steamVr : SteamVrFloorSnapshot) (request : BoundaryFloorSourceRequest K)
    (hvalid : (ResolveBoundaryFloorSource steamVr request).valid = true) :
    let d := ResolveBoundaryFloorSource steamVr request
    d.source ∈ priority ∧ candidate steamVr request d.source = some d.floor ∧
      ∀ source ∈ d.source.higher, Rejected steamVr request d source := by
  rw [resolve_eq_foldl] at hvalid ⊢
  exact foldl_ask steamVr request (List.Subset.refl _) undecided rfl hvalid

/-! ## Heights of the decision -/

/-- The standing floor whose height is inverted when the vertical coefficient counts as zero: every
    height is inverted to the same plane then, so that the first source with a floor in range is
    taken.  A saved boundary has its floor in target coordinates, and nothing is inverted. -/
def invertedStandingFloor (steamVr : SteamVrFloorSnapshot)
    (request : BoundaryFloorSourceRequest K) : Option K :=
  if steamVrReady steamVr = true then some 0
  else if (SavedBoundaryStandingFloor request).isSome = true then none
  else if request.controllerContactValid = true ∧
      (inRange request.controllerContactStandingY).isSome = true then
    inRange request.controllerContactStandingY
  else if request.manualFloorValid = true then inRange request.manualStandingFloorY
  else none

section TargetSpace

variable {request : BoundaryFloorSourceRequest K} {f : Floor K}

/-- A boundary in target space has a floor only under a valid transform. -/
theorem transformValid_of_candidate (hspace : request.boundaryStandingSpace = false)
    {steamVr : SteamVrFloorSnapshot} {source : BoundaryFloorSourceKind}
    (h : candidate steamVr request source = some f) : request.targetTransformValid = true := by
  by_contra hnot
  have hinvalid : request.targetTransformValid = false := Bool.eq_false_iff.2 hnot
  have hstanding (y : Option K) : StandingFloorToBoundaryFloor request y = none := by
    simp [StandingFloorToBoundaryFloor, hspace, hinvalid]
  have hsaved : SavedBoundaryStandingFloor request = none := by
    simp [SavedBoundaryStandingFloor, hspace, hinvalid]
  cases source <;> simp [candidate, hstanding, hsaved] at h

/-- The saved floor is mapped, not inverted. -/
theorem height_savedBoundary (hspace : request.boundaryStandingSpace = false)
    (h : SavedBoundaryStandingFloor request = some f) :
    TransformHeightToStandingUniverse request.boundaryVertices f.boundary request.targetToStanding =
      f.standing := by
  unfold SavedBoundaryStandingFloor at h
  rw [hspace] at h
  split_ifs at h with _ hspace'
  · cases hspace'
  · obtain ⟨saved, -, h⟩ := Option.bind_eq_some_iff.1 h
    cases h
  · obtain ⟨saved, -, h⟩ := Option.bind_eq_some_iff.1 h
    cases h
    rfl

/-- A standing floor is inverted. -/
theorem boundary_standingFloor (hspace : request.boundaryStandingSpace = false) {y : Option K}
    (h : StandingFloorToBoundaryFloor request y = some f) :
    f.boundary = TargetFloorYForStandingFloor request.boundaryVertices request.targetToStanding
      f.standing := by
  obtain ⟨standing, -, h⟩ := Option.bind_eq_some_iff.1 h
  rw [hspace, if_neg Bool.false_ne_true] at h
  split_ifs at h
  obtain ⟨boundary, hb, rfl⟩ := Option.map_eq_some_iff.1 h
  obtain ⟨hboundary, -⟩ := Option.filter_eq_some_iff.1 hb
  exact (Option.some_inj.1 hboundary).symm

variable [IsStrictOrderedRing K]

theorem inRange_zero : inRange (some (0 : K)) = some 0 := by
  have hfive : (0 : K) ≤ 5.0 := by norm_num
  simp [inRange, hfive]

/-- With a coefficient that counts as zero every standing floor in range has the boundary floor
    zero. -/
theorem standingFloor_flat (hspace : request.boundaryStandingSpace = false)
    (htransform : request.targetTransformValid = true)
    (hflat : |request.targetToStanding.rowY.y| < 1e-9) (y : Option K) :
    StandingFloorToBoundaryFloor request y = (inRange y).map fun standing => ⟨standing, 0⟩ := by
  unfold StandingFloorToBoundaryFloor
  cases inRange y with
  | none => rfl
  | some standing =>
    simp [hspace, htransform, TargetFloorYForStandingFloor, hflat, inRange_zero]

/-- Under such a coefficient the decision is for the inverted floor, if there is one. -/
theorem inverted_flat {steamVr : SteamVrFloorSnapshot} {source : BoundaryFloorSourceKind}
    (hspace : request.boundaryStandingSpace = false)
    (hflat : |request.targetToStanding.rowY.y| < 1e-9)
    (hsource : source ∈ priority) (hf : candidate steamVr request source = some f)
    (hhigher : ∀ j ∈ source.higher, candidate steamVr request j = none) :
    source = .SavedBoundary ∧ invertedStandingFloor steamVr request = none ∨
      source ≠ .SavedBoundary ∧ invertedStandingFloor steamVr request = some f.standing := by
  have htransform := transformValid_of_candidate hspace hf
  have hstanding := standingFloor_flat hspace htransform hflat
  have hnotReady (h : candidate steamVr request .SteamVrStanding = none) :
      steamVrReady steamVr = false := by
    simpa [candidate, hstanding, inRange_zero] using h
  cases source with
  | None => simp [priority] at hsource
  | SteamVrStanding =>
    simp only [candidate, hstanding, inRange_zero] at hf
    split_ifs at hf with hready
    cases hf
    exact .inr ⟨by decide, by simp [invertedStandingFloor, hready]⟩
  | SavedBoundary =>
    have hready := hnotReady (hhigher .SteamVrStanding (by decide))
    have hsaved : SavedBoundaryStandingFloor request = some f := hf
    exact .inl ⟨rfl, by simp [invertedStandingFloor, hready, hsaved]⟩
  | ControllerContact =>
    have hready := hnotReady (hhigher .SteamVrStanding (by decide))
    have hsaved : SavedBoundaryStandingFloor request = none := hhigher .SavedBoundary (by decide)
    simp only [candidate, hstanding] at hf
    split_ifs at hf with hc
    obtain ⟨standing, hin, rfl⟩ := Option.map_eq_some_iff.1 hf
    exact .inr ⟨by decide, by simp [invertedStandingFloor, hready, hsaved, hc, hin]⟩
  | Manual =>
    have hready := hnotReady (hhigher .SteamVrStanding (by decide))
    have hsaved : SavedBoundaryStandingFloor request = none := hhigher .SavedBoundary (by decide)
    have hcontroller : request.controllerContactValid = true →
        inRange request.controllerContactStandingY = none := by
      simpa [candidate, hstanding] using hhigher .ControllerContact (by decide)
    simp only [candidate, hstanding] at hf
    split_ifs at hf with hm
    obtain ⟨standing, hin, rfl⟩ := Option.map_eq_some_iff.1 hf
    refine .inr ⟨by decide, ?_⟩
    have hnone : ¬(request.controllerContactValid = true ∧
        (inRange request.controllerContactStandingY).isSome = true) := by
      rintro ⟨hc, hsome⟩
      simp [hcontroller hc] at hsome
    simp [invertedStandingFloor, hready, hsaved, hnone, hm, hin]

end TargetSpace

/-- The decision for a boundary in target space maps its floor to its standing floor exactly when
    the vertical coefficient is not taken for zero, or no height is inverted, or the height inverted
    is that of the target's origin plane; the sources before the chosen one are always rejected. -/
theorem floorSource_consistent_iff [IsStrictOrderedRing K] (steamVr : SteamVrFloorSnapshot)
    (request : BoundaryFloorSourceRequest K) (hspace : request.boundaryStandingSpace = false)
    (hvalid : (ResolveBoundaryFloorSource steamVr request).valid = true) :
    let d := ResolveBoundaryFloorSource steamVr request
    (TransformHeightToStandingUniverse request.boundaryVertices d.boundaryFloorY
          request.targetToStanding = d.standingFloorY ∧
        ∀ source ∈ d.source.higher, Rejected steamVr request d source) ↔
      1e-9 ≤ |request.targetToStanding.rowY.y| ∨
        ∀ s, invertedStandingFloor steamVr request = some s →
          TransformHeightToStandingUniverse request.boundaryVertices 0 request.targetToStanding = s
    := by
  intro d
  obtain ⟨hsource, hf, hhigher⟩ := resolve_priority steamVr request hvalid
  rw [and_iff_left hhigher]
  change TransformHeightToStandingUniverse request.boundaryVertices d.floor.boundary
    request.targetToStanding = d.floor.standing ↔ _
  by_cases hsaved : d.source = .SavedBoundary
  · -- nothing is inverted; under a flat transform `inverted_flat` says so
    have hheight := height_savedBoundary hspace (by simpa [d, hsaved, candidate] using hf)
    refine iff_of_true hheight (or_iff_not_imp_left.2 fun hflat s hs => ?_)
    obtain ⟨-, hnone⟩ | ⟨hne, -⟩ := inverted_flat hspace (not_le.1 hflat) hsource hf
      fun j hj => (hhigher j hj).1
    · simp [hnone] at hs
    · exact absurd hsaved hne
  · have hboundary : d.floor.boundary = TargetFloorYForStandingFloor request.boundaryVertices
        request.targetToStanding d.floor.standing := by
      cases hs : d.source with
      | None => simp [d, hs, priority] at hsource
      | SavedBoundary => exact absurd hs hsaved
      | _ =>
        simp only [d, hs, candidate] at hf
        split_ifs at hf
        exact boundary_standingFloor hspace hf
    rw [hboundary, height_targetFloor_iff]
    refine or_congr_right' fun hflat => ?_
    obtain ⟨hyes, -⟩ | ⟨-, hsome⟩ := inverted_flat hspace (not_le.1 hflat) hsource hf
      fun j hj => (hhigher j hj).1
    · exact absurd hyes hsaved
    · simp [hsome, d]

/-- A play area that SteamVR reports as valid. -/
def readySteamVr : SteamVrFloorSnapshot := ⟨true, .OK, true, true, true, true⟩

/-- A boundary without vertices in target space, under a transform. -/
def targetSpaceRequest (t : AffineCompact3d ℚ) : BoundaryFloorSourceRequest ℚ :=
  ⟨false, [], none, false, true, t, false, none, false, none⟩

/-- A quarter turn about the first axis, one metre up. -/
def quarterTurn : AffineCompact3d ℚ := ⟨⟨1, 0, 0, 0⟩, ⟨0, 0, -1, 1⟩, ⟨0, 1, 0, 0⟩⟩

theorem floorSource_consistent_upright :
    let request := targetSpaceRequest ⟨⟨1, 0, 0, 0⟩, ⟨0, 1, 0, 1⟩, ⟨0, 0, 1, 0⟩⟩
    let d := ResolveBoundaryFloorSource readySteamVr request
    TransformHeightToStandingUniverse request.boundaryVertices d.boundaryFloorY
      request.targetToStanding = d.standingFloorY :=
  ((floorSource_consistent_iff readySteamVr
    (targetSpaceRequest ⟨⟨1, 0, 0, 0⟩, ⟨0, 1, 0, 1⟩, ⟨0, 0, 1, 0⟩⟩) rfl (by decide +kernel)).2
    (.inl (by norm_num [targetSpaceRequest]))).1

/-- SteamVR's floor under a quarter turn: the decision is valid, and its boundary floor is a metre
    off the standing floor. -/
theorem floorSource_quarterTurn :
    quarterTurn.Rigid ∧
      let request := targetSpaceRequest quarterTurn
      let d := ResolveBoundaryFloorSource readySteamVr request
      d.valid = true ∧ TransformHeightToStandingUniverse request.boundaryVertices d.boundaryFloorY
        request.targetToStanding ≠ d.standingFloorY := by
  refine ⟨by constructor <;> norm_num [quarterTurn], ?_⟩
  decide +kernel

end WKPairDriver.Boundary.FloorSource
