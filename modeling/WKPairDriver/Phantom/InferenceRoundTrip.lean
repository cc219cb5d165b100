import Mathlib
import WKPairDriver.Lib.Run
import WKPairDriver.Phantom.Inference

/-!
# Poses that come back from the sidecar

* `fetchPose_roundTrips` — with the body of this build, over every interleaving: `FetchPose` returns
  no pose, and so each pose it returns is the one computed from a complete frame.
* `exclusive_roundTrips` — with a body that does produce poses, this takes that no two of an IN
  frame, a pass and a fetch overlap.
* `marked_torn` — nothing sees to that: a fetch that reads during a pass returns half of a frame.
-/

set_option autoImplicit false

namespace WKPairDriver.Phantom.Inference

open Lib

universe u
variable {D : Type u}

/-- The pose of a role that the sidecar computes from a frame. -/
def computedPose (frame : PhantomInferenceInLayout D) (role : BodyRole) : Pose D :=
  (frame.trackers role).pose

/-! ## A pass that nobody disturbs -/

def execAll (L_in : PhantomInferenceInLayout D) (as : List (Access D))
    (s : Registers D × PhantomInferenceOutLayout D) : Registers D × PhantomInferenceOutLayout D :=
  as.foldl (Access.exec L_in) s

@[simp] theorem execAll_nil (L_in : PhantomInferenceInLayout D)
    (s : Registers D × PhantomInferenceOutLayout D) : execAll L_in [] s = s :=
  rfl

@[simp] theorem execAll_cons (L_in : PhantomInferenceInLayout D) (a : Access D) (as : List (Access D))
    (s : Registers D × PhantomInferenceOutLayout D) :
    execAll L_in (a :: as) s = execAll L_in as (Access.exec L_in s a) :=
  rfl

@[simp] theorem execAll_append (L_in : PhantomInferenceInLayout D) (as bs : List (Access D))
    (s : Registers D × PhantomInferenceOutLayout D) :
    execAll L_in (as ++ bs) s = execAll L_in bs (execAll L_in as s) :=
  List.foldl_append ..

namespace Pose

/-- Copying all words of a pose copies the pose. -/
theorem set_poseWords (p q : Pose D) :
    poseWords.foldl (fun p k => p.set k (q.get k)) p = q := by
  obtain ⟨position, rotation⟩ := p
  obtain ⟨position', rotation'⟩ := q
  simp only [poseWords, List.finRange_succ, List.finRange_zero, List.map_cons, List.map_nil,
    List.cons_append, List.nil_append, List.foldl_cons, List.foldl_nil, set, get, mk.injEq]
  constructor
  · funext k
    fin_cases k <;> rfl
  · funext k
    fin_cases k <;> rfl

end Pose

namespace PhantomInferenceOutLayout

variable (L : PhantomInferenceOutLayout D) (i : BodyRole)

@[simp] theorem nextEpoch_frame_id : L.nextEpoch.frame_id = L.frame_id := rfl

@[simp] theorem nextEpoch_global_confidence :
    L.nextEpoch.global_confidence = L.global_confidence :=
  rfl

@[simp] theorem nextEpoch_trackers : L.nextEpoch.trackers = L.trackers := rfl

theorem setTracker_setTracker (f g : PhantomTrackerOutput D → PhantomTrackerOutput D) :
    (L.setTracker i f).setTracker i g = L.setTracker i fun t => g (f t) := by
  simp [setTracker]

theorem setTracker_self : L.setTracker i (fun t => t) = L := by
  simp [setTracker]

end PhantomInferenceOutLayout

/-- The words of one role. -/
theorem execAll_copyWords (L_in : PhantomInferenceInLayout D) (i : BodyRole) (ks : List PoseWord) :
    ∀ s : Registers D × PhantomInferenceOutLayout D,
      (execAll L_in (ks.flatMap (copyWord i)) s).2 = s.2.setTracker i fun t =>
        { t with pose := ks.foldl (fun p k => p.set k ((computedPose L_in i).get k)) t.pose } := by
  induction ks with
  | nil =>
    intro s
    exact (s.2.setTracker_self i).symm
  | cons k ks ih =>
    intro s
    rw [List.flatMap_cons, execAll_append, ih]
    show (s.2.setTracker i fun t =>
      { t with pose := t.pose.set k ((computedPose L_in i).get k) }).setTracker i _ = _
    rw [PhantomInferenceOutLayout.setTracker_setTracker]
    rfl

/-- What a pass makes of one role. -/
def computedTracker (v : Verdict) (L_in : PhantomInferenceInLayout D) (i : BodyRole) :
    PhantomTrackerOutput D :=
  ⟨(L_in.trackers i).role, v.valid, computedPose L_in i, 0⟩

theorem execAll_copyTracker (v : Verdict) (L_in : PhantomInferenceInLayout D) (i : BodyRole)
    (s : Registers D × PhantomInferenceOutLayout D) :
    (execAll L_in (copyTracker v i) s).2 = s.2.setTracker i fun _ => computedTracker v L_in i := by
  simp only [copyTracker, List.flatten_cons, List.flatten_nil, execAll_append, execAll_cons, execAll_nil, Access.exec, execAll_copyWords,
    PhantomInferenceOutLayout.setTracker_setTracker, Pose.set_poseWords, computedTracker]

theorem PhantomInferenceOutLayout.setTracker_trackers (L : PhantomInferenceOutLayout D)
    (j : BodyRole) (f : PhantomTrackerOutput D → PhantomTrackerOutput D) (i : BodyRole) :
    (L.setTracker j f).trackers i = if i = j then f (L.trackers j) else L.trackers i := by
  by_cases hij : i = j
  · subst hij
    simp [setTracker]
  · simp [setTracker, hij]

/-- A loop over roles that sets each of them. -/
theorem execAll_flatMap {L_in : PhantomInferenceInLayout D} {turn : BodyRole → List (Access D)}
    {T : BodyRole → PhantomTrackerOutput D}
    (hturn : ∀ i s, (execAll L_in (turn i) s).2 = s.2.setTracker i fun _ => T i)
    (is : List BodyRole) : ∀ s : Registers D × PhantomInferenceOutLayout D,
      let L_out := (execAll L_in (is.flatMap turn) s).2
      (L_out.frame_id = s.2.frame_id ∧ L_out.global_confidence = s.2.global_confidence) ∧
        ∀ i, L_out.trackers i = if i ∈ is then T i else s.2.trackers i := by
  induction is with
  | nil =>
    intro s
    exact ⟨⟨rfl, rfl⟩, fun i => by simp⟩
  | cons j is ih =>
    intro s
    rw [List.flatMap_cons, execAll_append]
    obtain ⟨hheader, htrackers⟩ := ih (execAll L_in (turn j) s)
    rw [hturn] at hheader htrackers
    refine ⟨hheader, fun i => (htrackers i).trans ?_⟩
    rw [PhantomInferenceOutLayout.setTracker_trackers]
    by_cases hmem : i ∈ is
    · rw [if_pos hmem, if_pos (List.mem_cons_of_mem j hmem)]
    · rw [if_neg hmem]
      by_cases hij : i = j
      · rw [if_pos hij, if_pos (hij ▸ List.mem_cons_self), hij]
      · rw [if_neg hij, if_neg (by simp [hij, hmem])]

/-- A pass that nobody disturbs computes the poses of its frame. -/
theorem passAccesses_computes (v : Verdict) (L_in : PhantomInferenceInLayout D)
    (s : Registers D × PhantomInferenceOutLayout D) :
    let L_out := (execAll L_in (passAccesses v L_in.frame_id) s).2
    L_out.frame_id = L_in.frame_id ∧ L_out.global_confidence = v.global_confidence ∧
      ∀ i, L_out.trackers i = computedTracker v L_in i := by
  obtain ⟨⟨hframe, hconfidence⟩, htrackers⟩ :=
    execAll_flatMap (execAll_copyTracker v L_in) (List.finRange kBodyRoleCount)
      (s.1, (s.2.nextEpoch.setFrameId L_in.frame_id).setConfidence v.global_confidence)
  simp only [passAccesses, List.flatten_cons, List.flatten_nil, execAll_append, execAll_cons, execAll_nil, Access.exec,
    PhantomInferenceOutLayout.nextEpoch_frame_id,
    PhantomInferenceOutLayout.nextEpoch_global_confidence,
    PhantomInferenceOutLayout.nextEpoch_trackers]
  refine ⟨hframe, hconfidence, fun i => ?_⟩
  exact (htrackers i).trans (if_pos (List.mem_finRange i))

theorem execAll_zeroWords [Zero D] (L_in : PhantomInferenceInLayout D) (i : BodyRole)
    (ks : List PoseWord) : ∀ s : Registers D × PhantomInferenceOutLayout D,
      (execAll L_in (ks.map fun k => .store fun _ L =>
          L.setTracker i fun t => { t with pose := t.pose.set k 0 }) s).2 =
        s.2.setTracker i fun t => { t with pose := ks.foldl (fun p k => p.set k 0) t.pose } := by
  induction ks with
  | nil =>
    intro s
    exact (s.2.setTracker_self i).symm
  | cons k ks ih =>
    intro s
    rw [List.map_cons, execAll_cons, ih]
    show (s.2.setTracker i fun t => { t with pose := t.pose.set k 0 }).setTracker i _ = _
    rw [PhantomInferenceOutLayout.setTracker_setTracker]
    rfl

theorem execAll_zeroTracker [Zero D] (L_in : PhantomInferenceInLayout D) (i : BodyRole)
    (s : Registers D × PhantomInferenceOutLayout D) :
    (execAll L_in (zeroTracker i) s).2 = s.2.setTracker i fun _ => ⟨0, 0, .zero, 0⟩ := by
  have hzero : ∀ p : Pose D, poseWords.foldl (fun p k => p.set k 0) p = .zero := by
    intro p
    have hget : ∀ k, (Pose.zero : Pose D).get k = 0 := by
      intro k
      cases k <;> rfl
    simpa only [hget] using Pose.set_poseWords p .zero
  simp only [zeroTracker, List.flatten_cons, List.flatten_nil, execAll_append, execAll_cons, execAll_nil, Access.exec, execAll_zeroWords,
    PhantomInferenceOutLayout.setTracker_setTracker, hzero]

/-- `Create` leaves no role valid. -/
theorem createAccesses_zero [Zero D] (L_in : PhantomInferenceInLayout D)
    (s : Registers D × PhantomInferenceOutLayout D) (i : BodyRole) :
    ((execAll L_in createAccesses s).2.trackers i).valid = 0 := by
  obtain ⟨-, htrackers⟩ :=
    execAll_flatMap (execAll_zeroTracker L_in) (List.finRange kBodyRoleCount)
      (s.1, ((s.2.setEpoch 0).setFrameId 0).setConfidence 0)
  simp only [createAccesses, List.flatten_cons, List.flatten_nil, execAll_append, execAll_cons, execAll_nil, Access.exec]
  rw [htrackers i, if_pos (List.mem_finRange i)]

/-! ## The round trip -/

/-- Each pose that a `FetchPose` returned is the one computed from a complete frame with the frame
    id in the segment. -/
def RoundTrips (w : World D) : Prop :=
  ∀ c ∈ w.fetched, ∀ p ∈ c.result, ∃ frame ∈ w.frames, ∃ role : BodyRole,
    c.role = role ∧ c.frame_id = frame.frame_id ∧ p.pose = computedPose frame role

/-- No call of `FetchPose` returned a pose. -/
def NoPose (w : World D) : Prop := ∀ c ∈ w.fetched, c.result = none

/-! ### The body of this build -/

def PhantomInferenceOutLayout.NoneValid (L : PhantomInferenceOutLayout D) : Prop :=
  ∀ i, (L.trackers i).valid = 0

theorem PhantomInferenceOutLayout.NoneValid.setTracker {L : PhantomInferenceOutLayout D}
    (hL : L.NoneValid) (i : BodyRole) {f : PhantomTrackerOutput D → PhantomTrackerOutput D}
    (hf : ∀ t, t.valid = 0 → (f t).valid = 0) : (L.setTracker i f).NoneValid := by
  intro j
  rw [PhantomInferenceOutLayout.setTracker_trackers]
  split
  · exact hf _ (hL i)
  · exact hL j

/-- The access makes no pose valid. -/
def Access.KeepsNoneValid : Access D → Prop
  | .load _ => True
  | .store g => ∀ r L, L.NoneValid → (g r L).NoneValid

theorem Access.KeepsNoneValid.exec {a : Access D} (ha : a.KeepsNoneValid)
    {L_in : PhantomInferenceInLayout D} {s : Registers D × PhantomInferenceOutLayout D}
    (hs : s.2.NoneValid) : (Access.exec L_in s a).2.NoneValid := by
  cases a with
  | load f => exact hs
  | store g => exact ha s.1 s.2 hs

theorem copyTracker_keeps (i : BodyRole) :
    ∀ a ∈ copyTracker (D := D) .stub i, a.KeepsNoneValid := by
  simp only [copyTracker, copyWord, List.flatten_cons, List.flatten_nil, List.append_nil, List.mem_append, List.mem_cons, List.mem_flatMap,
    List.not_mem_nil, or_false]
  rintro a ((rfl | rfl | rfl) | ⟨k, -, rfl | rfl⟩ | rfl)
  · trivial
  · exact fun r L hL => hL.setTracker i fun t ht => ht
  · exact fun r L hL => hL.setTracker i fun t ht => rfl
  · trivial
  · exact fun r L hL => hL.setTracker i fun t ht => ht
  · exact fun r L hL => hL.setTracker i fun t ht => ht

theorem zeroTracker_keeps [Zero D] (i : BodyRole) :
    ∀ a ∈ zeroTracker (D := D) i, a.KeepsNoneValid := by
  simp only [zeroTracker, List.flatten_cons, List.flatten_nil, List.append_nil, List.mem_append, List.mem_cons, List.mem_map, List.not_mem_nil, or_false]
  rintro a ((rfl | rfl) | ⟨k, -, rfl⟩ | rfl)
  · exact fun r L hL => hL.setTracker i fun t ht => ht
  · exact fun r L hL => hL.setTracker i fun t ht => rfl
  · exact fun r L hL => hL.setTracker i fun t ht => ht
  · exact fun r L hL => hL.setTracker i fun t ht => ht

theorem passAccesses_keeps (frame : ℕ) :
    ∀ a ∈ passAccesses (D := D) .stub frame, a.KeepsNoneValid := by
  simp only [passAccesses, List.flatten_cons, List.flatten_nil, List.append_nil, List.mem_append, List.mem_cons, List.mem_flatMap, List.not_mem_nil,
    or_false]
  rintro a ((rfl | rfl | rfl) | ⟨i, -, ha⟩ | rfl)
  · exact fun r L hL => hL
  · exact fun r L hL => hL
  · exact fun r L hL => hL
  · exact copyTracker_keeps i a ha
  · exact fun r L hL => hL

theorem createAccesses_keeps [Zero D] : ∀ a ∈ createAccesses (D := D), a.KeepsNoneValid := by
  simp only [createAccesses, List.flatten_cons, List.flatten_nil, List.append_nil, List.mem_append, List.mem_cons, List.mem_flatMap, List.not_mem_nil,
    or_false]
  rintro a ((rfl | rfl | rfl) | ⟨i, -, ha⟩)
  · exact fun r L hL => hL
  · exact fun r L hL => hL
  · exact fun r L hL => hL
  · exact zeroTracker_keeps i a ha

/-- A fetch that has not come past the flag of its role. -/
def Fetch.BeforeWords : Fetch D → Prop
  | .words _ _ _ => False
  | _ => True

/-- No role is valid, now or after any of the accesses still to come. -/
structure Invalid (w : World D) : Prop where
  out : w.L_out.NoneValid
  pending : ∀ a ∈ w.sidecar.pending, a.KeepsNoneValid
  fetch : ∀ f ∈ w.fetch, f.BeforeWords
  fetched : NoPose w

theorem Invalid.new [Zero D] : Invalid (World.new (D := D)) where
  out := fun _ => rfl
  pending := fun a ha => by cases ha
  fetch := fun f hf => by cases hf
  fetched := fun c hc => by cases hc

/-- The outcome of a load that finds no role valid. -/
theorem Invalid.afterLoad [Zero D] {w : World D} (hw : Invalid w) {f : Fetch D}
    (hf : f.BeforeWords) : Invalid (w.afterLoad (f.load w.L_out)) := by
  have hreturn : ∀ role, Invalid (w.afterLoad (.returns ⟨role, w.L_out.frame_id, none⟩)) := by
    intro role
    refine ⟨hw.out, hw.pending, fun f hf => (by cases hf), fun c hc => ?_⟩
    rcases List.mem_append.1 hc with hc | hc
    · exact hw.fetched c hc
    · rw [List.mem_singleton.1 hc]
  cases f with
  | confidence role min_global =>
    simp only [Fetch.load]
    split
    · exact hreturn role
    · split
      · refine ⟨hw.out, hw.pending, fun f hf => ?_, hw.fetched⟩
        cases hf
        trivial
      · exact hreturn role
  | valid role =>
    simp only [Fetch.load, if_pos (hw.out role)]
    exact hreturn role
  | words role rest out_pose => exact hf.elim

theorem Invalid.step [Zero D] {w t : World D} {a : Action D} (hw : Invalid w)
    (hstep : World.step .stub w a = some t) : Invalid t := by
  obtain ⟨hout, hpending, hfetch, hfetched⟩ := hw
  cases a with
  | writeFrame u =>
    obtain ⟨-, ht⟩ := Option.ite_none_right_eq_some.1 hstep
    cases ht
    exact ⟨hout, hpending, hfetch, hfetched⟩
  | store =>
    simp only [World.step] at hstep
    split at hstep
    · cases hstep
    · cases hstep
      exact ⟨hout, hpending, hfetch, hfetched⟩
  | spawn =>
    cases hstep
    exact ⟨hout, createAccesses_keeps, hfetch, hfetched⟩
  | poll =>
    obtain ⟨-, ht⟩ := Option.ite_none_right_eq_some.1 hstep
    cases ht
    unfold World.poll
    split
    · exact ⟨hout, passAccesses_keeps _, hfetch, hfetched⟩
    · exact ⟨hout, hpending, hfetch, hfetched⟩
  | access =>
    simp only [World.step] at hstep
    split at hstep
    · cases hstep
    · rename_i a rest heq
      cases hstep
      rw [heq] at hpending
      obtain ⟨ha, hrest⟩ := List.forall_mem_cons.1 hpending
      exact ⟨ha.exec hout, hrest, hfetch, hfetched⟩
  | tryOpen =>
    cases hstep
    exact ⟨hout, hpending, hfetch, hfetched⟩
  | fetchPose role min_global =>
    simp only [World.step] at hstep
    split at hstep
    · cases hstep
      unfold World.startFetch
      split
      · refine ⟨hout, hpending, fun f hf => ?_, hfetched⟩
        cases hf
        trivial
      · refine ⟨hout, hpending, hfetch, fun c hc => ?_⟩
        rcases List.mem_append.1 hc with hc | hc
        · exact hfetched c hc
        · rw [List.mem_singleton.1 hc]
    · cases hstep
  | load =>
    simp only [World.step] at hstep
    split at hstep
    · cases hstep
    · rename_i f heq
      cases hstep
      exact Invalid.afterLoad ⟨hout, hpending, hfetch, hfetched⟩ (hfetch f heq)

theorem NoPose.roundTrips {w : World D} (hw : NoPose w) : RoundTrips w := by
  intro c hc p hp
  rw [hw c hc] at hp
  cases hp

/-- **Whatever comes back is computed from a complete frame.**  Over every interleaving of the three
    parties `FetchPose` returns no pose at all: the sidecar of this build marks none as valid. -/
theorem fetchPose_roundTrips [Zero D] (as : List (Action D)) :
    Always (World.step .stub) (fun w => NoPose w ∧ RoundTrips w) World.new as :=
  Always.of_inv' (fun _ _ _ hw hstep => hw.step hstep)
    (fun _ hw => ⟨hw.fetched, hw.fetched.roundTrips⟩) Invalid.new

/-! ### A body that produces poses -/

/-- No two of an IN frame, a pass and a fetch overlap. -/
def Exclusive (w : World D) : Action D → Prop
  | .writeFrame _ => w.sidecar.pending = []
  | .spawn => w.stores = [] ∧ w.fetch = none
  | .poll => w.stores = [] ∧ w.fetch = none
  | .fetchPose _ _ => w.sidecar.pending = []
  | _ => True

/-- The segment holds no pose, or those of a complete frame. -/
def Settled (frames : List (PhantomInferenceInLayout D)) (L : PhantomInferenceOutLayout D) : Prop :=
  L.NoneValid ∨
    ∃ frame ∈ frames, L.frame_id = frame.frame_id ∧ ∀ i, (L.trackers i).pose = computedPose frame i

/-- The words still to be read complete the pose in the segment. -/
def Fetch.OnTrack (L : PhantomInferenceOutLayout D) : Fetch D → Prop
  | .words role rest out_pose =>
    (L.trackers role).valid ≠ 0 ∧
      rest.foldl (fun p k => p.set k ((L.trackers role).pose.get k)) out_pose =
        (L.trackers role).pose
  | _ => True

structure Orderly (w : World D) : Prop where
  frame : w.stores = [] → w.L_in ∈ w.frames
  busy : w.sidecar.pending ≠ [] → w.stores = [] ∧ w.fetch = none
  settles :
    Settled w.frames (execAll w.L_in w.sidecar.pending (w.sidecar.registers, w.L_out)).2
  fetch : ∀ f ∈ w.fetch, f.OnTrack w.L_out
  fetched : RoundTrips w

theorem Orderly.new [Zero D] : Orderly (World.new (D := D)) where
  frame := fun _ => List.mem_cons_self
  busy := fun h => absurd rfl h
  settles := .inl fun _ => rfl
  fetch := fun f hf => by cases hf
  fetched := fun c hc => by cases hc

/-- A fetch that returns nothing changes nothing about the poses returned. -/
theorem RoundTrips.append_none {w : World D} (hw : RoundTrips w) {c : Returned D}
    (hc : c.result = none) : RoundTrips { w with fetched := w.fetched ++ [c] } := by
  intro d hd p hp
  rcases List.mem_append.1 hd with hd | hd
  · exact hw d hd p hp
  · rw [List.mem_singleton.1 hd, hc] at hp
    cases hp

theorem Orderly.afterLoad [Zero D] {w : World D} (hw : Orderly w) {f : Fetch D}
    (hf : w.fetch = some f) : Orderly (w.afterLoad (f.load w.L_out)) := by
  obtain ⟨hframe, hbusy, hsettles, hfetch, hfetched⟩ := hw
  have hidle : w.sidecar.pending = [] := by
    by_contra hne
    rw [(hbusy hne).2] at hf
    cases hf
  have hsettled : Settled w.frames w.L_out := by
    rw [hidle] at hsettles
    exact hsettles
  have hgoesOn : ∀ g : Fetch D, g.OnTrack w.L_out → Orderly (w.afterLoad (.goesOn g)) := by
    intro g hg
    refine ⟨hframe, fun hne => absurd hidle hne, hsettles, fun f hf => ?_, hfetched⟩
    cases hf
    exact hg
  have hreturn : ∀ c : Returned D, RoundTrips { w with fetched := w.fetched ++ [c] } →
      Orderly (w.afterLoad (.returns c)) := by
    intro c hc
    exact ⟨hframe, fun hne => absurd hidle hne, hsettles, fun f hf => (by cases hf), hc⟩
  cases f with
  | confidence role min_global =>
    simp only [Fetch.load]
    split
    · exact hreturn _ (hfetched.append_none rfl)
    · split
      · exact hgoesOn _ trivial
      · exact hreturn _ (hfetched.append_none rfl)
  | valid role =>
    simp only [Fetch.load]
    split
    · exact hreturn _ (hfetched.append_none rfl)
    · rename_i hvalid
      exact hgoesOn _ ⟨hvalid, Pose.set_poseWords _ _⟩
  | words role rest out_pose =>
    obtain ⟨hvalid, hpose⟩ := hfetch _ hf
    cases rest with
    | nil =>
      apply hreturn
      intro d hd p hp
      rcases List.mem_append.1 hd with hd | hd
      · exact hfetched d hd p hp
      · rw [List.mem_singleton.1 hd] at hp ⊢
        cases hp
        rcases hsettled with hnone | ⟨frame, hmem, hid, hposes⟩
        · exact absurd (hnone role) hvalid
        · exact ⟨frame, hmem, role, rfl, hid, hpose.trans (hposes role)⟩
    | cons k rest => exact hgoesOn _ ⟨hvalid, hpose⟩

theorem Orderly.step [Zero D] {v : Verdict} {w t : World D} {a : Action D} (hw : Orderly w)
    (hexclusive : Exclusive w a) (hstep : World.step v w a = some t) : Orderly t := by
  obtain ⟨hframe, hbusy, hsettles, hfetch, hfetched⟩ := hw
  cases a with
  | writeFrame u =>
    obtain ⟨-, ht⟩ := Option.ite_none_right_eq_some.1 hstep
    cases ht
    refine ⟨fun hempty => ?_, fun hne => absurd hexclusive hne, hsettles, hfetch, hfetched⟩
    simp [World.startFrame, HmdUpdate.stores] at hempty
  | store =>
    simp only [World.step] at hstep
    split at hstep
    · cases hstep
    · rename_i f rest heq
      cases hstep
      have hidle : w.sidecar.pending = [] := by
        by_contra hne
        rw [(hbusy hne).1] at heq
        cases heq
      have hsubset : ∀ frame ∈ w.frames, frame ∈ (w.afterStore f rest).frames := by
        intro frame hmem
        show frame ∈ if rest = [] then w.frames ++ [f w.L_in] else w.frames
        split
        · exact List.mem_append_left _ hmem
        · exact hmem
      rw [hidle] at hsettles
      refine ⟨fun hlast => ?_, fun hne => absurd hidle hne, ?_, hfetch, fun d hd p hp => ?_⟩
      · show f w.L_in ∈ if rest = [] then w.frames ++ [f w.L_in] else w.frames
        rw [if_pos (show rest = [] from hlast)]
        exact List.mem_append_right _ List.mem_cons_self
      · show Settled _ (execAll _ w.sidecar.pending _).2
        rw [hidle]
        exact hsettles.imp id fun ⟨frame, hmem, h⟩ => ⟨frame, hsubset frame hmem, h⟩
      · obtain ⟨frame, hmem, h⟩ := hfetched d hd p hp
        exact ⟨frame, hsubset frame hmem, h⟩
  | spawn =>
    cases hstep
    refine ⟨hframe, fun _ => hexclusive, .inl ?_, hfetch, hfetched⟩
    show (execAll w.L_in createAccesses (⟨0, 0⟩, w.L_out)).2.NoneValid
    exact createAccesses_zero w.L_in _
  | poll =>
    obtain ⟨-, ht⟩ := Option.ite_none_right_eq_some.1 hstep
    cases ht
    unfold World.poll
    split
    · obtain ⟨hid, -, htrackers⟩ :=
        passAccesses_computes v w.L_in (w.sidecar.registers, w.L_out)
      refine ⟨hframe, fun _ => hexclusive, ?_, hfetch, hfetched⟩
      show Settled w.frames
        (execAll w.L_in (passAccesses v w.L_in.frame_id) (w.sidecar.registers, w.L_out)).2
      refine .inr ⟨w.L_in, hframe hexclusive.1, hid, fun i => ?_⟩
      rw [htrackers i, computedTracker]
    · exact ⟨hframe, hbusy, hsettles, hfetch, hfetched⟩
  | access =>
    simp only [World.step] at hstep
    split at hstep
    · cases hstep
    · rename_i a rest heq
      cases hstep
      obtain ⟨hstores, hnone⟩ := hbusy (by rw [heq]; simp)
      rw [heq] at hsettles
      refine ⟨hframe, fun _ => ⟨hstores, hnone⟩, hsettles, fun f hf => ?_, hfetched⟩
      exact absurd (hnone.symm.trans hf) (by simp)
  | tryOpen =>
    cases hstep
    exact ⟨hframe, hbusy, hsettles, hfetch, hfetched⟩
  | fetchPose role min_global =>
    simp only [World.step] at hstep
    split at hstep
    · cases hstep
      unfold World.startFetch
      split
      · refine ⟨hframe, fun hne => absurd hexclusive hne, hsettles, fun f hf => ?_, hfetched⟩
        cases hf
        trivial
      · exact ⟨hframe, hbusy, hsettles, hfetch, hfetched.append_none rfl⟩
    · cases hstep
  | load =>
    simp only [World.step] at hstep
    split at hstep
    · cases hstep
    · rename_i f heq
      cases hstep
      exact Orderly.afterLoad ⟨hframe, hbusy, hsettles, hfetch, hfetched⟩ heq

/-- **A body that produces poses needs exclusion.**  Whatever it says of them, the poses that come
    back are computed from complete frames as long as no two of an IN frame, a pass and a fetch
    overlap. -/
theorem exclusive_roundTrips [Zero D] (v : Verdict) {as : List (Action D)}
    (has : AllSteps (World.step v) Exclusive World.new as) :
    Always (World.step v) RoundTrips World.new as :=
  Always.of_inv (fun _ _ _ hw hexclusive hstep => hw.step hexclusive hstep)
    (fun _ hw => hw.fetched) Orderly.new has

instance [DecidableEq D] : DecidablePred (RoundTrips (D := D)) := fun w =>
  inferInstanceAs (Decidable (∀ c ∈ w.fetched, ∀ p ∈ c.result, ∃ frame ∈ w.frames,
    ∃ role : BodyRole, c.role = role ∧ c.frame_id = frame.frame_id ∧
      p.pose = computedPose frame role))

/-- A tracker with all words 1 in the role `Hmd`. -/
def onesFrame : HmdUpdate ℕ :=
  ⟨.zero, fun _ => false, [⟨⟨1, by decide⟩, true, ⟨fun _ => 1, fun _ => 1⟩⟩]⟩

/-- The fetch reads the first word before the pass has copied it, and the others behind it. -/
def tornRun : List (Action ℕ) := List.flatten
  [.spawn :: List.replicate 143 .access,
    .writeFrame onesFrame :: List.replicate 60 .store,
    .poll :: List.replicate 24 .access,
    [.tryOpen, .fetchPose 1 1, .load, .load, .load],
    List.replicate 6 .access,
    List.replicate 7 .load]

/-- A body that marks its poses valid lets through a pose that is half of the segment before and
    half of the frame. -/
theorem marked_torn : ¬ Always (World.step ⟨1, 1⟩) RoundTrips World.new tornRun := by
  decide +kernel

end WKPairDriver.Phantom.Inference
