import Mathlib
import WKPairDriver.Lib.History

/-!
# Which calibration is wedged: `WedgeDetector.h`

The runtime detector fires when the magnitude of the calibration has been above the plausible bound
for thirty seconds.  A fire resets the start of the episode, and so the next tick starts a new one.

* `fires_once_iff` — it fires once in each episode exactly when no episode lasts for thirty seconds
  and then for thirty seconds more.
* `longEpisode_firesTwice` — an episode of a minute.
-/

set_option autoImplicit false

namespace WKPairDriver.Calibration.RuntimeWedge

open Lib

def kMaxPlausibleCalibrationMagnitudeCm : ℚ := 500.0
def kRuntimeWedgeDebounceSec : ℚ := 30.0

structure WedgeTick where
  magnitudeCm : ℚ
  now : ℚ
deriving DecidableEq

/-- Whether the recovery fires, and the new `wedgeSince`. -/
def ShouldFireRuntimeWedgeRecovery (t : WedgeTick) (wedgeSince : ℚ) : Bool × ℚ :=
  if t.magnitudeCm ≤ kMaxPlausibleCalibrationMagnitudeCm then (false, -1.0)
  else if wedgeSince < 0 then (false, t.now)
  else if kRuntimeWedgeDebounceSec ≤ t.now - wedgeSince then (true, -1.0)
  else (false, wedgeSince)

def next (wedgeSince : ℚ) (t : WedgeTick) : ℚ := (ShouldFireRuntimeWedgeRecovery t wedgeSince).2

/-- The magnitude is above the bound. -/
def Wedged (t : WedgeTick) : Prop := kMaxPlausibleCalibrationMagnitudeCm < t.magnitudeCm

/-- The call fires. -/
def Fires (x : ℚ × WedgeTick) : Prop := (ShouldFireRuntimeWedgeRecovery x.2 x.1).1 = true

instance (t : WedgeTick) : Decidable (Wedged t) := inferInstanceAs (Decidable (_ < _))

instance (x : ℚ × WedgeTick) : Decidable (Fires x) := inferInstanceAs (Decidable (_ = _))

/-- The calls of a run from the sentinel. -/
abbrev calls (ticks : List WedgeTick) : List (ℚ × WedgeTick) := steps next (-1.0) ticks

/-- Between two fires there is a tick at or below the bound. -/
def OncePerEpisode (ticks : List WedgeTick) : Prop :=
  ∀ past x mid y post, calls ticks = past ++ x :: mid ++ y :: post → Fires x → Fires y →
    ∃ z ∈ mid, ¬ Wedged z.2

/-- No ticks above the bound in a row that last for thirty seconds, and for thirty more from the
    next tick on. -/
def ShortEpisodes (ticks : List WedgeTick) : Prop :=
  ∀ past a mid b c mid' d post,
    ticks = past ++ (a :: mid ++ [b]) ++ (c :: mid' ++ [d]) ++ post →
    (∀ t ∈ a :: mid ++ [b] ++ (c :: mid' ++ [d]), Wedged t) →
    a.now + kRuntimeWedgeDebounceSec ≤ b.now → d.now < c.now + kRuntimeWedgeDebounceSec

/-! ## One call -/

theorem fires_iff {x : ℚ × WedgeTick} :
    Fires x ↔ Wedged x.2 ∧ 0 ≤ x.1 ∧ x.1 + kRuntimeWedgeDebounceSec ≤ x.2.now := by
  unfold Fires ShouldFireRuntimeWedgeRecovery Wedged
  split_ifs with hlow hnone hdone
  · simp [hlow]
  · simp [hnone]
  · simp only [true_iff]
    exact ⟨not_le.1 hlow, not_lt.1 hnone, by linarith⟩
  · simp only [Bool.false_eq_true, false_iff]
    rintro ⟨-, -, hle⟩
    exact hdone (by linarith)

/-- A call that does not fire above the bound starts an episode or goes on with it. -/
theorem next_of_wedged {since : ℚ} {t : WedgeTick} (hw : Wedged t) (hf : ¬ Fires (since, t)) :
    next since t = if since < 0 then t.now else since := by
  rw [fires_iff, not_and, not_and, not_le] at hf
  unfold next ShouldFireRuntimeWedgeRecovery
  rw [if_neg hw.not_ge]
  split_ifs with hnone hdone
  · rfl
  · have hlt : t.now < since + kRuntimeWedgeDebounceSec := hf hw (not_lt.1 hnone)
    exact absurd hdone (by linarith)
  · rfl

theorem next_le {since T : ℚ} {t : WedgeTick} (hsince : since ≤ T) (ht : t.now ≤ T) (hT : 0 ≤ T) :
    next since t ≤ T := by
  unfold next ShouldFireRuntimeWedgeRecovery
  split_ifs
  · exact le_trans (by norm_num) hT
  · exact ht
  · exact le_trans (by norm_num) hT
  · exact hsince

/-- The start of an episode is not later than the ticks so far. -/
theorem foldl_next_le {ticks : List WedgeTick} {since T : ℚ} (hsince : since ≤ T) (hT : 0 ≤ T)
    (h : ∀ t ∈ ticks, t.now ≤ T) : ticks.foldl next since ≤ T := by
  induction ticks generalizing since with
  | nil => exact hsince
  | cons t ticks ih =>
    obtain ⟨ht, hrest⟩ := List.forall_mem_cons.1 h
    exact ih (next_le hsince ht hT) hrest

/-! ## Episodes that are too long -/

/-- While nothing fires above the bound, the start of the episode stays. -/
theorem since_of_quiet {ticks : List WedgeTick} {since : ℚ} (hsince : 0 ≤ since)
    (hw : ∀ t ∈ ticks, Wedged t) (hf : ∀ x ∈ steps next since ticks, ¬ Fires x) :
    ∀ x ∈ steps next since ticks, x.1 = since := by
  induction ticks with
  | nil => exact fun x hx => (by cases hx)
  | cons t ticks ih =>
    obtain ⟨ht, hrest⟩ := List.forall_mem_cons.1 hw
    rw [steps, List.forall_mem_cons] at hf
    have hnext : next since t = since := by
      rw [next_of_wedged ht hf.1, if_neg hsince.not_gt]
    rw [hnext] at hf
    rw [steps, hnext]
    exact List.forall_mem_cons.2 ⟨rfl, ih hrest hf.2⟩

/-- Ticks above the bound that last for thirty seconds have a fire among them. -/
theorem exists_fires {since : ℚ} {first last : WedgeTick} {mid : List WedgeTick}
    (hsince : since ≤ first.now) (h0 : 0 ≤ first.now)
    (hw : ∀ t ∈ first :: mid ++ [last], Wedged t)
    (hlong : first.now + kRuntimeWedgeDebounceSec ≤ last.now) :
    ∃ x ∈ steps next since (first :: mid ++ [last]), Fires x := by
  by_contra hnone
  push Not at hnone
  rw [List.cons_append, steps, List.forall_mem_cons] at hnone
  rw [List.cons_append, List.forall_mem_cons] at hw
  have hstart := next_of_wedged hw.1 hnone.1
  have hbounds : 0 ≤ next since first ∧ next since first ≤ first.now := by
    rw [hstart]
    split_ifs with hneg
    · exact ⟨h0, le_rfl⟩
    · exact ⟨not_lt.1 hneg, hsince⟩
  -- the call at the last tick finds the episode as it was started
  have hquiet := since_of_quiet hbounds.1 hw.2 hnone.2
  rw [steps_append] at hquiet hnone
  have hmem : ((mid.foldl next (next since first)), last) ∈
      steps next (next since first) mid ++ steps next (mid.foldl next (next since first)) [last] :=
    List.mem_append_right _ (List.mem_singleton_self _)
  have hlast : mid.foldl next (next since first) = next since first := hquiet _ hmem
  refine hnone.2 _ hmem (fires_iff.2 ⟨hw.2 last (by simp), ?_, ?_⟩)
  · show 0 ≤ mid.foldl next (next since first)
    rw [hlast]
    exact hbounds.1
  · show mid.foldl next (next since first) + kRuntimeWedgeDebounceSec ≤ last.now
    rw [hlast]
    linarith [hbounds.2]

/-! ## Once per episode -/

/-- The episode that runs began with a tick above the bound, and since then nothing fired. -/
def EpisodeInv (past : List (ℚ × WedgeTick)) (since : ℚ) : Prop :=
  0 ≤ since → Streak (fun x => Wedged x.2 ∧ ¬ Fires x)
    (fun x => (Wedged x.2 ∧ ¬ Fires x) ∧ x.2.now = since) past

theorem EpisodeInv.step {past : List (ℚ × WedgeTick)} {x : ℚ × WedgeTick}
    (h : EpisodeInv past x.1) : EpisodeInv (past ++ [x]) (next x.1 x.2) := by
  intro hpos
  have hsentinel : ¬ (0 : ℚ) ≤ -1.0 := by norm_num
  by_cases hw : Wedged x.2
  · by_cases hf : Fires x
    · exfalso
      obtain ⟨-, hsince, hdone⟩ := fires_iff.1 hf
      rw [next, ShouldFireRuntimeWedgeRecovery, if_neg hw.not_ge, if_neg hsince.not_gt,
        if_pos (by linarith)] at hpos
      exact hsentinel hpos
    · rw [next_of_wedged hw hf] at hpos ⊢
      split_ifs at hpos ⊢ with hneg
      · exact .start ⟨⟨hw, hf⟩, rfl⟩ past
      · exact (h hpos).extend ⟨hw, hf⟩
  · rw [next, ShouldFireRuntimeWedgeRecovery, if_pos (not_lt.1 hw)] at hpos
    exact absurd hpos hsentinel

/-- A fire is at the end of thirty seconds above the bound without another fire. -/
theorem fires_streak {ticks : List WedgeTick} {past : List (ℚ × WedgeTick)} {x : ℚ × WedgeTick}
    (hx : CallAfter next (-1.0) ticks past x) (hf : Fires x) :
    Streak (fun x => Wedged x.2 ∧ ¬ Fires x) (fun first => (Wedged first.2 ∧ ¬ Fires first) ∧
      first.2.now + kRuntimeWedgeDebounceSec ≤ x.2.now) past := by
  obtain ⟨-, hpos, hdone⟩ := fires_iff.1 hf
  have hinv : EpisodeInv past x.1 := by
    refine steps_inv (I := EpisodeInv) (C := fun _ => True) (fun _ _ h _ => h.step) ?_
      (fun _ _ => trivial) hx
    exact fun h => absurd h (by norm_num)
  refine (hinv hpos).mono fun y hy => ⟨hy.1, ?_⟩
  rw [hy.2]
  exact hdone

theorem once_of_short {ticks : List WedgeTick} (hsorted : ticks.Pairwise fun a b => a.now ≤ b.now)
    (hshort : ShortEpisodes ticks) : OncePerEpisode ticks := by
  intro past x mid y post heq hfx hfy
  rw [calls] at heq
  by_contra hnone
  push Not at hnone
  have hx : CallAfter next (-1.0) ticks past x := by
    rw [CallAfter, heq]
    exact ⟨mid ++ y :: post, by simp⟩
  have hy : CallAfter next (-1.0) ticks (past ++ x :: mid) y := by
    rw [CallAfter, heq]
    exact ⟨post, by simp⟩
  obtain ⟨older, a, newer, rfl, ⟨ha, hxlong⟩, hnewer⟩ := fires_streak hx hfx
  obtain ⟨older', c, newer', hsplit, ⟨hc, hylong⟩, hnewer'⟩ := fires_streak hy hfy
  -- the episode of the second fire begins behind the first
  obtain ⟨between, hbetween⟩ : ∃ between, mid = between ++ c :: newer' := by
    rcases List.append_eq_append_iff.1 hsplit with ⟨rest, hleft, hright⟩ | ⟨rest, hleft, hright⟩
    · cases rest with
      | nil =>
        rw [List.nil_append, List.cons.injEq] at hright
        exact absurd hfx (hright.1 ▸ hc.2)
      | cons z rest =>
        rw [List.cons_append, List.cons.injEq] at hright
        exact ⟨rest, hright.2⟩
    · exfalso
      have hmem : x ∈ c :: newer' := by
        rw [hright]
        simp
      rcases List.mem_cons.1 hmem with rfl | hmem
      · exact hc.2 hfx
      · exact (hnewer' x hmem).2 hfx
  cases mid with
  | nil => simp at hbetween
  | cons c₀ mid =>
    have hle : c₀.2.now ≤ c.2.now := by
      have hc₀ : c ∈ c₀ :: mid := by simp [hbetween]
      have hordered : (c₀ :: mid).Pairwise fun y z => y.2.now ≤ z.2.now := by
        refine (hy.pairwise hsorted).sublist (List.IsInfix.sublist ?_)
        exact ⟨older ++ a :: newer ++ [x], [y], by simp⟩
      rcases List.mem_cons.1 hc₀ with rfl | hc₀
      · exact le_rfl
      · exact (List.pairwise_cons.1 hordered).1 c hc₀
    have hticks : ticks = older.map Prod.snd ++ (a.2 :: newer.map Prod.snd ++ [x.2]) ++
        (c₀.2 :: mid.map Prod.snd ++ [y.2]) ++ post.map Prod.snd := by
      have hmap := congrArg (List.map Prod.snd) heq
      rw [steps_snd] at hmap
      simpa using hmap
    have hwedged : ∀ t ∈ a.2 :: newer.map Prod.snd ++ [x.2] ++ (c₀.2 :: mid.map Prod.snd ++ [y.2]),
        Wedged t := by
      simp only [List.cons_append, List.mem_cons, List.mem_append, List.mem_map,
        List.not_mem_nil, or_false]
      rintro t (rfl | (⟨z, hz, rfl⟩ | rfl) | rfl | ⟨z, hz, rfl⟩ | rfl)
      · exact ha.1
      · exact (hnewer z hz).1
      · exact (fires_iff.1 hfx).1
      · exact hnone c₀ (List.mem_cons_self ..)
      · exact hnone z (List.mem_cons_of_mem _ hz)
      · exact (fires_iff.1 hfy).1
    have hlt := hshort _ _ _ _ _ _ _ _ hticks hwedged hxlong
    linarith

theorem short_of_once {ticks : List WedgeTick} (h0 : ∀ t ∈ ticks, 0 ≤ t.now)
    (hsorted : ticks.Pairwise fun a b => a.now ≤ b.now) (honce : OncePerEpisode ticks) :
    ShortEpisodes ticks := by
  intro past a mid b c mid' d post heq hw hlong
  by_contra hlong'
  rw [not_lt] at hlong'
  -- the ticks before a tick of the run are not later than it
  have hsince : ∀ {older newer : List WedgeTick} {t : WedgeTick}, ticks = older ++ t :: newer →
      0 ≤ t.now ∧ older.foldl next (-1.0) ≤ t.now := by
    rintro older newer t rfl
    have ht : 0 ≤ t.now := h0 t (by simp)
    refine ⟨ht, foldl_next_le (le_trans (by norm_num) ht) ht fun u hu => ?_⟩
    exact (List.pairwise_append.1 hsorted).2.2 u hu t (List.mem_cons_self ..)
  have ha := @hsince past (mid ++ [b] ++ (c :: mid' ++ [d]) ++ post) a (by rw [heq]; simp)
  have hc := @hsince (past ++ (a :: mid ++ [b])) (mid' ++ [d] ++ post) c (by rw [heq]; simp)
  rw [List.foldl_append] at hc
  have hw₁ : ∀ t ∈ a :: mid ++ [b], Wedged t := fun t ht => hw t (List.mem_append_left _ ht)
  have hw₂ : ∀ t ∈ c :: mid' ++ [d], Wedged t := fun t ht => hw t (List.mem_append_right _ ht)
  obtain ⟨x, hx, hfx⟩ := exists_fires ha.2 ha.1 hw₁ hlong
  obtain ⟨y, hy, hfy⟩ := exists_fires hc.2 hc.1 hw₂ hlong'
  obtain ⟨p₁, q₁, hsplit₁⟩ := List.append_of_mem hx
  obtain ⟨p₂, q₂, hsplit₂⟩ := List.append_of_mem hy
  have hcalls : ∃ S S', calls ticks = (S ++ p₁) ++ x :: (q₁ ++ p₂) ++ y :: (q₂ ++ S') := by
    rw [calls, heq, steps_append, steps_append, steps_append, List.foldl_append, hsplit₁, hsplit₂]
    generalize steps next (-1.0) past = S
    generalize steps next _ post = S'
    exact ⟨S, S', by simp⟩
  obtain ⟨S, S', hcalls⟩ := hcalls
  obtain ⟨z, hz, hzlow⟩ := honce _ _ _ _ _ hcalls hfx hfy
  rcases List.mem_append.1 hz with hz | hz
  · have hwz := @steps_forall _ _ next (past.foldl next (-1.0)) _ _ hw₁
    rw [hsplit₁] at hwz
    exact hzlow (hwz z (by simp [hz]))
  · have hwz := @steps_forall _ _ next
      ((a :: mid ++ [b]).foldl next (past.foldl next (-1.0))) _ _ hw₂
    rw [hsplit₂] at hwz
    exact hzlow (hwz z (by simp [hz]))

/-- **Once per episode**, for every sequence of ticks with times that do not go back: between two
    fires there is always a tick at or below the bound if and only if no episode lasts for thirty
    seconds up to some tick and for thirty more from the next tick on. -/
theorem fires_once_iff {ticks : List WedgeTick} (h0 : ∀ t ∈ ticks, 0 ≤ t.now)
    (hsorted : ticks.Pairwise fun a b => a.now ≤ b.now) :
    OncePerEpisode ticks ↔ ShortEpisodes ticks :=
  ⟨short_of_once h0 hsorted, once_of_short hsorted⟩

/-- Ticks at these seconds, with a calibration of six metres. -/
def wedgedAt (seconds : List ℚ) : List WedgeTick := seconds.map fun now => ⟨600, now⟩

/-- One fire at 30 s. -/
theorem halfMinute_firesOnce :
    OncePerEpisode (wedgedAt [0, 15, 30, 45]) ↔ ShortEpisodes (wedgedAt [0, 15, 30, 45]) :=
  fires_once_iff (by decide +kernel) (by decide +kernel)

/-- **A calibration that stays wedged** fires at 30 s and at 61 s. -/
theorem longEpisode_firesTwice : ¬ OncePerEpisode (wedgedAt [0, 30, 31, 61]) := by
  intro h
  obtain ⟨z, hz, hlow⟩ := h [(-1, ⟨600, 0⟩)] (0, ⟨600, 30⟩) [(-1, ⟨600, 31⟩)] (31, ⟨600, 61⟩) []
    (by decide +kernel) (by decide +kernel) (by decide +kernel)
  rw [List.mem_singleton.1 hz] at hlow
  exact hlow (by decide +kernel)

end WKPairDriver.Calibration.RuntimeWedge
