import WKPairDriver.Lib.Framing

/-!
# Resampling the captured audio

`ResampleAndAccumulate` brings a capture packet to 16 kHz by linear interpolation and cuts the
result into frames.  Every packet is resampled by itself: the read position begins at its first
sample, the number of results is rounded up, and its last sample is held where the next one of the
stream would be needed.

* `capture_independent_iff` — at a given input rate, packets of the given lengths are resampled as
  the whole stream exactly when the rate needs no resampling, or is higher and every packet holds a
  whole number of results.
-/

set_option autoImplicit false

namespace WKPairDriver.WasapiCapture

open Lib

variable {K : Type*} [Field K] [LinearOrder K] [FloorRing K]

/-- `out_rate`. -/
def outRate : Nat := 16000

/-- `kFrameSamples`. -/
def frameSamples : Nat := 480

/-- `ratio`. -/
def ratio (inRate : Nat) : K := (inRate : K) / (outRate : K)

/-- `out_count` of a packet. -/
def outCount (K : Type*) [Field K] [LinearOrder K] [FloorRing K] (inRate frames : Nat) : Nat :=
  ⌈(frames : K) / ratio inRate⌉₊

/-- `sample` at the read position `src_pos`. -/
def sampleAt (data : List K) (srcPos : K) : K :=
  let lo := ⌊srcPos⌋₊
  let hi := lo + 1
  let frac := srcPos - (lo : K)
  if hi < data.length then data.getD lo 0 * (1 - frac) + data.getD hi 0 * frac
  else if lo < data.length then data.getD lo 0
  else 0

/-- What is accumulated of a packet. -/
def resampled (inRate : Nat) (data : List K) : List K :=
  if inRate = outRate then data
  else (List.range (outCount K inRate data.length)).map fun oi : Nat =>
    sampleAt data ((oi : K) * ratio inRate)

/-- `ResampleAndAccumulate`. -/
def resampleAndAccumulate (inRate : Nat) (s : Framing K) (data : List K) : Framing K :=
  (resampled inRate data).foldl (Framing.push frameSamples) s

/-- `accum_` behind the packets, with what the callback was given. -/
def captured (inRate : Nat) (packets : List (List K)) : Framing K :=
  packets.foldl (resampleAndAccumulate inRate) Framing.empty

/-- All results of the packets. -/
def results (inRate : Nat) (packets : List (List K)) : List K :=
  packets.flatMap (resampled inRate)

/-- The packets are captured as their samples in one packet would be, and the number of results is
    that of the stream at 16 kHz, up to one. -/
def CapturedAsStream (inRate : Nat) (packets : List (List K)) : Prop :=
  (captured inRate packets).frames = (captured inRate [packets.flatten]).frames ∧
    |((results inRate packets).length : K) -
      (packets.flatten.length : K) * (outRate : K) / (inRate : K)| ≤ 1

theorem captured_eq (inRate : Nat) (packets : List (List K)) :
    captured inRate packets =
      (results inRate packets).foldl (Framing.push frameSamples) Framing.empty :=
  (List.foldl_flatMap ..).symm

/-! ## Read positions as fractions -/

variable [IsStrictOrderedRing K] {inRate : Nat}

/-- A result belongs to a packet exactly when its read position does. -/
theorem lt_outCount_iff (hrate : 0 < inRate) {frames oi : Nat} :
    oi < outCount K inRate frames ↔ oi * inRate < frames * outRate := by
  have hin : (0 : K) < inRate := by exact_mod_cast hrate
  have hout : (0 : K) < (outRate : K) := by
    rw [outRate]
    norm_num
  rw [outCount, Nat.lt_ceil, ratio, div_div_eq_mul_div, lt_div_iff₀ hin]
  exact_mod_cast Iff.rfl

theorem sampleAt_eq (data : List K) (inRate oi : Nat) :
    sampleAt data ((oi : K) * ratio inRate) =
      let lo := oi * inRate / outRate
      let frac := ((oi * inRate % outRate : ℕ) : K) / (outRate : K)
      if lo + 1 < data.length then
        data.getD lo 0 * (1 - frac) + data.getD (lo + 1) 0 * frac
      else if lo < data.length then data.getD lo 0
      else 0 := by
  have hpos : (oi : K) * ratio inRate = ((oi * inRate : ℕ) : K) / (outRate : K) := by
    rw [ratio]
    push_cast
    ring
  have hfloor : ⌊((oi * inRate : ℕ) : K) / (outRate : K)⌋₊ = oi * inRate / outRate :=
    Nat.floor_div_eq_div _ _
  have hout : (outRate : K) ≠ 0 := by
    rw [outRate]
    norm_num
  have hfrac : ((oi * inRate : ℕ) : K) / (outRate : K) - ((oi * inRate / outRate : ℕ) : K) =
      ((oi * inRate % outRate : ℕ) : K) / (outRate : K) := by
    have hdiv : ((oi * inRate : ℕ) : K) =
        (outRate : K) * ((oi * inRate / outRate : ℕ) : K) + ((oi * inRate % outRate : ℕ) : K) := by
      exact_mod_cast (Nat.div_add_mod (oi * inRate) outRate).symm
    rw [eq_div_iff hout, sub_mul, div_mul_cancel₀ _ hout, hdiv]
    ring
  rw [sampleAt, hpos, hfloor, hfrac]

omit [IsStrictOrderedRing K] in
theorem resampled_length (hne : inRate ≠ outRate) (data : List K) :
    (resampled inRate data).length = outCount K inRate data.length := by
  rw [resampled, if_neg hne, List.length_map, List.length_range]

/-- One packet has its share of results, up to one. -/
theorem outCount_near (hrate : 0 < inRate) (frames : Nat) :
    |(outCount K inRate frames : K) - (frames : K) * (outRate : K) / (inRate : K)| ≤ 1 := by
  have hshare : (frames : K) / ratio inRate = (frames : K) * (outRate : K) / (inRate : K) := by
    rw [ratio, div_div_eq_mul_div]
  have hnonneg : (0 : K) ≤ (frames : K) * (outRate : K) / (inRate : K) := by positivity
  rw [outCount, hshare, abs_le]
  constructor
  · linarith [Nat.le_ceil ((frames : K) * (outRate : K) / (inRate : K))]
  · linarith [Nat.ceil_lt_add_one hnonneg]

/-! ## Packets that hold a whole number of results -/

/-- Behind a packet that holds `t` results the next one begins at a read position of the stream. -/
theorem resampled_append (hrate : outRate < inRate) {t : Nat} {P : List K}
    (hP : P.length * outRate = t * inRate) (Q : List K) :
    resampled inRate (P ++ Q) = resampled inRate P ++ resampled inRate Q := by
  have hpos : 0 < inRate := by omega
  have hne : inRate ≠ outRate := by omega
  have hout : 0 < outRate := by decide
  have hcountP : outCount K inRate P.length = t := by
    refine eq_of_forall_lt_iff fun oi => ?_
    rw [lt_outCount_iff hpos, hP]
    exact Nat.mul_lt_mul_right hpos
  have hcount : outCount K inRate (P ++ Q).length = t + outCount K inRate Q.length := by
    refine eq_of_forall_lt_iff fun oi => ?_
    rw [lt_outCount_iff hpos, List.length_append, add_mul, hP]
    rcases Nat.lt_or_ge oi t with h | h
    · have hlt : oi * inRate < t * inRate := Nat.mul_lt_mul_of_pos_right h hpos
      constructor <;> intro <;> omega
    · obtain ⟨j, rfl⟩ := Nat.exists_eq_add_of_le h
      have hj : j < outCount K inRate Q.length ↔ j * inRate < Q.length * outRate :=
        lt_outCount_iff hpos
      rw [add_mul]
      omega
  rw [resampled, if_neg hne, hcount, List.range_add, List.map_append, List.map_map]
  congr 1
  · rw [resampled, if_neg hne, hcountP]
    refine List.map_congr_left fun oi hoi => ?_
    rw [sampleAt_eq, sampleAt_eq]
    dsimp only
    -- the read position and the sample behind it are both in the packet
    have hlo : oi * inRate / outRate + 1 < P.length := by
      have hle : (oi + 1) * inRate ≤ t * inRate :=
        Nat.mul_le_mul_right _ (List.mem_range.1 hoi)
      have hdiv : oi * inRate / outRate * outRate ≤ oi * inRate := Nat.div_mul_le_self _ _
      rw [add_mul] at hle
      refine Nat.lt_of_mul_lt_mul_right (a := outRate) ?_
      rw [add_mul, hP]
      omega
    have hlo' : oi * inRate / outRate + 1 < (P ++ Q).length := by
      rw [List.length_append]
      omega
    rw [if_pos hlo, if_pos hlo', List.getD_append _ _ _ _ (by omega),
      List.getD_append _ _ _ _ hlo]
  · rw [resampled, if_neg hne]
    refine List.map_congr_left fun j _ => ?_
    rw [Function.comp_apply, sampleAt_eq, sampleAt_eq]
    have hpos' : (t + j) * inRate = P.length * outRate + j * inRate := by
      rw [hP]
      ring
    have hdiv : (t + j) * inRate / outRate = P.length + j * inRate / outRate := by
      rw [hpos', mul_comm P.length, Nat.mul_add_div hout]
    have hmod : (t + j) * inRate % outRate = j * inRate % outRate := by
      rw [hpos', mul_comm P.length, Nat.mul_add_mod]
    dsimp only
    rw [hdiv, hmod, List.getD_append_right _ _ _ _ (Nat.le_add_right ..),
      List.getD_append_right _ _ _ _ (Nat.le_add_right_of_le (Nat.le_add_right ..)),
      List.length_append]
    simp only [Nat.add_sub_cancel_left, Nat.add_assoc, Nat.add_lt_add_iff_left]

/-- The condition on a packet's length: it is empty, or the rate is higher and the packet holds a
    whole number of results. -/
def HoldsResults (inRate frames : Nat) : Prop :=
  frames = 0 ∨ (outRate < inRate ∧ inRate ∣ frames * outRate)

theorem resampled_nil (inRate : Nat) : resampled inRate ([] : List K) = [] := by
  simp [resampled, outCount]

theorem results_eq_resampled {packets : List (List K)}
    (h : inRate = outRate ∨ ∀ p ∈ packets, HoldsResults inRate p.length) :
    results inRate packets = resampled inRate packets.flatten := by
  induction packets with
  | nil => exact (resampled_nil inRate).symm
  | cons p ps ih =>
    have hps : inRate = outRate ∨ ∀ q ∈ ps, HoldsResults inRate q.length :=
      h.imp id fun h q hq => h q (List.mem_cons_of_mem p hq)
    rw [results, List.flatMap_cons, ← results, ih hps, List.flatten_cons]
    rcases h with h | h
    · rw [resampled, resampled, resampled, if_pos h, if_pos h, if_pos h]
    · rcases h p (List.mem_cons_self ..) with hnil | ⟨hrate, t, ht⟩
      · rw [List.eq_nil_of_length_eq_zero hnil, resampled_nil]
        rfl
      · exact (resampled_append hrate (ht.trans (mul_comm inRate t)) ps.flatten).symm

theorem capturedAsStream_of_results (hrate : 0 < inRate) {packets : List (List K)}
    (h : results inRate packets = resampled inRate packets.flatten) :
    CapturedAsStream inRate packets := by
  have hone : results inRate [packets.flatten] = resampled inRate packets.flatten := by
    simp [results]
  constructor
  · rw [captured_eq, captured_eq, hone, h]
  · rw [h]
    by_cases hne : inRate = outRate
    · have hout : (outRate : K) ≠ 0 := by
        rw [outRate]
        norm_num
      rw [resampled, if_pos hne, hne, mul_div_assoc, div_self hout, mul_one, sub_self, abs_zero]
      exact zero_le_one
    · rw [resampled_length hne]
      exact outCount_near hrate _

/-! ## A pulse behind the end of a packet -/

/-- Packets of `L` samples, all zero but the first sample of the second packet. -/
def pulsePackets (K : Type*) [Zero K] [One K] (L M : Nat) : List (List K) :=
  List.replicate L 0 :: (1 :: List.replicate (L - 1) 0) :: List.replicate M (List.replicate L 0)

omit [LinearOrder K] [FloorRing K] [IsStrictOrderedRing K] in
theorem pulsePackets_length {L M : Nat} (hL : 0 < L) :
    ∀ p ∈ pulsePackets K L M, p.length = L := by
  intro p hp
  simp only [pulsePackets, List.mem_cons, List.mem_replicate] at hp
  rcases hp with rfl | rfl | ⟨_, rfl⟩
  · exact List.length_replicate
  · rw [List.length_cons, List.length_replicate]
    omega
  · exact List.length_replicate

omit [LinearOrder K] [FloorRing K] [IsStrictOrderedRing K] in
theorem pulsePackets_flatten (L M : Nat) :
    (pulsePackets K L M).flatten = List.replicate L 0 ++ 1 :: List.replicate (L - 1 + M * L) 0 := by
  simp [pulsePackets, List.flatten_replicate_replicate]

omit [LinearOrder K] [FloorRing K] [IsStrictOrderedRing K] in
theorem pulse_getD (L n k : Nat) :
    (List.replicate L (0 : K) ++ 1 :: List.replicate n 0).getD k 0 = if k = L then 1 else 0 := by
  rcases Nat.lt_trichotomy k L with h | rfl | h
  · rw [List.getD_append _ _ _ _ (by simpa using h), if_neg (by omega)]
    simp
  · rw [List.getD_append_right _ _ _ _ (by simp), if_pos rfl]
    simp
  · rw [List.getD_append_right _ _ _ _ (by simpa using h.le), if_neg (by omega),
      List.length_replicate, show k - L = (k - L - 1) + 1 by omega, List.getD_cons_succ]
    simp

omit [IsStrictOrderedRing K] in
theorem resampled_getElem? (hne : inRate ≠ outRate) (data : List K) {i : Nat}
    (hi : i < outCount K inRate data.length) :
    (resampled inRate data)[i]? = some (sampleAt data ((i : K) * ratio inRate)) := by
  rw [resampled, if_neg hne, List.getElem?_map, List.getElem?_range hi]
  rfl

omit [IsStrictOrderedRing K] in
/-- A result that is not that of the stream, with a frame behind it, is delivered. -/
theorem not_capturedAsStream {packets : List (List K)} {i : Nat}
    (hpackets : i + frameSamples ≤ (results inRate packets).length)
    (hstream : i + frameSamples ≤ (resampled inRate packets.flatten).length)
    (h : (results inRate packets)[i]? ≠ (resampled inRate packets.flatten)[i]?) :
    ¬ CapturedAsStream inRate packets := by
  rintro ⟨hframes, -⟩
  have hone : results inRate [packets.flatten] = resampled inRate packets.flatten := by
    simp [results]
  rw [captured_eq, captured_eq, hone] at hframes
  apply h
  rw [← Framing.getElem?_frames (by decide) hpackets, hframes,
    Framing.getElem?_frames (by decide) hstream]

/-- Every nonempty packet has a result. -/
theorem length_le_results (hrate : 0 < inRate) (hne : inRate ≠ outRate) (packets : List (List K))
    (h : ∀ p ∈ packets, 0 < p.length) : packets.length ≤ (results inRate packets).length := by
  induction packets with
  | nil => exact Nat.zero_le _
  | cons p ps ih =>
    have hp : 0 < outCount K inRate p.length := by
      rw [lt_outCount_iff hrate, zero_mul]
      exact Nat.mul_pos (h p (List.mem_cons_self ..)) (by decide)
    have hps := ih fun q hq => h q (List.mem_cons_of_mem p hq)
    rw [results, List.flatMap_cons, ← results, List.length_append, List.length_cons,
      resampled_length hne]
    omega

/-- With enough packets behind the pulse both captures deliver their result `i`. -/
theorem pulse_not_captured (hrate : 0 < inRate) (hne : inRate ≠ outRate) {L i : Nat} (hL : 0 < L)
    {a : K}
    (hpackets : ∀ M, (results inRate (pulsePackets K L M))[i]? = some a)
    (hstream : ∀ n, i * inRate / outRate + 1 < L + 1 + n →
      sampleAt (List.replicate L (0 : K) ++ 1 :: List.replicate n 0) ((i : K) * ratio inRate) ≠ a) :
    ∃ M, ¬ CapturedAsStream inRate (pulsePackets K L M) := by
  refine ⟨(i + frameSamples) * inRate, ?_⟩
  have hM : i + frameSamples ≤ (i + frameSamples) * inRate := Nat.le_mul_of_pos_right _ hrate
  have hML : (i + frameSamples) * inRate ≤ (i + frameSamples) * inRate * L :=
    Nat.le_mul_of_pos_right _ hL
  have hlength : ((pulsePackets K L ((i + frameSamples) * inRate)).flatten).length =
      L + 1 + (L - 1 + (i + frameSamples) * inRate * L) := by
    rw [pulsePackets_flatten]
    simp
    omega
  have hcount : i + frameSamples ≤
      outCount K inRate (pulsePackets K L ((i + frameSamples) * inRate)).flatten.length := by
    have hlast : i + frameSamples - 1 <
        outCount K inRate (pulsePackets K L ((i + frameSamples) * inRate)).flatten.length := by
      rw [lt_outCount_iff hrate, hlength]
      have hle : (i + frameSamples - 1) * inRate ≤ (i + frameSamples) * inRate :=
        Nat.mul_le_mul_right _ (by omega)
      have hout : 1 ≤ outRate := by decide
      calc (i + frameSamples - 1) * inRate
          < L + 1 + (L - 1 + (i + frameSamples) * inRate * L) := by omega
        _ ≤ (L + 1 + (L - 1 + (i + frameSamples) * inRate * L)) * outRate :=
          Nat.le_mul_of_pos_right _ hout
    have hpos : 0 < frameSamples := by decide
    omega
  apply not_capturedAsStream (i := i)
  · have hle := length_le_results hrate hne (pulsePackets K L ((i + frameSamples) * inRate))
      fun p hp => by rw [pulsePackets_length hL p hp]; exact hL
    simp only [pulsePackets, List.length_cons, List.length_replicate] at hle ⊢
    omega
  · rw [resampled_length hne]
    exact hcount
  · have hpos : 0 < frameSamples := by decide
    rw [hpackets, resampled_getElem? hne _ (by omega)]
    intro heq
    rw [Option.some.injEq, pulsePackets_flatten] at heq
    refine hstream _ ?_ heq.symm
    have hdiv : i * inRate / outRate ≤ i * inRate := Nat.div_le_self _ _
    have hle : i * inRate ≤ (i + frameSamples) * inRate := Nat.mul_le_mul_right _ (by omega)
    omega

/-- A lower rate: the first packet holds its last sample where the stream goes on to the pulse. -/
theorem pulse_lowRate (hrate : 0 < inRate) (hlow : inRate < outRate) {L : Nat} (hL : 0 < L) :
    ∃ M, ¬ CapturedAsStream (K := K) inRate (pulsePackets K L M) := by
  obtain ⟨l, rfl⟩ : ∃ l, L = l + 1 := ⟨L - 1, by omega⟩
  -- the first result whose read position is behind the last sample of the packet
  have hdiv := Nat.div_add_mod (l * outRate) inRate
  have hmod := Nat.mod_lt (l * outRate) hrate
  have hpos : (l * outRate / inRate + 1) * inRate =
      inRate * (l * outRate / inRate) + inRate := by ring
  have hbehind : l * outRate < (l * outRate / inRate + 1) * inRate := by omega
  have hbefore : (l * outRate / inRate + 1) * inRate < l * outRate + outRate := by omega
  have hnext : (l + 1) * outRate = l * outRate + outRate := Nat.succ_mul l outRate
  have hlo : (l * outRate / inRate + 1) * inRate / outRate = l :=
    Nat.div_eq_of_lt_le hbehind.le (by rw [hnext]; exact hbefore)
  apply pulse_not_captured (i := l * outRate / inRate + 1) (a := 0) hrate hlow.ne hL
  · intro M
    have hcount : l * outRate / inRate + 1 <
        outCount K inRate (List.replicate (l + 1) (0 : K)).length := by
      rw [lt_outCount_iff hrate, List.length_replicate, hnext]
      exact hbefore
    rw [results, pulsePackets, List.flatMap_cons, List.getElem?_append_left (by
      rw [resampled_length hlow.ne]; exact hcount), resampled_getElem? hlow.ne _ hcount]
    simp [sampleAt]
  · intro n hn
    rw [hlo] at hn
    have hfrac : ((l * outRate / inRate + 1) * inRate % outRate : ℕ) ≠ 0 := by
      intro hzero
      have h := Nat.div_add_mod ((l * outRate / inRate + 1) * inRate) outRate
      rw [hlo, hzero, mul_comm outRate] at h
      omega
    rw [sampleAt_eq]
    dsimp only
    have hlen : l + 1 < (List.replicate (l + 1) (0 : K) ++ 1 :: List.replicate n 0).length := by
      simp
    rw [hlo, if_pos hlen, pulse_getD, pulse_getD, if_neg (by omega), if_pos rfl, zero_mul,
      zero_add, one_mul]
    exact div_ne_zero (Nat.cast_ne_zero.2 hfrac) (Nat.cast_ne_zero.2 (by decide))

/-- A higher rate: the second packet begins with the pulse, which the stream reads past. -/
theorem pulse_highRate (hhigh : outRate < inRate) {L : Nat} (hL : 0 < L)
    (hdvd : ¬ inRate ∣ L * outRate) :
    ∃ M, ¬ CapturedAsStream (K := K) inRate (pulsePackets K L M) := by
  have hrate : 0 < inRate := by omega
  -- the first result whose read position is not in the first packet
  have hbehind : L * outRate < outCount K inRate L * inRate := by
    have hle : ¬ outCount K inRate L * inRate < L * outRate := fun h =>
      lt_irrefl _ ((lt_outCount_iff (K := K) hrate).2 h)
    have hne : L * outRate ≠ outCount K inRate L * inRate := fun h =>
      hdvd ⟨_, h.trans (mul_comm ..)⟩
    omega
  apply pulse_not_captured (i := outCount K inRate L) (a := 1) hrate hhigh.ne' hL
  · intro M
    have hfirst : (resampled inRate (List.replicate L (0 : K))).length = outCount K inRate L := by
      rw [resampled_length hhigh.ne', List.length_replicate]
    have hcount : 0 < outCount K inRate ((1 : K) :: List.replicate (L - 1) 0).length := by
      rw [lt_outCount_iff hrate, zero_mul]
      exact Nat.mul_pos (by simp) (by decide)
    have hsecond : (resampled inRate ((1 : K) :: List.replicate (L - 1) 0))[0]? = some 1 := by
      rw [resampled_getElem? hhigh.ne' _ hcount, sampleAt_eq]
      simp
    rw [results, pulsePackets, List.flatMap_cons, List.flatMap_cons,
      List.getElem?_append_right (by rw [hfirst]), hfirst, Nat.sub_self,
      List.getElem?_append_left (by rw [resampled_length hhigh.ne']; exact hcount), hsecond]
  · intro n hn
    rw [sampleAt_eq]
    dsimp only
    rw [pulse_getD, pulse_getD, if_pos (by simp; omega)]
    have hdiv := Nat.div_add_mod (outCount K inRate L * inRate) outRate
    rcases Nat.lt_or_ge L (outCount K inRate L * inRate / outRate) with h | h
    · rw [if_neg (by omega), if_neg (by omega)]
      simp
    · have hlo : outCount K inRate L * inRate / outRate = L := by
        refine le_antisymm h ((Nat.le_div_iff_mul_le (by decide)).2 hbehind.le)
      have hfrac : (outCount K inRate L * inRate % outRate : ℕ) ≠ 0 := by
        intro hzero
        rw [hlo, hzero, mul_comm outRate] at hdiv
        omega
      rw [hlo, if_pos rfl, if_neg (by omega), one_mul, zero_mul, add_zero, ne_eq, sub_eq_self]
      exact div_ne_zero (Nat.cast_ne_zero.2 hfrac) (Nat.cast_ne_zero.2 (by decide))

/-! ## The condition -/

/-- **Packets with lengths of a set are captured as the whole stream, whatever their samples,
    exactly when the rate needs no resampling, or each of the lengths is zero or holds a whole
    number of results at a higher rate.** -/
theorem capture_independent_iff (hrate : 0 < inRate) (lengths : Set Nat) :
    (∀ packets : List (List K), (∀ p ∈ packets, p.length ∈ lengths) →
      CapturedAsStream inRate packets) ↔
    (inRate = outRate ∨ ∀ L ∈ lengths, HoldsResults inRate L) := by
  constructor
  · intro h
    by_contra hcond
    rw [not_or, not_forall] at hcond
    obtain ⟨hne, L, hL⟩ := hcond
    rw [Classical.not_imp, HoldsResults, not_or, not_and_or] at hL
    obtain ⟨hmem, hL0, hL⟩ := hL
    have hLpos : 0 < L := Nat.pos_of_ne_zero hL0
    obtain ⟨M, hM⟩ : ∃ M, ¬ CapturedAsStream (K := K) inRate (pulsePackets K L M) := by
      rcases Nat.lt_or_gt_of_ne hne with hlow | hhigh
      · exact pulse_lowRate hrate hlow hLpos
      · exact pulse_highRate hhigh hLpos (hL.resolve_left (not_not_intro hhigh))
    exact hM (h _ fun p hp => by rw [pulsePackets_length hLpos p hp]; exact hmem)
  · intro h packets hp
    apply capturedAsStream_of_results hrate
    exact results_eq_resampled (h.imp id fun h p hm => h _ (hp p hm))

/-- Packets of ten milliseconds at 48 kHz. -/
theorem capture_independent_iff_tenMs :
    CapturedAsStream (K := ℝ) 48000 [List.replicate 480 1, List.replicate 480 0] :=
  (capture_independent_iff (K := ℝ) (by decide : 0 < 48000) {480}).2
    (.inr fun L hL => .inr ⟨by decide, by rw [Set.mem_singleton_iff.1 hL]; decide⟩) _ (by
      intro p hp
      simp only [List.mem_cons, List.not_mem_nil, or_false] at hp
      rcases hp with rfl | rfl <;> exact List.length_replicate)

/-- Three packets of 448 samples at 48 kHz have 450 results, where the stream has 448. -/
theorem packets_of_448_drift :
    ¬ CapturedAsStream (K := ℝ) 48000 (List.replicate 3 (List.replicate 448 0)) := by
  rintro ⟨-, hnear⟩
  have hcount : outCount ℝ 48000 448 = 150 := by
    refine eq_of_forall_lt_iff fun oi => ?_
    rw [lt_outCount_iff (by decide), outRate]
    omega
  have hpacket : (resampled 48000 (List.replicate 448 (0 : ℝ))).length = 150 := by
    rw [resampled_length (by decide), List.length_replicate, hcount]
  have hresults : (results 48000 (List.replicate 3 (List.replicate 448 (0 : ℝ)))).length = 450 := by
    rw [results, List.length_flatMap, List.map_replicate, hpacket, List.sum_replicate]
    rfl
  have hstream : (List.replicate 3 (List.replicate 448 (0 : ℝ))).flatten.length = 1344 := by
    rw [List.length_flatten, List.map_replicate, List.length_replicate, List.sum_replicate]
    rfl
  rw [hresults, hstream, outRate] at hnear
  norm_num at hnear

end WKPairDriver.WasapiCapture
