import Mathlib

/-!
# Which motion recordings are kept

At the start of a recording the overlay prunes the logs of the earlier ones: from the newest on it
keeps what fits the limits on files and bytes, the newest in any case, and deletes the others. A
delete may fail.

* `PlanRecordingRetention`, `PruneRecordings` — the plan, and the deletes that follow it.
* `retained` — the recordings a plan keeps.
* `prune_spec` — they are within the limits, no file that has room is deleted, and neither a prune
  nor a failed delete changes which they are.
-/

set_option autoImplicit false

namespace WKPairDriver.Calibration.Retention

structure LogFileEntry where
  fullPath : String
  sizeBytes : UInt64

structure RecordingRetentionPolicy where
  maxFiles : ℕ
  maxTotalBytes : UInt64

structure RecordingRetentionPlan where
  deleteIndexes : List ℕ
  keptFiles : ℕ
  keptBytes : UInt64
  deletedBytes : UInt64

def SaturatingAdd (a b : UInt64) : UInt64 :=
  let max : UInt64 := 0xFFFFFFFFFFFFFFFF
  if b > max - a then max else a + b

/-- The branches that set `keep`. -/
def RecordingRetentionPolicy.keeps (policy : RecordingRetentionPolicy) (keptFiles : ℕ)
    (keptBytes : UInt64) (entry : LogFileEntry) : Bool :=
  if policy.maxFiles > 0 ∧ keptFiles < policy.maxFiles ∧ policy.maxTotalBytes > 0 then
    let fitsByteBudget :=
      if keptBytes ≤ policy.maxTotalBytes then
        let remainingBytes := policy.maxTotalBytes - keptBytes
        decide (entry.sizeBytes ≤ remainingBytes)
      else false
    -- the newest recording stays even if it exceeds the byte cap
    if fitsByteBudget = false ∧ keptFiles = 0 then true else fitsByteBudget
  else false

/-- One round of `PlanRecordingRetention`. -/
def planEntry (policy : RecordingRetentionPolicy) (plan : RecordingRetentionPlan)
    (entry : LogFileEntry × ℕ) : RecordingRetentionPlan :=
  if policy.keeps plan.keptFiles plan.keptBytes entry.1 = true then
    { plan with
      keptFiles := plan.keptFiles + 1
      keptBytes := SaturatingAdd plan.keptBytes entry.1.sizeBytes }
  else
    { plan with
      deleteIndexes := plan.deleteIndexes ++ [entry.2]
      deletedBytes := SaturatingAdd plan.deletedBytes entry.1.sizeBytes }

def PlanRecordingRetention (newestFirst : List LogFileEntry) (policy : RecordingRetentionPolicy) :
    RecordingRetentionPlan :=
  newestFirst.zipIdx.foldl (planEntry policy) ⟨[], 0, 0, 0⟩

structure RecordingPruneResult where
  totalFiles : ℕ
  totalBytes : UInt64
  deletedFiles : ℕ
  freedBytes : UInt64
  failedDeletes : ℕ
  keptFiles : ℕ
  keptBytes : UInt64

variable (deletes : LogFileEntry → Bool)

/-- One round of the deletes: the result, and the indices that are gone. -/
def pruneEntry (entries : List LogFileEntry) (s : RecordingPruneResult × List ℕ) (index : ℕ) :
    RecordingPruneResult × List ℕ :=
  match entries[index]? with
  | none => s
  | some entry =>
    if deletes entry = true then
      ({ s.1 with
        deletedFiles := s.1.deletedFiles + 1
        freedBytes := SaturatingAdd s.1.freedBytes entry.sizeBytes }, s.2 ++ [index])
    else ({ s.1 with failedDeletes := s.1.failedDeletes + 1 }, s.2)

/-- `PruneRecordings`, `deletes` being what `DeleteFileW` says; and the recordings left. -/
def PruneRecordings (policy : RecordingRetentionPolicy) (entries : List LogFileEntry) :
    RecordingPruneResult × List LogFileEntry :=
  let totalBytes := entries.foldl (fun bytes entry => SaturatingAdd bytes entry.sizeBytes) 0
  let plan := PlanRecordingRetention entries policy
  let (result, gone) := plan.deleteIndexes.foldl (pruneEntry deletes entries)
    (⟨entries.length, totalBytes, 0, 0, 0, 0, 0⟩, [])
  ({ result with
      keptFiles := result.totalFiles - result.deletedFiles
      keptBytes := if result.totalBytes ≥ result.freedBytes then
        result.totalBytes - result.freedBytes else 0 },
    (entries.zipIdx.filter fun entry => !gone.contains entry.2).map Prod.fst)

/-! ## The plan, entry by entry -/

variable (policy : RecordingRetentionPolicy)

/-- The recordings kept, `keptFiles` of `keptBytes` being kept already. -/
def retainedFrom : ℕ → UInt64 → List LogFileEntry → List LogFileEntry
  | _, _, [] => []
  | keptFiles, keptBytes, entry :: older =>
    if policy.keeps keptFiles keptBytes entry = true then
      entry :: retainedFrom (keptFiles + 1) (SaturatingAdd keptBytes entry.sizeBytes) older
    else retainedFrom keptFiles keptBytes older

/-- The recordings a plan keeps. -/
def retained (entries : List LogFileEntry) : List LogFileEntry := retainedFrom policy 0 0 entries

/-- The indices a plan deletes, from index `k` on. -/
def deletedFrom : ℕ → ℕ → UInt64 → List LogFileEntry → List ℕ
  | _, _, _, [] => []
  | k, keptFiles, keptBytes, entry :: older =>
    if policy.keeps keptFiles keptBytes entry = true then
      deletedFrom (k + 1) (keptFiles + 1) (SaturatingAdd keptBytes entry.sizeBytes) older
    else k :: deletedFrom (k + 1) keptFiles keptBytes older

/-- The recordings left behind a prune. -/
def leftFrom : ℕ → UInt64 → List LogFileEntry → List LogFileEntry
  | _, _, [] => []
  | keptFiles, keptBytes, entry :: older =>
    if policy.keeps keptFiles keptBytes entry = true then
      entry :: leftFrom (keptFiles + 1) (SaturatingAdd keptBytes entry.sizeBytes) older
    else if deletes entry = true then leftFrom keptFiles keptBytes older
    else entry :: leftFrom keptFiles keptBytes older

variable {deletes policy}

theorem foldl_planEntry : ∀ (entries : List LogFileEntry) (k : ℕ) (plan : RecordingRetentionPlan),
    ((entries.zipIdx k).foldl (planEntry policy) plan).deleteIndexes =
      plan.deleteIndexes ++ deletedFrom policy k plan.keptFiles plan.keptBytes entries
  | [], _, _ => by simp [deletedFrom]
  | entry :: older, k, plan => by
    rw [List.zipIdx_cons, List.foldl_cons, foldl_planEntry, deletedFrom, planEntry]
    split <;> simp

theorem deleteIndexes_eq (entries : List LogFileEntry) :
    (PlanRecordingRetention entries policy).deleteIndexes = deletedFrom policy 0 0 0 entries := by
  rw [PlanRecordingRetention, foldl_planEntry, List.nil_append]

theorem le_of_mem_deletedFrom : ∀ {entries : List LogFileEntry} {k keptFiles : ℕ}
    {keptBytes : UInt64} {i : ℕ}, i ∈ deletedFrom policy k keptFiles keptBytes entries → k ≤ i
  | [], _, _, _, _, h => absurd h List.not_mem_nil
  | entry :: older, k, keptFiles, keptBytes, i, h => by
    rw [deletedFrom] at h
    split at h
    next => exact (Nat.le_succ k).trans (le_of_mem_deletedFrom h)
    next =>
      rcases List.mem_cons.1 h with rfl | h
      · exact le_rfl
      · exact (Nat.le_succ k).trans (le_of_mem_deletedFrom h)

/-- The indices whose delete succeeds. -/
def succeeded (deletes : LogFileEntry → Bool) (all : List LogFileEntry) (indexes : List ℕ) : List ℕ :=
  indexes.filter fun i => (all[i]?.map deletes).getD false

theorem succeeded_cons {all : List LogFileEntry} {i : ℕ} {entry : LogFileEntry}
    (hat : all[i]? = some entry) (indexes : List ℕ) :
    succeeded deletes all (i :: indexes) =
      if deletes entry = true then i :: succeeded deletes all indexes
      else succeeded deletes all indexes := by
  rw [succeeded, List.filter_cons, hat]
  rfl

/-- The result and the indices that are gone behind the deletes. -/
theorem foldl_pruneEntry (entries : List LogFileEntry) : ∀ (indexes : List ℕ)
    (s : RecordingPruneResult × List ℕ),
    (indexes.foldl (pruneEntry deletes entries) s).2 =
        s.2 ++ succeeded deletes entries indexes ∧
      (indexes.foldl (pruneEntry deletes entries) s).1.totalFiles = s.1.totalFiles ∧
      (indexes.foldl (pruneEntry deletes entries) s).1.deletedFiles =
        s.1.deletedFiles + (succeeded deletes entries indexes).length
  | [], s => by simp [succeeded]
  | i :: indexes, s => by
    obtain ⟨hgone, htotal, hdeleted⟩ := foldl_pruneEntry entries indexes (pruneEntry deletes entries s i)
    rw [List.foldl_cons, hgone, htotal, hdeleted, pruneEntry]
    cases hat : entries[i]? with
    | none =>
      have hnone : succeeded deletes entries (i :: indexes) = succeeded deletes entries indexes := by
        rw [succeeded, List.filter_cons, hat]
        rfl
      rw [hnone]
      exact ⟨rfl, rfl, rfl⟩
    | some entry =>
      rw [succeeded_cons hat]
      cases hdel : deletes entry with
      | true =>
        simp only [hdel, if_true, List.append_assoc, List.singleton_append, List.length_cons,
          true_and]
        omega
      | false => simp [hdel]

/-- The directory behind the deletes, from index `k` on. -/
theorem filter_gone {all : List LogFileEntry} : ∀ {entries : List LogFileEntry} {k keptFiles : ℕ}
    {keptBytes : UInt64}, all.drop k = entries →
    ((entries.zipIdx k).filter fun entry => !(succeeded deletes all
        (deletedFrom policy k keptFiles keptBytes entries)).contains entry.2).map Prod.fst =
        leftFrom deletes policy keptFiles keptBytes entries ∧
      (leftFrom deletes policy keptFiles keptBytes entries).length + (succeeded deletes all
        (deletedFrom policy k keptFiles keptBytes entries)).length = entries.length
  | [], _, _, _, _ => ⟨rfl, rfl⟩
  | entry :: older, k, keptFiles, keptBytes, hdrop => by
    have hat : all[k]? = some entry := by
      have hhead := congrArg List.head? hdrop
      rwa [List.head?_drop] at hhead
    have hrest : all.drop (k + 1) = older := by
      rw [← List.drop_drop, hdrop]
      rfl
    -- the indices of the older recordings are behind `k`
    have hfresh : ∀ (n : ℕ) (b : UInt64),
        (succeeded deletes all (deletedFrom policy (k + 1) n b older)).contains k = false := by
      intro n b
      rw [List.contains_eq_mem, decide_eq_false_iff_not]
      intro hmem
      exact absurd (le_of_mem_deletedFrom (List.mem_filter.1 hmem).1) (Nat.not_succ_le_self k)
    have hbehind : ∀ gone : List ℕ, ∀ e ∈ older.zipIdx (k + 1),
        (!(k :: gone).contains e.2) = !gone.contains e.2 := by
      intro gone e he
      have hle := List.le_snd_of_mem_zipIdx he
      rw [List.contains_cons, beq_eq_false_iff_ne.2 (by omega), Bool.false_or]
    rw [List.zipIdx_cons, deletedFrom, leftFrom, List.length_cons]
    split
    next =>
      obtain ⟨hleft, hlen⟩ := filter_gone hrest
      rw [List.filter_cons_of_pos (by rw [hfresh]; rfl), List.map_cons, hleft, List.length_cons]
      exact ⟨rfl, by omega⟩
    next =>
      obtain ⟨hleft, hlen⟩ := filter_gone hrest
      rw [succeeded_cons hat]
      cases hdel : deletes entry with
      | false =>
        simp only [Bool.false_eq_true, if_false]
        rw [List.filter_cons_of_pos (by rw [hfresh]; rfl), List.map_cons, hleft, List.length_cons]
        exact ⟨rfl, by omega⟩
      | true =>
        simp only [if_true]
        rw [List.filter_cons_of_neg (by simp), List.filter_congr (hbehind _), hleft,
          List.length_cons]
        exact ⟨rfl, by omega⟩

theorem prune_left (entries : List LogFileEntry) :
    (PruneRecordings deletes policy entries).2 = leftFrom deletes policy 0 0 entries ∧
      (PruneRecordings deletes policy entries).1.keptFiles =
        (PruneRecordings deletes policy entries).2.length := by
  have hdrop : entries.drop 0 = entries := rfl
  obtain ⟨hleft, hlen⟩ := @filter_gone deletes policy entries entries 0 0 0 hdrop
  obtain ⟨hgone, htotal, hdeleted⟩ := @foldl_pruneEntry deletes entries
    (deletedFrom policy 0 0 0 entries) (⟨entries.length,
      entries.foldl (fun bytes entry => SaturatingAdd bytes entry.sizeBytes) 0, 0, 0, 0, 0, 0⟩, [])
  rw [List.nil_append] at hgone
  have hdirectory : (PruneRecordings deletes policy entries).2 =
      leftFrom deletes policy 0 0 entries := by
    rw [PruneRecordings, deleteIndexes_eq, ← hleft, ← hgone]
  refine ⟨hdirectory, ?_⟩
  rw [hdirectory, PruneRecordings, deleteIndexes_eq]
  change RecordingPruneResult.totalFiles _ - RecordingPruneResult.deletedFiles _ = _
  rw [htotal, hdeleted]
  change entries.length - (0 + _) = _
  omega

/-! ## What is kept -/

theorem keeps_iff {keptFiles : ℕ} {keptBytes : UInt64} {entry : LogFileEntry} :
    policy.keeps keptFiles keptBytes entry = true ↔
      keptFiles < policy.maxFiles ∧ 0 < policy.maxTotalBytes.toNat ∧
        (keptFiles = 0 ∨
          keptBytes.toNat + entry.sizeBytes.toNat ≤ policy.maxTotalBytes.toNat) := by
  have hpos : policy.maxTotalBytes > 0 ↔ 0 < policy.maxTotalBytes.toNat := UInt64.lt_iff_toNat_lt
  have hroom : (if keptBytes ≤ policy.maxTotalBytes then
      decide (entry.sizeBytes ≤ policy.maxTotalBytes - keptBytes) else false) = true ↔
      keptBytes.toNat + entry.sizeBytes.toNat ≤ policy.maxTotalBytes.toNat := by
    by_cases hle : keptBytes ≤ policy.maxTotalBytes
    · have hsub := UInt64.toNat_sub_of_le _ _ hle
      rw [if_pos hle, decide_eq_true_eq, UInt64.le_iff_toNat_le, hsub]
      rw [UInt64.le_iff_toNat_le] at hle
      omega
    · rw [if_neg hle]
      rw [UInt64.le_iff_toNat_le] at hle
      simp only [Bool.false_eq_true, false_iff]
      omega
  rw [← hpos, RecordingRetentionPolicy.keeps]
  by_cases hlimits : policy.maxFiles > 0 ∧ keptFiles < policy.maxFiles ∧ policy.maxTotalBytes > 0
  · rw [if_pos hlimits]
    simp only [← hroom, hlimits.2.1, hlimits.2.2, true_and]
    generalize (if keptBytes ≤ policy.maxTotalBytes then
      decide (entry.sizeBytes ≤ policy.maxTotalBytes - keptBytes) else false) = fits
    by_cases hzero : keptFiles = 0
    · cases fits <;> simp [hzero]
    · simp [hzero]
  · rw [if_neg hlimits]
    simp only [Bool.false_eq_true, false_iff]
    rintro ⟨hfiles, hbytes, -⟩
    exact hlimits ⟨by omega, hfiles, hbytes⟩

theorem SaturatingAdd_toNat {a b : UInt64} (h : a.toNat + b.toNat < 2 ^ 64) :
    (SaturatingAdd a b).toNat = a.toNat + b.toNat := by
  have hmax : (0xFFFFFFFFFFFFFFFF : UInt64).toNat = 0xFFFFFFFFFFFFFFFF := rfl
  have hle : a ≤ 0xFFFFFFFFFFFFFFFF := by
    rw [UInt64.le_iff_toNat_le, hmax]
    omega
  have hfits : ¬ b > 0xFFFFFFFFFFFFFFFF - a := by
    rw [gt_iff_lt, UInt64.lt_iff_toNat_lt, UInt64.toNat_sub_of_le _ _ hle, hmax]
    omega
  rw [SaturatingAdd, if_neg hfits, UInt64.toNat_add]
  omega

def bytes (entries : List LogFileEntry) : ℕ := (entries.map fun entry => entry.sizeBytes.toNat).sum

theorem bytes_snoc (entries : List LogFileEntry) (entry : LogFileEntry) :
    bytes (entries ++ [entry]) = bytes entries + entry.sizeBytes.toNat := by
  simp [bytes]

/-- Behind the recordings `kept`, all of them newer, there is room for one more. -/
def HasRoom (policy : RecordingRetentionPolicy) (kept : List LogFileEntry) (entry : LogFileEntry) :
    Prop :=
  kept.length < policy.maxFiles ∧ 0 < policy.maxTotalBytes.toNat ∧
    (kept = [] ∨ bytes kept + entry.sizeBytes.toNat ≤ policy.maxTotalBytes.toNat)

/-- `keptBytes` behind some recordings. -/
def keptBytesOf (keptBytes : UInt64) (kept : List LogFileEntry) : UInt64 :=
  kept.foldl (fun bytes entry => SaturatingAdd bytes entry.sizeBytes) keptBytes

theorem retainedFrom_snoc (entry : LogFileEntry) : ∀ (newer : List LogFileEntry) (keptFiles : ℕ)
    (keptBytes : UInt64), retainedFrom policy keptFiles keptBytes (newer ++ [entry]) =
      retainedFrom policy keptFiles keptBytes newer ++
        if policy.keeps (keptFiles + (retainedFrom policy keptFiles keptBytes newer).length)
          (keptBytesOf keptBytes (retainedFrom policy keptFiles keptBytes newer)) entry = true
        then [entry] else []
  | [], keptFiles, keptBytes => by
    rw [List.nil_append, retainedFrom]
    rfl
  | first :: newer, keptFiles, keptBytes => by
    rw [List.cons_append, retainedFrom, retainedFrom]
    split
    next =>
      rw [retainedFrom_snoc entry newer, List.cons_append, List.length_cons, Nat.add_right_comm,
        Nat.add_assoc]
      rfl
    next => rw [retainedFrom_snoc entry newer]

/-- `keptBytes` does not saturate, and only a single recording exceeds the cap. -/
theorem retained_bytes (newer : List LogFileEntry) :
    (keptBytesOf 0 (retained policy newer)).toNat = bytes (retained policy newer) ∧
      ((retained policy newer).length ≤ 1 ∨
        bytes (retained policy newer) ≤ policy.maxTotalBytes.toNat) ∧
      (retained policy newer).length ≤ policy.maxFiles := by
  induction newer using List.reverseRecOn with
  | nil => exact ⟨rfl, .inl (Nat.zero_le _), Nat.zero_le _⟩
  | append_singleton newer entry ih =>
    obtain ⟨hbytes, hcap, hfiles⟩ := ih
    have hsnoc := @retainedFrom_snoc policy entry newer 0 0
    rw [← retained, ← retained, Nat.zero_add] at hsnoc
    rw [hsnoc]
    split
    next hkeeps =>
      obtain ⟨hroom, -, hfits⟩ := keeps_iff.1 hkeeps
      have hlt := policy.maxTotalBytes.toNat_lt
      have hsize := entry.sizeBytes.toNat_lt
      have hsum : (keptBytesOf 0 (retained policy newer)).toNat + entry.sizeBytes.toNat < 2 ^ 64 := by
        rcases hfits with hzero | hfits
        · have hnil := List.eq_nil_of_length_eq_zero hzero
          rw [hbytes, hnil]
          simpa [bytes] using hsize
        · omega
      have hadd : keptBytesOf 0 (retained policy newer ++ [entry]) =
          SaturatingAdd (keptBytesOf 0 (retained policy newer)) entry.sizeBytes := by
        rw [keptBytesOf, List.foldl_append, List.foldl_cons, List.foldl_nil, ← keptBytesOf]
      refine ⟨?_, ?_, ?_⟩
      · rw [hadd, SaturatingAdd_toNat hsum, hbytes, bytes_snoc]
      · rcases hfits with hzero | hfits
        · rw [List.length_append, hzero]
          exact .inl le_rfl
        · rw [bytes_snoc, ← hbytes]
          exact .inr hfits
      · rw [List.length_append, List.length_singleton]
        exact hroom
    next =>
      rw [List.append_nil]
      exact ⟨hbytes, hcap, hfiles⟩

theorem retained_snoc (newer : List LogFileEntry) (entry : LogFileEntry) :
    (HasRoom policy (retained policy newer) entry →
        retained policy (newer ++ [entry]) = retained policy newer ++ [entry]) ∧
      (¬ HasRoom policy (retained policy newer) entry →
        retained policy (newer ++ [entry]) = retained policy newer) := by
  have hsnoc := @retainedFrom_snoc policy entry newer 0 0
  rw [← retained, ← retained, Nat.zero_add] at hsnoc
  have hiff : policy.keeps (retained policy newer).length (keptBytesOf 0 (retained policy newer))
      entry = true ↔ HasRoom policy (retained policy newer) entry := by
    rw [keeps_iff, (retained_bytes newer).1, List.length_eq_zero_iff]
    rfl
  constructor
  · intro hroom
    rw [hsnoc, if_pos (hiff.2 hroom)]
  · intro hroom
    rw [hsnoc, if_neg (mt hiff.1 hroom), List.append_nil]

/-! ## What a prune leaves -/

/-- The recordings that a plan deletes do not count for it. -/
theorem retainedFrom_left : ∀ (entries : List LogFileEntry) (keptFiles : ℕ) (keptBytes : UInt64),
    retainedFrom policy keptFiles keptBytes (leftFrom deletes policy keptFiles keptBytes entries) =
      retainedFrom policy keptFiles keptBytes entries
  | [], _, _ => rfl
  | entry :: older, keptFiles, keptBytes => by
    rw [leftFrom]
    conv_rhs => rw [retainedFrom]
    split
    next hkeeps => rw [retainedFrom, if_pos hkeeps, retainedFrom_left older]
    next hkeeps =>
      split
      next => exact retainedFrom_left older keptFiles keptBytes
      next => rw [retainedFrom, if_neg hkeeps, retainedFrom_left older]

theorem leftFrom_sublist : ∀ (entries : List LogFileEntry) (keptFiles : ℕ) (keptBytes : UInt64),
    (retainedFrom policy keptFiles keptBytes entries).Sublist
        (leftFrom deletes policy keptFiles keptBytes entries) ∧
      (leftFrom deletes policy keptFiles keptBytes entries).Sublist entries
  | [], _, _ => ⟨.slnil, .slnil⟩
  | entry :: older, keptFiles, keptBytes => by
    rw [retainedFrom, leftFrom]
    split
    next =>
      obtain ⟨hkept, hleft⟩ := leftFrom_sublist older (keptFiles + 1)
        (SaturatingAdd keptBytes entry.sizeBytes)
      exact ⟨hkept.cons_cons entry, hleft.cons_cons entry⟩
    next =>
      obtain ⟨hkept, hleft⟩ := leftFrom_sublist older keptFiles keptBytes
      split
      next => exact ⟨hkept, hleft.cons entry⟩
      next => exact ⟨hkept.cons entry, hleft.cons_cons entry⟩

/-- Where no delete fails, only the recordings kept are left. -/
theorem leftFrom_eq_retained : ∀ (entries : List LogFileEntry) (keptFiles : ℕ) (keptBytes : UInt64),
    (∀ entry ∈ entries, deletes entry = true) →
    leftFrom deletes policy keptFiles keptBytes entries =
      retainedFrom policy keptFiles keptBytes entries
  | [], _, _, _ => rfl
  | entry :: older, keptFiles, keptBytes, h => by
    obtain ⟨hentry, holder⟩ := List.forall_mem_cons.1 h
    rw [leftFrom, retainedFrom]
    split
    next => rw [leftFrom_eq_retained older _ _ holder]
    next => exact leftFrom_eq_retained older _ _ holder

/-- **What a prune keeps.**  The recordings a plan keeps are chosen from the newest on, each that
    has room; they stay within the limits, but for a single one that exceeds the cap on bytes.  A
    prune leaves all of them, and its deletes, whether they fail or not, do not change the choice;
    where none fails it leaves nothing else. -/
theorem prune_spec (deletes : LogFileEntry → Bool) (policy : RecordingRetentionPolicy)
    (entries : List LogFileEntry) :
    let left := (PruneRecordings deletes policy entries).2
    (retained policy entries).length ≤ policy.maxFiles ∧
      ((retained policy entries).length ≤ 1 ∨
        bytes (retained policy entries) ≤ policy.maxTotalBytes.toNat) ∧
      (∀ newer entry, (HasRoom policy (retained policy newer) entry →
          retained policy (newer ++ [entry]) = retained policy newer ++ [entry]) ∧
        (¬ HasRoom policy (retained policy newer) entry →
          retained policy (newer ++ [entry]) = retained policy newer)) ∧
      retained policy left = retained policy entries ∧
      (retained policy entries).Sublist left ∧ left.Sublist entries ∧
      ((∀ entry ∈ entries, deletes entry = true) → left = retained policy entries) ∧
      (PruneRecordings deletes policy entries).1.keptFiles = left.length := by
  intro left
  obtain ⟨-, hcap, hfiles⟩ := @retained_bytes policy entries
  obtain ⟨hleft, hkept⟩ := @prune_left deletes policy entries
  obtain ⟨hretained, hsub⟩ := @leftFrom_sublist deletes policy entries 0 0
  have hl : left = leftFrom deletes policy 0 0 entries := hleft
  refine ⟨hfiles, hcap, fun newer entry => retained_snoc newer entry, ?_, ?_, ?_, ?_, hkept⟩
  · rw [hl]
    exact retainedFrom_left entries 0 0
  · rw [hl]
    exact hretained
  · rw [hl]
    exact hsub
  · intro hall
    rw [hl]
    exact leftFrom_eq_retained entries 0 0 hall

/-- The newest recording exceeds the cap. -/
example : (PruneRecordings (fun _ => true) ⟨5, 100⟩ [⟨"c", 250⟩, ⟨"b", 25⟩, ⟨"a", 25⟩]).2.map
    LogFileEntry.fullPath = ["c"] := by decide

end WKPairDriver.Calibration.Retention
