import WKPairDriver.Lib.Run

/-!
# The module sync runner

`ModuleSyncRunner` queues operations and runs one PowerShell script for each, one after the other.
A script writes its result to a file of its own, which `Poll` reads once the script has exited; a
script that is still active after 90 s is killed.

* `step` — a call of the overlay, or a move of a script.
* `Inv` — what holds in every state reached while every process could be created.
* `step_inv`, `creates_of_law` — one step keeps it, and a process that cannot be created costs an
  operation its result.
* `run_progress` — a `Poll` that finds no script running, or one out of time, is progress.
* `reports_every_operation` — the operations are launched in order, one at a time, and each is
  reported once with a result of its own, exactly in the runs in which every process is created;
  and polling brings every accepted operation to its report.
-/

set_option autoImplicit false

namespace WKPairDriver.FaceTracking.ModuleSyncRunner

open Lib

/-! ## States -/

/-- `SourceKind`. -/
inductive SourceKind where
  | Registry | Folder | GitHub
  deriving DecidableEq

/-- `KindToString`. -/
def KindToString : SourceKind → String
  | .Folder => "folder"
  | .GitHub => "github"
  | .Registry => "registry"

/-- `PendingOp`. -/
structure PendingOp where
  action : String
  kind : String := ""
  source_data : String := ""
  source_id : String := ""
  deriving DecidableEq

/-- `SyncResult`. -/
structure SyncResult where
  ok : Bool := false
  message : String := ""
  installed_uuid : String := ""
  installed_version : String := ""
  deriving DecidableEq

/-- A file of the temp directory, with the script that wrote it; `GetTempFileNameW` leaves it
    empty. -/
structure File where
  writer : Option ℕ
  text : String
  deriving DecidableEq

/-- What a result is made of. -/
inductive Source where
  | timeout
  | file (f : File)
  /-- The result file cannot be opened. -/
  | exitCode (code : UInt32)
  /-- `result_path_` is empty. -/
  | noPath
  deriving DecidableEq

/-- A result that `Poll` has returned, with the script it was returned for. -/
structure Report where
  script : ℕ
  source : Source
  deriving DecidableEq

variable (Path : Type)

/-- A script that was launched. -/
structure Script where
  op : PendingOp
  resultPath : Path
  /-- `none` while it runs. -/
  exitCode : Option UInt32 := none
  killed : Bool := false

/-- The fields of the runner; the clock, the files and the scripts by their handles; what was
    accepted, and what was returned. -/
structure State where
  queue : List PendingOp := []
  proc : Option ℕ := none
  resultPath : Option Path := none
  launchTime : ℕ := 0
  now : ℕ := 0
  files : Path → Option File := fun _ => none
  scripts : List (Script Path) := []
  accepted : List PendingOp := []
  reports : List Report := []

/-- What the system does in a call. -/
structure Os where
  /-- The name `GetTempFileNameW` gives. -/
  tmp : Path
  /-- `CreateProcessW` succeeds. -/
  creates : Bool := true
  /-- `GetExitCodeProcess` fails. -/
  queryFails : Bool := false
  /-- The result file can be opened. -/
  opens : Bool := true

/-- A call, or a move of the scripts and of time (in nanoseconds). -/
inductive Event where
  | StartAdd (kind : SourceKind) (source_data source_id : String) (os : Os Path)
  | StartUpdate (source_id source_data : String) (os : Os Path)
  | StartRemove (source_id : String) (os : Os Path)
  | Poll (os : Os Path)
  | write (script : ℕ) (text : String)
  | exit (script : ℕ) (code : UInt32)
  | wait (elapsed : ℕ)

variable {Path} [DecidableEq Path] (parse : String → Option SyncResult)

/-! ## The calls -/

/-- `STILL_ACTIVE`. -/
def STILL_ACTIVE : UInt32 := 259

/-- The 90 s after which a script is killed. -/
def timeout : ℕ := 90 * 10 ^ 9

/-- The result; `parse` is the JSON parser with the fields it looks up. -/
def Source.result : Source → SyncResult
  | .timeout => { message := "Sync timed out after 90 s." }
  | .file f => (parse f.text).getD { message := "Result JSON parse error." }
  | .exitCode code =>
    { ok := decide (code = 0)
      message := if code = 0 then "Done." else "Sync failed -- check log." }
  | .noPath => {}

namespace State

variable (s : State Path) (os : Os Path)

/-- `LaunchNext`; `GetTempFileNameW` creates a file under a name that is not in use. -/
def LaunchNext : Option (State Path) :=
  match s.queue with
  | [] => some s
  | op :: rest =>
    if s.files os.tmp ≠ none then none
    else
      let t := { s with
        queue := rest
        files := Function.update s.files os.tmp (some ⟨none, ""⟩) }
      if os.creates = true then
        some { t with
          resultPath := some os.tmp
          proc := some s.scripts.length
          launchTime := s.now
          scripts := s.scripts ++ [{ op := op, resultPath := os.tmp }] }
      else some { t with resultPath := none }

/-- The body the three `Start` functions share. -/
def start (op : PendingOp) : Option (State Path) :=
  if s.queue.length ≥ 8 then some s
  else
    let t := { s with queue := s.queue ++ [op], accepted := s.accepted ++ [op] }
    if s.proc.isSome = true then some t else t.LaunchNext os

/-- The exit code `Poll` gets for a script. -/
def exitCodeOf (script : ℕ) : UInt32 :=
  if os.queryFails = true then STILL_ACTIVE
  else ((s.scripts[script]?.bind Script.exitCode)).getD STILL_ACTIVE

/-- What the result of a script that has exited with `code` is read from. -/
def sourceOf (code : UInt32) : Source :=
  match s.resultPath with
  | none => .noPath
  | some path =>
    match s.files path with
    | some f => if os.opens = true then .file f else .exitCode code
    | none => .exitCode code

/-- The script is killed, and its result returned. -/
def kill (script : ℕ) : State Path :=
  { s with
    proc := none
    scripts := s.scripts.modify script fun sc => { sc with killed := true }
    reports := s.reports ++ [⟨script, .timeout⟩] }

/-- The result is read, its file deleted. -/
def collect (script : ℕ) (code : UInt32) : State Path :=
  { s with
    proc := none
    resultPath := none
    files := match s.resultPath with
      | none => s.files
      | some path => if os.opens = true then Function.update s.files path none else s.files
    reports := s.reports ++ [⟨script, s.sourceOf os code⟩] }

/-- `Poll`. -/
def Poll : Option (State Path) :=
  match s.proc with
  | none => s.LaunchNext os
  | some script =>
    let code := s.exitCodeOf os script
    if code = STILL_ACTIVE then
      if s.now - s.launchTime > timeout then (s.kill script).LaunchNext os else some s
    else (s.collect os script code).LaunchNext os

/-- The report `Poll` adds. -/
def pollReport : Option Report :=
  match s.proc with
  | none => none
  | some script =>
    let code := s.exitCodeOf os script
    if code = STILL_ACTIVE then
      if s.now - s.launchTime > timeout then some ⟨script, .timeout⟩ else none
    else some ⟨script, s.sourceOf os code⟩

/-- What `Poll` returns. -/
def PollResult : Option SyncResult := (s.pollReport os).map fun r => r.source.result parse

/-- A script that still runs, or that was killed and may not have noticed, writes its file. -/
def write (script : ℕ) (text : String) : Option (State Path) :=
  match s.scripts[script]? with
  | none => none
  | some sc =>
    if sc.exitCode = none ∨ sc.killed = true then
      some { s with files := Function.update s.files sc.resultPath (some ⟨some script, text⟩) }
    else none

/-- A running script exits. -/
def exit (script : ℕ) (code : UInt32) : Option (State Path) :=
  match s.scripts[script]? with
  | none => none
  | some sc =>
    if sc.exitCode = none then
      some { s with
        scripts := s.scripts.modify script fun sc => { sc with exitCode := some code } }
    else none

end State

/-- One step. -/
def step (s : State Path) : Event Path → Option (State Path)
  | .StartAdd kind source_data source_id os =>
    s.start os ⟨"add", KindToString kind, source_data, source_id⟩
  | .StartUpdate source_id source_data os => s.start os ⟨"update", "", source_data, source_id⟩
  | .StartRemove source_id os => s.start os ⟨"remove", "", "", source_id⟩
  | .Poll os => s.Poll os
  | .write script text => s.write script text
  | .exit script code => s.exit script code
  | .wait elapsed => some { s with now := s.now + elapsed }

/-! ## The law -/

/-- The result of a report comes from the script: from its own file, untouched by any other script,
    or from its own exit code. -/
def State.Own (s : State Path) (r : Report) : Prop :=
  match r.source with
  | .timeout => True
  | .file f => f.writer = none ∨ f.writer = some r.script
  | .exitCode code => s.scripts[r.script]?.bind Script.exitCode = some code
  | .noPath => False

/-- The order of the operations and the origin of the reports. -/
structure State.Law (s : State Path) : Prop where
  /-- The operations are launched in the order in which they were accepted, and none is lost. -/
  fifo : s.accepted = s.scripts.map Script.op ++ s.queue
  /-- No script runs besides the one that is polled. -/
  one : ∀ i sc, s.scripts[i]? = some sc → sc.exitCode = none → sc.killed = false → s.proc = some i
  /-- Each script that is not polled any more has been reported once, in order. -/
  once : s.reports.map Report.script ++ s.proc.toList = List.range s.scripts.length
  own : ∀ r ∈ s.reports, s.Own r

/-- The call comes to launch a script. -/
def State.launches (s : State Path) : Event Path → Bool
  | .StartAdd _ _ _ _ | .StartUpdate _ _ _ | .StartRemove _ _ =>
    decide (s.queue.length < 8) && s.proc.isNone
  | .Poll os =>
    !s.queue.isEmpty &&
      match s.proc with
      | none => true
      | some script =>
        decide (s.exitCodeOf os script ≠ STILL_ACTIVE) || decide (s.now - s.launchTime > timeout)
  | _ => false

/-- What the system does in a call. -/
def Event.os? : Event Path → Option (Os Path)
  | .StartAdd _ _ _ os | .StartUpdate _ _ os | .StartRemove _ os | .Poll os => some os
  | _ => none

/-- The process is created if the call comes to that. -/
def Creates (s : State Path) (e : Event Path) : Prop :=
  s.launches e = true → ∀ os ∈ e.os?, os.creates = true

/-- A `Poll` call that finds no script running, or one that is out of time. -/
def State.late (s : State Path) : Event Path → Bool
  | .Poll _ => s.proc.isNone || decide (s.now - s.launchTime > timeout)
  | _ => false

/-- The number of late polls of a run. -/
def latePolls : State Path → List (Event Path) → ℕ
  | _, [] => 0
  | s, e :: es =>
    (s.late e).toNat +
      match step s e with
      | none => 0
      | some t => latePolls t es

/-! ## The invariant -/

/-- The script can still write its file. -/
def State.Live (s : State Path) (i : ℕ) (sc : Script Path) : Prop :=
  sc.killed = true ∨ s.proc = some i

/-- What holds in every state reached while every process could be created: the files of the
    scripts that can still write are there, under different names, and nobody else has written the
    file of the script that is polled. -/
structure Inv (s : State Path) : Prop where
  law : s.Law
  current : ∀ i, s.proc = some i →
    ∃ sc, s.scripts[i]? = some sc ∧ s.resultPath = some sc.resultPath ∧ sc.killed = false
  present : ∀ i sc, s.scripts[i]? = some sc → s.Live i sc → s.files sc.resultPath ≠ none
  distinct : ∀ i j sc sd, s.scripts[i]? = some sc → s.Live i sc → s.scripts[j]? = some sd →
    s.Live j sd → sc.resultPath = sd.resultPath → i = j
  untouched : ∀ i sc f, s.proc = some i → s.scripts[i]? = some sc →
    s.files sc.resultPath = some f → f.writer = none ∨ f.writer = some i

omit [DecidableEq Path] in
theorem init_inv : Inv ({} : State Path) where
  law := ⟨rfl, by simp, rfl, by simp⟩
  current := by simp
  present := by simp
  distinct := by simp
  untouched := by simp

section Steps

variable {s t : State Path} {os : Os Path}

/-- What `LaunchNext` can do. -/
theorem launchNext_cases (h : s.LaunchNext os = some t) :
    (s.queue = [] ∧ t = s) ∨
    ∃ op rest, s.queue = op :: rest ∧ s.files os.tmp = none ∧
      (os.creates = true ∧ t = { s with
          queue := rest
          files := Function.update s.files os.tmp (some ⟨none, ""⟩)
          resultPath := some os.tmp
          proc := some s.scripts.length
          launchTime := s.now
          scripts := s.scripts ++ [{ op := op, resultPath := os.tmp }] } ∨
        os.creates = false ∧ t = { s with
          queue := rest
          files := Function.update s.files os.tmp (some ⟨none, ""⟩)
          resultPath := none }) := by
  unfold State.LaunchNext at h
  split at h
  next hq => exact .inl ⟨hq, (Option.some.inj h).symm⟩
  next op rest hq =>
    split at h
    next => cases h
    next hfree =>
      refine .inr ⟨op, rest, hq, not_not.1 hfree, ?_⟩
      dsimp only at h
      split at h
      next hc => exact .inl ⟨hc, (Option.some.inj h).symm⟩
      next hc => exact .inr ⟨by simpa using hc, (Option.some.inj h).symm⟩

omit [DecidableEq Path] in
theorem script_lt_of_mem (hs : Inv s) {r : Report} (hr : r ∈ s.reports) :
    r.script < s.scripts.length := by
  have hmem : r.script ∈ List.range s.scripts.length := by
    rw [← hs.law.once]
    exact List.mem_append_left _ (List.mem_map_of_mem hr)
  exact List.mem_range.1 hmem

/-- A process that is created keeps the invariant. -/
theorem launchNext_inv (hs : Inv s) (hidle : s.proc = none)
    (hcreates : s.queue ≠ [] → os.creates = true) (h : s.LaunchNext os = some t) : Inv t := by
  obtain ⟨-, rfl⟩ | ⟨op, rest, hq, hfree, ⟨-, rfl⟩ | ⟨hc, -⟩⟩ := launchNext_cases h
  · exact hs
  · have hget : ∀ {i sc}, (s.scripts ++ [{ op := op, resultPath := os.tmp }])[i]? = some sc →
        s.scripts[i]? = some sc ∨
          i = s.scripts.length ∧ sc = { op := op, resultPath := os.tmp } := by
      intro i sc hi
      rw [List.getElem?_append] at hi
      split at hi
      · exact .inl hi
      · obtain ⟨hlt, hval⟩ := List.getElem?_eq_some_iff.1 hi
        rw [List.length_singleton] at hlt
        exact .inr ⟨by omega, by simpa using hval.symm⟩
    have hold : ∀ {i sc}, s.scripts[i]? = some sc →
        sc.killed = true ∨ some s.scripts.length = some i → s.Live i sc := by
      rintro i sc hi (hk | hi')
      · exact .inl hk
      · have := (List.getElem?_eq_some_iff.1 hi).1
        rw [Option.some.injEq] at hi'
        omega
    refine ⟨⟨?_, ?_, ?_, ?_⟩, ?_, ?_, ?_, ?_⟩
    · simp only [List.map_append, List.map_cons, List.map_nil, List.append_assoc]
      rw [hs.law.fifo, hq]
      rfl
    · intro i sc hi hexit hkilled
      rcases hget hi with hi | ⟨rfl, -⟩
      · rw [hs.law.one i sc hi hexit hkilled] at hidle
        cases hidle
      · rfl
    · have honce := hs.law.once
      rw [hidle, Option.toList_none, List.append_nil] at honce
      rw [List.length_append, List.length_singleton, List.range_succ, ← honce]
      rfl
    · intro r hr
      have hown := hs.law.own r hr
      have hlt := script_lt_of_mem hs hr
      rw [State.Own] at hown ⊢
      cases hsource : r.source with
      | exitCode code =>
        rw [hsource] at hown
        dsimp only at hown ⊢
        rwa [List.getElem?_append_left hlt]
      | timeout | file _ | noPath => rwa [hsource] at hown
    · intro i hi
      obtain rfl : s.scripts.length = i := Option.some.inj hi
      exact ⟨_, List.getElem?_concat_length, rfl, rfl⟩
    · intro i sc hi hlive
      dsimp only
      by_cases hp : sc.resultPath = os.tmp
      · rw [hp, Function.update_self]
        exact Option.some_ne_none _
      · rw [Function.update_of_ne hp]
        rcases hget hi with hi | ⟨-, rfl⟩
        · exact hs.present i sc hi (hold hi hlive)
        · exact absurd rfl hp
    · intro i j sc sd hi hlive hj hlive' hp
      rcases hget hi with hi | ⟨rfl, rfl⟩ <;> rcases hget hj with hj | ⟨rfl, rfl⟩
      · exact hs.distinct i j sc sd hi (hold hi hlive) hj (hold hj hlive') hp
      · exact absurd (hp ▸ hfree) (hs.present i sc hi (hold hi hlive))
      · exact absurd (hp ▸ hfree) (hs.present j sd hj (hold hj hlive'))
      · rfl
    · intro i sc f hi hget' hf
      obtain rfl : s.scripts.length = i := Option.some.inj hi
      rw [List.getElem?_concat_length, Option.some.injEq] at hget'
      subst hget'
      dsimp only at hf
      rw [Function.update_self, Option.some.injEq] at hf
      exact .inl (hf ▸ rfl)
  · rw [hcreates (by rw [hq]; simp)] at hc
    cases hc

omit [DecidableEq Path] in
/-- A script of the list in which one has been changed. -/
theorem get_modify {f : Script Path → Script Path} {i j : ℕ} {sc : Script Path}
    (h : (s.scripts.modify i f)[j]? = some sc) :
    ∃ sd, s.scripts[j]? = some sd ∧ sc = if i = j then f sd else sd := by
  rw [List.getElem?_modify] at h
  obtain ⟨sd, hsd, rfl⟩ := Option.map_eq_some_iff.1 h
  exact ⟨sd, hsd, by split <;> rfl⟩

omit [DecidableEq Path] in
/-- A report stays the script's own when the scripts keep the exit codes they have. -/
theorem own_of_exitCode {r : Report} (h : s.Own r)
    (hcode : ∀ code, s.scripts[r.script]?.bind Script.exitCode = some code →
      t.scripts[r.script]?.bind Script.exitCode = some code) : t.Own r := by
  rw [State.Own] at h ⊢
  cases hsource : r.source with
  | exitCode code =>
    rw [hsource] at h
    exact hcode code h
  | timeout | file _ | noPath => rwa [hsource] at h

omit [DecidableEq Path] in
/-- The script that is polled is done with: it is reported. -/
theorem once_report (hs : Inv s) {i : ℕ} (hi : s.proc = some i) (source : Source) :
    (s.reports ++ [(⟨i, source⟩ : Report)]).map Report.script = List.range s.scripts.length := by
  have honce := hs.law.once
  rw [hi] at honce
  rw [List.map_append, ← honce]
  rfl

omit [DecidableEq Path] in
/-- The operations do not change with the scripts. -/
theorem map_op_modify {f : Script Path → Script Path} (hf : ∀ sc, (f sc).op = sc.op) (i : ℕ)
    (scripts : List (Script Path)) :
    (scripts.modify i f).map Script.op = scripts.map Script.op := by
  apply List.ext_getElem?
  intro j
  rw [List.getElem?_map, List.getElem?_map, List.getElem?_modify]
  cases scripts[j]? with
  | none => rfl
  | some sc =>
    show some (Script.op (if i = j then f sc else sc)) = some sc.op
    split
    · rw [hf]
    · rfl

omit [DecidableEq Path] in
/-- Exit codes that are known stay when one script is changed that keeps its own. -/
theorem exitCode_modify {f : Script Path → Script Path} {i j : ℕ} {code : UInt32}
    (hf : ∀ sc, s.scripts[i]? = some sc → sc.exitCode = some code → (f sc).exitCode = some code)
    (h : s.scripts[j]?.bind Script.exitCode = some code) :
    (s.scripts.modify i f)[j]?.bind Script.exitCode = some code := by
  obtain ⟨sc, hsc, hcode⟩ := Option.bind_eq_some_iff.1 h
  rw [List.getElem?_modify, hsc]
  show Script.exitCode (if i = j then f sc else sc) = some code
  split
  next hij => exact hf sc (hij ▸ hsc) hcode
  next => exact hcode

omit [DecidableEq Path] in
theorem kill_inv (hs : Inv s) {i : ℕ} (hi : s.proc = some i) : Inv (s.kill i) := by
  have hlive : ∀ {j sc}, (s.kill i).scripts[j]? = some sc → (s.kill i).Live j sc →
      ∃ sd, s.scripts[j]? = some sd ∧ s.Live j sd ∧ sc.resultPath = sd.resultPath := by
    intro j sc hj hl
    obtain ⟨sd, hsd, rfl⟩ := get_modify hj
    refine ⟨sd, hsd, ?_, by split <;> rfl⟩
    rcases hl with hl | hl
    · split at hl
      next hij => exact .inr (hij ▸ hi)
      next => exact .inl hl
    · cases hl
  refine ⟨⟨?_, ?_, ?_, ?_⟩, ?_, ?_, ?_, ?_⟩
  · show s.accepted = (s.scripts.modify i _).map Script.op ++ s.queue
    rw [map_op_modify]
    · exact hs.law.fifo
    · exact fun _ => rfl
  · intro j sc hj hexit hkilled
    obtain ⟨sd, hsd, rfl⟩ := get_modify hj
    split at hexit
    next hij => simp [hij] at hkilled
    next hij =>
      rw [if_neg hij] at hkilled
      have := hs.law.one j sd hsd hexit hkilled
      rw [hi, Option.some.injEq] at this
      exact absurd this hij
  · simpa [State.kill] using once_report hs hi .timeout
  · intro r hr
    rcases List.mem_append.1 hr with hr | hr
    · exact own_of_exitCode (hs.law.own r hr) fun code hcode =>
        exitCode_modify (fun _ _ h => h) hcode
    · rw [List.mem_singleton.1 hr]
      trivial
  · intro j hj
    cases hj
  · intro j sc hj hl
    obtain ⟨sd, hsd, hlive', hp⟩ := hlive hj hl
    rw [hp]
    exact hs.present j sd hsd hlive'
  · intro j k sc sd hj hl hk hl' hp
    obtain ⟨sc', hsc', hlive₁, hp₁⟩ := hlive hj hl
    obtain ⟨sd', hsd', hlive₂, hp₂⟩ := hlive hk hl'
    exact hs.distinct j k sc' sd' hsc' hlive₁ hsd' hlive₂ (by rw [← hp₁, ← hp₂, hp])
  · intro j sc f hj
    cases hj

omit [DecidableEq Path] in
/-- The result of a script that has exited: it reads a file nobody else has written. -/
theorem sourceOf_own (hs : Inv s) {i : ℕ} (hi : s.proc = some i) {code : UInt32}
    (hcode : s.exitCodeOf os i = code) (hne : code ≠ STILL_ACTIVE) :
    s.Own ⟨i, s.sourceOf os code⟩ := by
  obtain ⟨sc, hsc, hpath, -⟩ := hs.current i hi
  have hexit : s.scripts[i]?.bind Script.exitCode = some code := by
    unfold State.exitCodeOf at hcode
    split at hcode
    next => exact absurd hcode.symm hne
    next =>
      cases h : s.scripts[i]?.bind Script.exitCode with
      | none => exact absurd (by rw [← hcode, h]; rfl) hne
      | some c => rw [← hcode, h]; rfl
  cases hf : s.files sc.resultPath with
  | none => simpa only [State.sourceOf, hpath, hf, State.Own] using hexit
  | some f =>
    by_cases hopens : os.opens = true
    · have hown := hs.untouched i sc f hi hsc hf
      simpa only [State.sourceOf, hpath, hf, if_pos hopens, State.Own] using hown
    · simpa only [State.sourceOf, hpath, hf, if_neg hopens, State.Own] using hexit

theorem collect_inv (hs : Inv s) {i : ℕ} (hi : s.proc = some i) {code : UInt32}
    (hcode : s.exitCodeOf os i = code) (hne : code ≠ STILL_ACTIVE) : Inv (s.collect os i code) := by
  obtain ⟨sp, hsp, hpath, hkilled⟩ := hs.current i hi
  -- what is left alive was killed, so it was not the one whose file is deleted
  have hfiles : ∀ {j : ℕ} {sc : Script Path}, s.scripts[j]? = some sc → sc.killed = true →
      (s.collect os i code).files sc.resultPath = s.files sc.resultPath := by
    intro j sc hj hk
    have hpne : sc.resultPath ≠ sp.resultPath := by
      intro hp
      obtain rfl := hs.distinct j i sc sp hj (.inl hk) hsp (.inr hi) hp
      rw [hj, Option.some.injEq] at hsp
      rw [hsp, hkilled] at hk
      cases hk
    simp only [State.collect, hpath]
    split
    · rw [Function.update_of_ne hpne]
    · rfl
  have hlive : ∀ {j sc}, (s.collect os i code).Live j sc → sc.killed = true := by
    rintro j sc (hl | hl)
    · exact hl
    · cases hl
  refine ⟨⟨hs.law.fifo, ?_, ?_, ?_⟩, ?_, ?_, ?_, ?_⟩
  · intro j sc hj hexit hk
    have hji := hs.law.one j sc hj hexit hk
    rw [hi, Option.some.injEq] at hji
    subst hji
    have hexit' : s.exitCodeOf os i = STILL_ACTIVE := by
      unfold State.exitCodeOf
      split
      · rfl
      · rw [show s.scripts[i]? = some sc from hj]
        simp [hexit]
    exact absurd (hcode.symm.trans hexit') hne
  · simpa [State.collect] using once_report hs hi (s.sourceOf os code)
  · intro r hr
    rcases List.mem_append.1 hr with hr | hr
    · exact own_of_exitCode (hs.law.own r hr) fun _ h => h
    · rw [List.mem_singleton.1 hr]
      exact own_of_exitCode (sourceOf_own hs hi hcode hne) fun _ h => h
  · intro j hj
    cases hj
  · intro j sc hj hl
    rw [hfiles hj (hlive hl)]
    exact hs.present j sc hj (.inl (hlive hl))
  · intro j k sc sd hj hl hk hl'
    exact hs.distinct j k sc sd hj (.inl (hlive hl)) hk (.inl (hlive hl'))
  · intro j sc f hj
    cases hj

/-- What `Poll` can do; what it returns is for the script that was polled. -/
theorem poll_cases (h : s.Poll os = some t) :
    (s.proc = none ∧ s.pollReport os = none ∧ s.LaunchNext os = some t) ∨
    ∃ i, s.proc = some i ∧
      (s.exitCodeOf os i = STILL_ACTIVE ∧
          (s.now - s.launchTime ≤ timeout ∧ s.pollReport os = none ∧ t = s ∨
            timeout < s.now - s.launchTime ∧ s.pollReport os = some ⟨i, .timeout⟩ ∧
              (s.kill i).LaunchNext os = some t) ∨
        s.exitCodeOf os i ≠ STILL_ACTIVE ∧
          s.pollReport os = some ⟨i, s.sourceOf os (s.exitCodeOf os i)⟩ ∧
          (s.collect os i (s.exitCodeOf os i)).LaunchNext os = some t) := by
  unfold State.Poll at h
  unfold State.pollReport
  cases hproc : s.proc with
  | none =>
    rw [hproc] at h
    exact .inl ⟨rfl, rfl, h⟩
  | some i =>
    rw [hproc] at h
    refine .inr ⟨i, rfl, ?_⟩
    dsimp only at h ⊢
    by_cases hactive : s.exitCodeOf os i = STILL_ACTIVE
    · rw [if_pos hactive] at h ⊢
      refine .inl ⟨hactive, ?_⟩
      by_cases hlate : s.now - s.launchTime > timeout
      · rw [if_pos hlate] at h ⊢
        exact .inr ⟨hlate, rfl, h⟩
      · rw [if_neg hlate] at h ⊢
        exact .inl ⟨not_lt.1 hlate, rfl, (Option.some.inj h).symm⟩
    · rw [if_neg hactive] at h ⊢
      exact .inr ⟨hactive, rfl, h⟩

/-- What the three `Start` functions can do. -/
theorem start_cases {op : PendingOp} (h : s.start os op = some t) :
    (8 ≤ s.queue.length ∧ t = s) ∨
    s.queue.length < 8 ∧
      (s.proc.isSome = true ∧
          t = { s with queue := s.queue ++ [op], accepted := s.accepted ++ [op] } ∨
        s.proc = none ∧
          State.LaunchNext { s with queue := s.queue ++ [op], accepted := s.accepted ++ [op] } os =
            some t) := by
  unfold State.start at h
  split at h
  next hfull => exact .inl ⟨hfull, (Option.some.inj h).symm⟩
  next hfull =>
    refine .inr ⟨not_le.1 hfull, ?_⟩
    dsimp only at h
    split at h
    next hrun => exact .inl ⟨hrun, (Option.some.inj h).symm⟩
    next hrun => exact .inr ⟨by simpa using hrun, h⟩

omit [DecidableEq Path] in
/-- An operation that is accepted is last in the queue. -/
theorem accept_inv (hs : Inv s) (op : PendingOp) :
    Inv { s with queue := s.queue ++ [op], accepted := s.accepted ++ [op] } where
  law := by
    refine ⟨?_, hs.law.one, hs.law.once, fun r hr => own_of_exitCode (hs.law.own r hr) fun _ h => h⟩
    show s.accepted ++ [op] = s.scripts.map Script.op ++ (s.queue ++ [op])
    rw [hs.law.fifo, List.append_assoc]
  current := hs.current
  present := hs.present
  distinct := hs.distinct
  untouched := hs.untouched

theorem poll_inv (hs : Inv s) (hc : Creates s (.Poll os)) (h : s.Poll os = some t) : Inv t := by
  have hcreates : s.launches (.Poll os) = true → os.creates = true := fun hl => hc hl os rfl
  obtain ⟨hproc, -, hl⟩ | ⟨i, hi, ⟨hactive, ⟨-, -, rfl⟩ | ⟨hlate, -, hl⟩⟩ | ⟨hexit, -, hl⟩⟩ :=
    poll_cases h
  · refine launchNext_inv hs hproc (fun hq => hcreates ?_) hl
    simp [State.launches, hproc, hq]
  · exact hs
  · refine launchNext_inv (kill_inv hs hi) rfl (fun hq => hcreates ?_) hl
    have hq : s.queue ≠ [] := hq
    simp [State.launches, hi, hq, hlate]
  · refine launchNext_inv (collect_inv hs hi rfl hexit) rfl (fun hq => hcreates ?_) hl
    have hq : s.queue ≠ [] := hq
    simp [State.launches, hi, hq, hexit]

theorem start_inv {op : PendingOp} (hs : Inv s)
    (hc : s.queue.length < 8 → s.proc = none → os.creates = true) (h : s.start os op = some t) :
    Inv t := by
  obtain ⟨-, rfl⟩ | ⟨hroom, ⟨-, rfl⟩ | ⟨hidle, hl⟩⟩ := start_cases h
  · exact hs
  · exact accept_inv hs op
  · exact launchNext_inv (accept_inv hs op) hidle (fun _ => hc hroom hidle) hl

/-- A script writes to its own file only. -/
theorem write_inv (hs : Inv s) {i : ℕ} {text : String} (h : s.write i text = some t) : Inv t := by
  unfold State.write at h
  split at h
  next => cases h
  next sc hsc =>
    split at h
    next hmay =>
      have hlive : s.Live i sc := by
        by_cases hk : sc.killed = true
        · exact .inl hk
        · exact .inr (hs.law.one i sc hsc (hmay.resolve_right hk) (by simpa using hk))
      obtain rfl := Option.some.inj h
      refine ⟨⟨hs.law.fifo, hs.law.one, hs.law.once, ?_⟩, hs.current, ?_, hs.distinct, ?_⟩
      · exact fun r hr => own_of_exitCode (hs.law.own r hr) fun _ h => h
      · intro j sd hj hl
        dsimp only
        by_cases hp : sd.resultPath = sc.resultPath
        · rw [hp, Function.update_self]
          exact Option.some_ne_none _
        · rw [Function.update_of_ne hp]
          exact hs.present j sd hj hl
      · intro j sd f hj hsd hf
        dsimp only at hf
        by_cases hp : sd.resultPath = sc.resultPath
        · obtain rfl := hs.distinct j i sd sc hsd (.inr hj) hsc hlive hp
          rw [hp, Function.update_self, Option.some.injEq] at hf
          exact .inr (hf ▸ rfl)
        · rw [Function.update_of_ne hp] at hf
          exact hs.untouched j sd f hj hsd hf
    next => cases h

omit [DecidableEq Path] in
theorem exit_inv (hs : Inv s) {i : ℕ} {code : UInt32} (h : s.exit i code = some t) : Inv t := by
  unfold State.exit at h
  split at h
  next => cases h
  next sc hsc =>
    split at h
    next hruns =>
      obtain rfl := Option.some.inj h
      have hget : ∀ {j : ℕ} {sd : Script Path},
          (s.scripts.modify i fun sc => { sc with exitCode := some code })[j]? = some sd →
            ∃ se : Script Path, s.scripts[j]? = some se ∧ sd.resultPath = se.resultPath ∧
              sd.killed = se.killed ∧ (sd.exitCode = none → se.exitCode = none) := by
        intro j sd hj
        obtain ⟨se, hse, rfl⟩ := get_modify hj
        refine ⟨se, hse, by split <;> rfl, by split <;> rfl, fun hx => ?_⟩
        split at hx
        · cases hx
        · exact hx
      have hlive : ∀ {j : ℕ} {sd se : Script Path}, sd.killed = se.killed →
          (sd.killed = true ∨ s.proc = some j) → s.Live j se :=
        fun hk hl => hl.imp_left fun h => hk ▸ h
      refine ⟨⟨?_, ?_, ?_, ?_⟩, ?_, ?_, ?_, ?_⟩
      · show s.accepted = (s.scripts.modify i _).map Script.op ++ s.queue
        rw [map_op_modify]
        · exact hs.law.fifo
        · exact fun _ => rfl
      · intro j sd hj hexit hk
        obtain ⟨se, hse, -, hk', hx⟩ := hget hj
        exact hs.law.one j se hse (hx hexit) (hk' ▸ hk)
      · simpa using hs.law.once
      · intro r hr
        refine own_of_exitCode (hs.law.own r hr) fun c hcode => exitCode_modify ?_ hcode
        intro se hse hsome
        rw [hsc, Option.some.injEq] at hse
        rw [← hse, hruns] at hsome
        cases hsome
      · intro j hj
        obtain ⟨sd, hsd, hpath, hk⟩ := hs.current j hj
        refine ⟨if i = j then { sd with exitCode := some code } else sd, ?_, ?_, ?_⟩
        · show (s.scripts.modify i _)[j]? = _
          rw [List.getElem?_modify, hsd]
          rfl
        · rw [hpath]
          split <;> rfl
        · rw [← hk]
          split <;> rfl
      · intro j sd hj hl
        obtain ⟨se, hse, hp, hk, -⟩ := hget hj
        rw [hp]
        exact hs.present j se hse (hlive hk hl)
      · intro j k sd sd' hj hl hk hl' hp
        obtain ⟨se, hse, hp₁, hk₁, -⟩ := hget hj
        obtain ⟨se', hse', hp₂, hk₂, -⟩ := hget hk
        exact hs.distinct j k se se' hse (hlive hk₁ hl) hse' (hlive hk₂ hl')
          (by rw [← hp₁, ← hp₂, hp])
      · intro j sd f hj hsd hf
        obtain ⟨se, hse, hp, -, -⟩ := hget hsd
        exact hs.untouched j se f hj hse (hp ▸ hf)
    next => cases h

/-- A step in which the process is created, if it comes to that, keeps the invariant. -/
theorem step_inv {e : Event Path} (hs : Inv s) (hc : Creates s e) (h : step s e = some t) :
    Inv t := by
  have hstart : ∀ {op os}, s.start os op = some t →
      s.launches e = (decide (s.queue.length < 8) && s.proc.isNone) → os ∈ e.os? → Inv t := by
    intro op os h hl hos
    refine start_inv hs (fun hroom hidle => hc ?_ os hos) h
    simp [hl, hroom, hidle]
  cases e with
  | StartAdd _ _ _ os | StartUpdate _ _ os | StartRemove _ os => exact hstart h rfl rfl
  | Poll os => exact poll_inv hs hc h
  | write => exact write_inv hs h
  | exit => exact exit_inv hs h
  | wait elapsed =>
    cases h
    exact
      { law :=
          ⟨hs.law.fifo, hs.law.one, hs.law.once,
            fun r hr => own_of_exitCode (hs.law.own r hr) fun _ h => h⟩
        current := hs.current
        present := hs.present
        distinct := hs.distinct
        untouched := hs.untouched }

/-- The operation of a process that cannot be created is nowhere any more. -/
theorem launchNext_lost (hs : s.accepted.length = s.scripts.length + s.queue.length)
    (hq : s.queue ≠ []) (hc : os.creates = false) (h : s.LaunchNext os = some t) :
    t.accepted.length = t.scripts.length + t.queue.length + 1 := by
  obtain ⟨hnil, -⟩ | ⟨op, rest, hq', -, ⟨hc', -⟩ | ⟨-, rfl⟩⟩ := launchNext_cases h
  · exact absurd hnil hq
  · rw [hc] at hc'
    cases hc'
  · show s.accepted.length = s.scripts.length + rest.length + 1
    rw [hs, hq', List.length_cons, Nat.add_assoc]

omit [DecidableEq Path] in
theorem Law.length (hs : s.Law) : s.accepted.length = s.scripts.length + s.queue.length := by
  rw [hs.fifo, List.length_append, List.length_map]

/-- A process that cannot be created costs an operation its result. -/
theorem creates_of_law {e : Event Path} (hs : Inv s) (h : step s e = some t) (ht : t.Law) :
    Creates s e := by
  intro hl os hos
  by_contra hc
  rw [Bool.not_eq_true] at hc
  suffices hlost : t.accepted.length = t.scripts.length + t.queue.length + 1 by
    have := Law.length ht
    omega
  have hlen := Law.length hs.law
  have hstart : ∀ {op}, s.start os op = some t →
      s.launches e = (decide (s.queue.length < 8) && s.proc.isNone) →
      t.accepted.length = t.scripts.length + t.queue.length + 1 := by
    intro op h hl'
    rw [hl', Bool.and_eq_true, decide_eq_true_iff, Option.isNone_iff_eq_none] at hl
    obtain ⟨hfull, -⟩ | ⟨-, ⟨hrun, -⟩ | ⟨-, hn⟩⟩ := start_cases h
    · omega
    · rw [hl.2] at hrun
      cases hrun
    · refine launchNext_lost ?_ (by simp) hc hn
      simp only [List.length_append, List.length_singleton]
      omega
  cases e with
  | StartAdd _ _ _ os' | StartUpdate _ _ os' | StartRemove _ os' =>
    obtain rfl : os' = os := Option.some.inj hos
    exact hstart h rfl
  | Poll os' =>
    obtain rfl : os' = os := Option.some.inj hos
    simp only [State.launches, Bool.and_eq_true, Bool.not_eq_true', List.isEmpty_eq_false_iff] at hl
    obtain ⟨-, -, hn⟩ | ⟨i, hi, ⟨hactive, ⟨hin, -, -⟩ | ⟨-, -, hn⟩⟩ | ⟨-, -, hn⟩⟩ := poll_cases h
    · exact launchNext_lost hlen hl.1 hc hn
    · have := hl.2
      rw [hi] at this
      simp only [hactive, ne_eq, not_true_eq_false, decide_false, Bool.false_or,
        decide_eq_true_iff] at this
      omega
    · have hlen' : (s.kill i).accepted.length = (s.kill i).scripts.length + s.queue.length := by
        simpa [State.kill] using hlen
      exact launchNext_lost hlen' hl.1 hc hn
    · have hlen' : (s.collect os' i (s.exitCodeOf os' i)).accepted.length =
          s.scripts.length + s.queue.length := hlen
      exact launchNext_lost hlen' hl.1 hc hn
  | write | exit | wait => cases hos

/-! ## Progress -/

/-- The launches and the reports so far. -/
def State.progress (s : State Path) : ℕ := s.scripts.length + s.reports.length

omit [DecidableEq Path] in
/-- At most one script is not reported. -/
theorem Law.reports_length (hs : s.Law) :
    s.reports.length + s.proc.toList.length = s.scripts.length := by
  have := congrArg List.length hs.once
  rwa [List.length_append, List.length_map, List.length_range] at this

/-- A launch that comes to it is progress, and keeps what is accepted. -/
theorem launchNext_progress (hcreates : s.queue ≠ [] → os.creates = true)
    (h : s.LaunchNext os = some t) :
    t.accepted = s.accepted ∧ s.progress ≤ t.progress ∧
      (s.queue ≠ [] → s.progress < t.progress) := by
  obtain ⟨hnil, rfl⟩ | ⟨op, rest, hq, -, ⟨-, rfl⟩ | ⟨hc, -⟩⟩ := launchNext_cases h
  · exact ⟨rfl, le_rfl, fun hne => absurd hnil hne⟩
  · refine ⟨rfl, ?_, fun _ => ?_⟩
    · simp only [State.progress, List.length_append, List.length_singleton]
      omega
    · simp only [State.progress, List.length_append, List.length_singleton]
      omega
  · rw [hcreates (by rw [hq]; simp)] at hc
    cases hc

omit [DecidableEq Path] in
/-- Nothing is left over once the launches and the reports are two for each operation. -/
theorem Law.reported (hs : s.Law) {n : ℕ} (h : 2 * n ≤ s.progress) : n ≤ s.reports.length := by
  have hlen := Law.reports_length hs
  have hone : s.proc.toList.length ≤ 1 := by cases s.proc <;> simp
  simp only [State.progress] at h
  omega

/-- What `Poll` does to the progress. -/
theorem poll_progress (hs : Inv s) (hc : Creates s (.Poll os)) (h : s.Poll os = some t) :
    t.accepted = s.accepted ∧ s.progress ≤ t.progress ∧
      (s.late (.Poll os) = true →
        2 * s.accepted.length ≤ s.progress ∨ s.progress < t.progress) := by
  have hcreates : s.launches (.Poll os) = true → os.creates = true := fun hl => hc hl os rfl
  have hlen := Law.length hs.law
  obtain ⟨hproc, -, hl⟩ | ⟨i, hi, ⟨hactive, ⟨hin, -, rfl⟩ | ⟨hlate, -, hl⟩⟩ | ⟨hexit, -, hl⟩⟩ :=
    poll_cases h
  · obtain ⟨hacc, hle, hlt⟩ := launchNext_progress (fun hq => hcreates (by
      simp [State.launches, hproc, hq])) hl
    refine ⟨hacc, hle, fun _ => ?_⟩
    by_cases hq : s.queue = []
    · have hrep := Law.reports_length hs.law
      rw [hproc] at hrep
      rw [hq] at hlen
      simp only [Option.toList_none, List.length_nil, Nat.add_zero] at hrep hlen
      simp only [State.progress]
      omega
    · exact .inr (hlt hq)
  · refine ⟨rfl, le_rfl, fun hl => ?_⟩
    rw [State.late, hi, Option.isNone_some, Bool.false_or, decide_eq_true_iff] at hl
    omega
  · obtain ⟨hacc, hle, -⟩ := launchNext_progress (fun hq => hcreates (by
      have hq : s.queue ≠ [] := hq
      simp [State.launches, hi, hq, hlate])) hl
    have hkill : (s.kill i).progress = s.progress + 1 := by
      simp only [State.progress, State.kill, List.length_modify, List.length_append,
        List.length_singleton, Nat.add_assoc]
    exact ⟨hacc, by omega, fun _ => .inr (by omega)⟩
  · obtain ⟨hacc, hle, -⟩ := launchNext_progress (fun hq => hcreates (by
      have hq : s.queue ≠ [] := hq
      simp [State.launches, hi, hq, hexit])) hl
    have hcollect : (s.collect os i (s.exitCodeOf os i)).progress = s.progress + 1 := by
      simp only [State.progress, State.collect, List.length_append, List.length_singleton,
        Nat.add_assoc]
    exact ⟨hacc, by omega, fun _ => .inr (by omega)⟩

/-- What a `Start` call does to the progress. -/
theorem start_progress {op : PendingOp}
    (hc : s.queue.length < 8 → s.proc = none → os.creates = true) (h : s.start os op = some t) :
    s.accepted <+: t.accepted ∧ s.progress ≤ t.progress := by
  obtain ⟨-, rfl⟩ | ⟨hroom, ⟨-, rfl⟩ | ⟨hidle, hl⟩⟩ := start_cases h
  · exact ⟨List.prefix_rfl, le_rfl⟩
  · exact ⟨List.prefix_append .., le_rfl⟩
  · obtain ⟨hacc, hle, -⟩ := launchNext_progress (fun _ => hc hroom hidle) hl
    rw [hacc]
    exact ⟨List.prefix_append .., hle⟩

/-- No step loses progress or what has been accepted; a late `Poll` makes progress while something
    is left to do. -/
theorem step_progress {e : Event Path} (hs : Inv s) (hc : Creates s e) (h : step s e = some t)
    (n : ℕ) (hn : n ≤ s.accepted.length) :
    s.accepted <+: t.accepted ∧
      min (2 * n) (s.progress + (s.late e).toNat) ≤ t.progress := by
  have hstart : ∀ {op os}, s.start os op = some t →
      s.launches e = (decide (s.queue.length < 8) && s.proc.isNone) → os ∈ e.os? →
      s.accepted <+: t.accepted ∧ s.progress ≤ t.progress := by
    intro op os h hl hos
    refine start_progress (fun hroom hidle => hc ?_ os hos) h
    simp [hl, hroom, hidle]
  cases e with
  | StartAdd _ _ _ os | StartUpdate _ _ os | StartRemove _ os =>
    obtain ⟨hacc, hle⟩ := hstart h rfl rfl
    exact ⟨hacc, (min_le_right _ _).trans hle⟩
  | Poll os =>
    obtain ⟨hacc, hle, hlate⟩ := poll_progress hs hc h
    refine ⟨hacc ▸ List.prefix_rfl, ?_⟩
    cases hl : s.late (.Poll os) with
    | false => exact (min_le_right _ _).trans hle
    | true =>
      rcases hlate hl with hdone | hlt
      · exact (min_le_left _ _).trans (by omega)
      · exact (min_le_right _ _).trans hlt
  | write i text =>
    simp only [step, State.write] at h
    split at h
    next => cases h
    next =>
      split at h
      next =>
        cases h
        exact ⟨List.prefix_rfl, min_le_right _ _⟩
      next => cases h
  | exit i code =>
    simp only [step, State.exit] at h
    split at h
    next => cases h
    next =>
      split at h
      next =>
        cases h
        refine ⟨List.prefix_rfl, (min_le_right _ _).trans ?_⟩
        simp only [State.progress, List.length_modify]
        exact le_rfl
      next => cases h
  | wait =>
    cases h
    exact ⟨List.prefix_rfl, min_le_right _ _⟩

/-- A run whose late polls are two for each operation reports them. -/
theorem run_progress {run : List (Event Path)} (n : ℕ) (hs : Inv s)
    (hc : AllSteps step Creates s run) (h : runTo step s run = some t) (hn : n ≤ s.accepted.length) :
    Inv t ∧ s.accepted <+: t.accepted ∧
      min (2 * n) (s.progress + latePolls s run) ≤ t.progress := by
  induction run generalizing s with
  | nil =>
    cases h
    exact ⟨hs, List.prefix_rfl, min_le_right _ _⟩
  | cons e run ih =>
    obtain ⟨u, hu, hrun⟩ := Option.bind_eq_some_iff.1 h
    obtain ⟨hce, hcr⟩ := hc u hu
    obtain ⟨hacc, hle⟩ := step_progress hs hce hu n hn
    obtain ⟨hinv, hacc', hle'⟩ := ih (step_inv hs hce hu) hcr hrun (hn.trans hacc.length_le)
    refine ⟨hinv, hacc.trans hacc', ?_⟩
    have hsplit : latePolls s (e :: run) = (s.late e).toNat + latePolls u run := by
      simp only [latePolls, hu]
    omega

/-- The report `Poll` returns is the one it adds. -/
theorem poll_reports (h : s.Poll os = some t) :
    t.reports = s.reports ++ (s.pollReport os).toList := by
  have hlaunch : ∀ {u : State Path}, u.LaunchNext os = some t → t.reports = u.reports := by
    intro u hu
    obtain ⟨-, rfl⟩ | ⟨op, rest, -, -, ⟨-, rfl⟩ | ⟨-, rfl⟩⟩ := launchNext_cases hu <;> rfl
  obtain ⟨-, hr, hl⟩ | ⟨i, -, ⟨-, ⟨-, hr, rfl⟩ | ⟨-, hr, hl⟩⟩ | ⟨-, hr, hl⟩⟩ := poll_cases h
  · rw [hr, hlaunch hl, Option.toList_none, List.append_nil]
  · rw [hr, Option.toList_none, List.append_nil]
  · rw [hr, hlaunch hl]
    rfl
  · rw [hr, hlaunch hl]
    rfl

end Steps

/-- Every operation that is accepted is reported once, with a result of its own, and the operations
    are launched in order and one at a time, exactly in the runs in which every process that a call
    comes to create is created.  Every such run goes on to report all that it has accepted: it does
    so by the time `Poll` has been called twice for each operation with no script running, or with
    one that is out of time.  What is reported is what `Poll` returns. -/
theorem reports_every_operation (run : List (Event Path)) :
    (Always step State.Law {} run ↔ AllSteps step Creates {} run) ∧
    (∀ (s t : State Path) more, AllSteps step Creates {} run → runTo step {} run = some s →
      AllSteps step Creates s more → runTo step s more = some t →
      2 * s.accepted.length ≤ latePolls s more →
      ∀ k op, s.accepted[k]? = some op → ∃ (r : Report) (sc : Script Path),
        t.reports[k]? = some r ∧ r.script = k ∧ t.scripts[k]? = some sc ∧ sc.op = op) ∧
    ∀ (s t : State Path) os, s.Poll os = some t →
      t.reports.map (Source.result parse ∘ Report.source) =
        s.reports.map (Source.result parse ∘ Report.source) ++ (s.PollResult parse os).toList := by
  refine ⟨?_, ?_, ?_⟩
  · exact Always.iff_of_inv (fun _ _ _ => step_inv) (fun _ hs => hs.law)
      (fun _ _ _ => creates_of_law) init_inv
  · intro s t more hrun hs hmore ht hlate k op hk
    have hinv : Inv s :=
      (Always.of_inv (fun _ _ _ => step_inv) (fun _ hs => hs) init_inv hrun).runTo hs
    obtain ⟨hinv', hacc, hle⟩ := run_progress s.accepted.length hinv hmore ht le_rfl
    have hrep := Law.reported hinv'.law (n := s.accepted.length) (by omega)
    have hlt : k < s.accepted.length := (List.getElem?_eq_some_iff.1 hk).1
    have honce := Law.reports_length hinv'.law
    obtain ⟨r, hr⟩ : ∃ r, t.reports[k]? = some r :=
      ⟨_, List.getElem?_eq_getElem (hlt.trans_le hrep)⟩
    obtain ⟨sc, hsc⟩ : ∃ sc, t.scripts[k]? = some sc :=
      ⟨_, List.getElem?_eq_getElem (by omega)⟩
    refine ⟨r, sc, hr, ?_, hsc, ?_⟩
    · have hget : (t.reports.map Report.script ++ t.proc.toList)[k]? = some r.script := by
        rw [List.getElem?_append_left (by rw [List.length_map]; omega), List.getElem?_map, hr]
        rfl
      rw [hinv'.law.once, List.getElem?_range (by omega), Option.some.injEq] at hget
      exact hget.symm
    · have hget : t.accepted[k]? = some op := by
        obtain ⟨rest, hrest⟩ := hacc
        rw [← hrest, List.getElem?_append_left hlt, hk]
      rw [hinv'.law.fifo, List.getElem?_append_left (by rw [List.length_map]; omega),
        List.getElem?_map, hsc] at hget
      exact Option.some.inj hget
  · intro s t os h
    rw [poll_reports h, List.map_append, State.PollResult]
    cases s.pollReport os <;> rfl

/-- A process that cannot be created: the operation is neither launched nor queued, and the next
    `Poll` returns nothing. -/
theorem launch_failure_unreported :
    ¬ Always step State.Law ({} : State ℕ) [.StartRemove "a" { tmp := 0, creates := false }] ∧
      ∃ t u : State ℕ, step {} (.StartRemove "a" { tmp := 0, creates := false }) = some t ∧
        t.accepted.length = 1 ∧ t.PollResult (fun _ => none) { tmp := 1 } = none ∧
        step t (.Poll { tmp := 1 }) = some u ∧ u.queue = [] ∧ u.proc = none ∧ u.reports = [] := by
  refine ⟨fun h => ?_, _, _, rfl, rfl, rfl, rfl, rfl, rfl, rfl⟩
  have hlaw := (h.2 _ rfl).fifo
  cases hlaw

end WKPairDriver.FaceTracking.ModuleSyncRunner
