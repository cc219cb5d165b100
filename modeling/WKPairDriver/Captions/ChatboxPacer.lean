import Mathlib

/-!
# Pacing the chatbox: `ChatboxPacer`

The pacer queues messages and hands one out at a time, no sooner than the configured gap after the
one before. A full queue drops its oldest message for the new one.

* `step_queue` — a call delivers the oldest message, drops it from a full queue, adds one behind
  all others, or leaves the queue alone.
* `run_inv` — the queue holds the newest messages after the last delivered one, as many as fit.
* `run_paced` — what a run delivers: the messages of an increasing list of numbers, at least the
  gap apart, with that queue behind them.
-/

set_option autoImplicit false

namespace WKPairDriver.Captions

structure ChatboxPacer.Entry where
  text : List UInt8
  send_immediate : Bool
  notify : Bool
  deriving DecidableEq

/-- `last_send_` counts the nanoseconds of the steady clock. -/
structure ChatboxPacer where
  min_gap_sec_ : ℚ
  queue_ : List ChatboxPacer.Entry
  last_send_ : ℤ
  first_send_ : Bool

namespace ChatboxPacer

def kQueueCap : ℕ := 8

def new (min_gap_sec : ℚ) : ChatboxPacer := ⟨min_gap_sec, [], 0, true⟩

def Enqueue (p : ChatboxPacer) (text : List UInt8) (send_immediate notify : Bool) :
    ChatboxPacer :=
  let queue := if p.queue_.length ≥ kQueueCap then p.queue_.tail else p.queue_
  { p with queue_ := queue ++ [⟨text, send_immediate, notify⟩] }

/-- `duration<double>` of a number of nanoseconds. -/
def seconds (ticks : ℤ) : ℚ := ticks / 1000000000

def Dequeue (p : ChatboxPacer) (now : ℤ) : ChatboxPacer × Option Entry :=
  match p.queue_ with
  | [] => (p, none)
  | out :: rest =>
    if !p.first_send_ ∧ seconds (now - p.last_send_) < p.min_gap_sec_ then (p, none)
    else ({ p with queue_ := rest, last_send_ := now, first_send_ := false }, some out)

/-! ## Runs -/

inductive Call where
  | Enqueue (text : List UInt8) (send_immediate notify : Bool)
  | Dequeue (now : ℤ)

/-- The time a call reads off the clock. -/
def Call.now? : Call → Option ℤ
  | .Enqueue .. => none
  | .Dequeue now => some now

/-- A pacer, the messages it was given, and those it has handed out with their times. -/
structure Session where
  pacer : ChatboxPacer
  enqueued : List Entry
  sent : List (Entry × ℤ)

def step (s : Session) : Call → Session
  | .Enqueue text send_immediate notify =>
    { s with
      pacer := s.pacer.Enqueue text send_immediate notify
      enqueued := s.enqueued ++ [⟨text, send_immediate, notify⟩] }
  | .Dequeue now =>
    match s.pacer.Dequeue now with
    | (p, none) => { s with pacer := p }
    | (p, some out) => { s with pacer := p, sent := s.sent ++ [(out, now)] }

def run (min_gap_sec : ℚ) (calls : List Call) : Session :=
  calls.foldl step ⟨new min_gap_sec, [], []⟩

theorem run_snoc (gap : ℚ) (calls : List Call) (call : Call) :
    run gap (calls ++ [call]) = step (run gap calls) call := by
  rw [run, List.foldl_append]
  rfl

/-- What one call does to the queue. -/
inductive Moves (s : Session) : Session → Prop
  /-- The new message goes behind the others. -/
  | added (e : Entry) (t : Session) (hroom : s.pacer.queue_.length < kQueueCap)
      (hqueue : t.pacer.queue_ = s.pacer.queue_ ++ [e])
      (henqueued : t.enqueued = s.enqueued ++ [e]) (hsent : t.sent = s.sent) : Moves s t
  /-- The queue is full: its oldest message makes room for the new one. -/
  | evicted (oldest e : Entry) (rest : List Entry) (t : Session)
      (hfull : s.pacer.queue_.length = kQueueCap) (holdest : s.pacer.queue_ = oldest :: rest)
      (hqueue : t.pacer.queue_ = rest ++ [e])
      (henqueued : t.enqueued = s.enqueued ++ [e]) (hsent : t.sent = s.sent) : Moves s t
  /-- The oldest message is delivered. -/
  | delivered (oldest : Entry) (rest : List Entry) (now : ℤ) (t : Session)
      (holdest : s.pacer.queue_ = oldest :: rest) (hqueue : t.pacer.queue_ = rest)
      (henqueued : t.enqueued = s.enqueued) (hsent : t.sent = s.sent ++ [(oldest, now)]) : Moves s t
  /-- Nothing to deliver, or not yet. -/
  | unchanged : Moves s s

theorem Dequeue_cases (p : ChatboxPacer) (now : ℤ) :
    p.Dequeue now = (p, none) ∨ ∃ out rest, p.queue_ = out :: rest ∧
      (p.first_send_ = true ∨ p.min_gap_sec_ ≤ seconds (now - p.last_send_)) ∧
      p.Dequeue now =
        ({ p with queue_ := rest, last_send_ := now, first_send_ := false }, some out) := by
  cases hqueue : p.queue_ with
  | nil => exact .inl (by rw [Dequeue, hqueue])
  | cons out rest =>
    by_cases hgap : !p.first_send_ ∧ seconds (now - p.last_send_) < p.min_gap_sec_
    · exact .inl (by rw [Dequeue, hqueue]; exact if_pos hgap)
    · refine .inr ⟨out, rest, rfl, ?_, by rw [Dequeue, hqueue]; exact if_neg hgap⟩
      rw [not_and_or, not_lt] at hgap
      simpa using hgap

theorem step_enqueue_room {s : Session} (text : List UInt8) (send_immediate notify : Bool)
    (hroom : s.pacer.queue_.length < kQueueCap) :
    (step s (.Enqueue text send_immediate notify)).pacer.queue_ =
      s.pacer.queue_ ++ [⟨text, send_immediate, notify⟩] := by
  simp only [step, Enqueue]
  rw [if_neg (Nat.not_le.2 hroom)]

theorem step_enqueue_full {s : Session} (text : List UInt8) (send_immediate notify : Bool)
    (hfull : kQueueCap ≤ s.pacer.queue_.length) :
    (step s (.Enqueue text send_immediate notify)).pacer.queue_ =
      s.pacer.queue_.tail ++ [⟨text, send_immediate, notify⟩] := by
  simp only [step, Enqueue]
  rw [if_pos hfull]

/-- **What a call does to a queue within its capacity.** -/
theorem step_queue {s : Session} (hcap : s.pacer.queue_.length ≤ kQueueCap) (call : Call) :
    Moves s (step s call) := by
  cases call with
  | Enqueue text send_immediate notify =>
    rcases Nat.lt_or_eq_of_le hcap with hroom | hfull
    · exact .added _ _ hroom (step_enqueue_room text send_immediate notify hroom) rfl rfl
    · have hqueue := step_enqueue_full text send_immediate notify hfull.ge
      cases hold : s.pacer.queue_ with
      | nil => rw [hold] at hfull; cases hfull
      | cons oldest rest =>
        rw [hold, List.tail_cons] at hqueue
        exact .evicted oldest _ rest _ hfull hold hqueue rfl rfl
  | Dequeue now =>
    rcases Dequeue_cases s.pacer now with hnone | ⟨out, rest, hqueue, -, hsome⟩
    · have hstep : step s (.Dequeue now) = s := by simp only [step, hnone]
      rw [hstep]
      exact .unchanged
    · have hstep : step s (.Dequeue now) =
          { s with
            pacer := { s.pacer with queue_ := rest, last_send_ := now, first_send_ := false }
            sent := s.sent ++ [(out, now)] } := by simp only [step, hsome]
      rw [hstep]
      exact .delivered out rest now _ hqueue rfl rfl rfl

/-! ## Which messages are delivered -/

/-- The number of the first message after those of these numbers. -/
def next (numbers : List ℕ) : ℕ := numbers.getLast?.elim 0 (· + 1)

@[simp] theorem next_snoc (numbers : List ℕ) (n : ℕ) : next (numbers ++ [n]) = n + 1 := by
  simp [next]

/-- The messages of these numbers are those delivered so far, and the queue holds the newest ones
    after the last of them, as many as fit. -/
structure Delivered (s : Session) (numbers : List ℕ) : Prop where
  increasing : numbers.Pairwise (· < ·)
  below : ∀ n ∈ numbers, n < next numbers
  bound : next numbers ≤ s.enqueued.length
  sent : numbers.map (s.enqueued[·]?) = s.sent.map (some ·.1)
  queue : s.pacer.queue_ = (s.enqueued.drop (next numbers)).rtake kQueueCap

theorem length_rtake {α : Type*} (l : List α) (n : ℕ) : (l.rtake n).length = min n l.length := by
  rw [List.rtake, List.length_drop]
  omega

theorem Delivered.cap {s : Session} {numbers : List ℕ} (h : Delivered s numbers) :
    s.pacer.queue_.length ≤ kQueueCap := by
  rw [h.queue, length_rtake]
  exact Nat.min_le_left _ _

/-- A new message changes the number of none before it. -/
theorem Delivered.sent_snoc {s : Session} {numbers : List ℕ} (h : Delivered s numbers)
    (e : Entry) :
    numbers.map ((s.enqueued ++ [e])[·]?) = s.sent.map (some ·.1) := by
  rw [← h.sent]
  refine List.map_congr_left fun n hn => ?_
  exact List.getElem?_append_left ((h.below n hn).trans_le h.bound)

/-- The newest messages after one more was added. -/
theorem rtake_added (l : List Entry) (e : Entry) :
    (l ++ [e]).rtake kQueueCap =
      (if kQueueCap ≤ (l.rtake kQueueCap).length then (l.rtake kQueueCap).tail
        else l.rtake kQueueCap) ++ [e] := by
  rw [kQueueCap, List.rtake_concat_succ, length_rtake]
  congr 1
  split
  · rw [List.rtake, List.rtake, List.tail_drop]
    congr 1
    omega
  · rw [List.rtake, List.rtake, Nat.sub_eq_zero_of_le (by omega), Nat.sub_eq_zero_of_le (by omega)]

/-- **A call keeps the account of the deliveries**, with one number more when it delivers. -/
theorem step_delivered {s : Session} {numbers : List ℕ} (h : Delivered s numbers) (call : Call) :
    ∃ numbers, Delivered (step s call) numbers := by
  have hmoves := step_queue h.cap call
  generalize step s call = t at hmoves ⊢
  cases hmoves with
  | added e _ hroom hqueue henqueued hsent =>
    refine ⟨numbers, h.increasing, h.below, ?_, ?_, ?_⟩
    · rw [henqueued, List.length_append]
      exact h.bound.trans (Nat.le_add_right _ _)
    · rw [henqueued, hsent]
      exact h.sent_snoc e
    · rw [hqueue, henqueued, List.drop_append_of_le_length h.bound, rtake_added, ← h.queue,
        if_neg (Nat.not_le.2 hroom)]
  | evicted oldest e rest _ hfull hold hqueue henqueued hsent =>
    refine ⟨numbers, h.increasing, h.below, ?_, ?_, ?_⟩
    · rw [henqueued, List.length_append]
      exact h.bound.trans (Nat.le_add_right _ _)
    · rw [henqueued, hsent]
      exact h.sent_snoc e
    · rw [hqueue, henqueued, List.drop_append_of_le_length h.bound, rtake_added, ← h.queue,
        if_pos hfull.ge, hold, List.tail_cons]
  | delivered oldest rest now _ hold hqueue henqueued hsent =>
    -- the oldest of the queue is the message with the whole queue behind it
    have hlen := congrArg List.length h.queue
    rw [length_rtake, List.length_drop] at hlen
    have hpos : s.pacer.queue_.length = rest.length + 1 := by rw [hold]; rfl
    have hbound := h.bound
    have hdrop : s.enqueued.drop (s.enqueued.length - s.pacer.queue_.length) = oldest :: rest := by
      rw [← hold, h.queue, List.rtake, List.drop_drop, List.length_drop, List.length_drop]
      congr 1
      omega
    set n := s.enqueued.length - s.pacer.queue_.length with hn
    have hnext : next numbers ≤ n := by omega
    refine ⟨numbers ++ [n], ?_, ?_, ?_, ?_, ?_⟩
    · rw [List.pairwise_append]
      refine ⟨h.increasing, List.pairwise_singleton _ _, fun m hm k hk => ?_⟩
      rw [List.mem_singleton.1 hk]
      exact (h.below m hm).trans_le hnext
    · intro m hm
      rw [next_snoc]
      rcases List.mem_append.1 hm with hm | hm
      · exact ((h.below m hm).trans_le hnext).trans (Nat.lt_succ_self n)
      · rw [List.mem_singleton.1 hm]
        exact Nat.lt_succ_self n
    · rw [next_snoc, henqueued]
      omega
    · have hhead : s.enqueued[n]? = some oldest := by
        rw [← List.head?_drop, hdrop, List.head?_cons]
      rw [henqueued, hsent, List.map_append, List.map_append, h.sent]
      simp [hhead]
    · have htail : s.enqueued.drop (n + 1) = rest := by
        rw [← List.drop_drop, hdrop]
        rfl
      have hcap := h.cap
      rw [hqueue, henqueued, next_snoc, htail, List.rtake, Nat.sub_eq_zero_of_le (by omega)]
      rfl
  | unchanged => exact ⟨numbers, h⟩

theorem run_inv (gap : ℚ) (calls : List Call) : ∃ numbers, Delivered (run gap calls) numbers := by
  induction calls using List.reverseRecOn with
  | nil => exact ⟨[], .nil, by simp, Nat.le_refl _, rfl, rfl⟩
  | append_singleton calls call ih =>
    obtain ⟨numbers, h⟩ := ih
    rw [run_snoc]
    exact step_delivered h call

/-! ## When they are delivered -/

/-- The times the calls read off the clock. -/
def times (calls : List Call) : List ℤ := calls.filterMap Call.now?

/-- The deliveries up to the last one are the gap apart. -/
structure Timed (gap : ℚ) (s : Session) : Prop where
  min_gap : s.pacer.min_gap_sec_ = gap
  first : s.pacer.first_send_ = true → s.sent = []
  last : ∀ m ∈ s.sent, m.2 ≤ s.pacer.last_send_
  paced : s.sent.Pairwise fun a b => gap ≤ seconds (b.2 - a.2)

theorem seconds_mono {a b : ℤ} (h : a ≤ b) : seconds a ≤ seconds b := by
  unfold seconds
  have : (a : ℚ) ≤ b := by exact_mod_cast h
  linarith

theorem step_timed {gap : ℚ} {s : Session} (h : Timed gap s) {call : Call}
    (hclock : s.sent ≠ [] → ∀ now ∈ call.now?, s.pacer.last_send_ ≤ now) :
    Timed gap (step s call) := by
  cases call with
  | Enqueue text send_immediate notify => exact ⟨h.min_gap, h.first, h.last, h.paced⟩
  | Dequeue now =>
    rcases Dequeue_cases s.pacer now with hnone | ⟨out, rest, -, hgap, hsome⟩
    · simp only [step, hnone]
      exact h
    · simp only [step, hsome]
      have hlast : ∀ m ∈ s.sent, s.pacer.last_send_ ≤ now :=
        fun m hm => hclock (List.ne_nil_of_mem hm) now rfl
      refine ⟨h.min_gap, by simp, ?_, ?_⟩
      · intro m hm
        rcases List.mem_append.1 hm with hm | hm
        · exact (h.last m hm).trans (hlast m hm)
        · rw [List.mem_singleton.1 hm]
      · rw [List.pairwise_append]
        refine ⟨h.paced, List.pairwise_singleton _ _, fun m hm b hb => ?_⟩
        rw [List.mem_singleton.1 hb]
        rcases hgap with hfirst | hgap
        · rw [h.first hfirst] at hm
          cases hm
        · -- the gap since the last delivery, and that one is not before `m`
          rw [h.min_gap] at hgap
          exact hgap.trans (seconds_mono (by have := h.last m hm; omega))

/-- The last delivery was at a time a call read. -/
theorem run_last (gap : ℚ) (calls : List Call) :
    (run gap calls).sent = [] ∨ (run gap calls).pacer.last_send_ ∈ times calls := by
  induction calls using List.reverseRecOn with
  | nil => exact .inl rfl
  | append_singleton calls call ih =>
    rw [run_snoc, times, List.filterMap_append]
    cases call with
    | Enqueue text send_immediate notify => exact ih.imp_right (List.mem_append_left _)
    | Dequeue now =>
      rcases Dequeue_cases (run gap calls).pacer now with hnone | ⟨out, rest, -, -, hsome⟩
      · simp only [step, hnone]
        exact ih.imp_right (List.mem_append_left _)
      · simp only [step, hsome]
        exact .inr (List.mem_append_right _ (List.mem_singleton.2 rfl))

theorem run_timed (gap : ℚ) {calls : List Call} (hclock : (times calls).Pairwise (· ≤ ·)) :
    Timed gap (run gap calls) := by
  induction calls using List.reverseRecOn with
  | nil => exact ⟨rfl, fun _ => rfl, by simp [run], .nil⟩
  | append_singleton calls call ih =>
    rw [times, List.filterMap_append, List.pairwise_append] at hclock
    obtain ⟨hbefore, -, hafter⟩ := hclock
    rw [run_snoc]
    refine step_timed (ih hbefore) fun hsent now hnow => ?_
    have hlast := (run_last gap calls).resolve_left hsent
    refine hafter _ hlast now ?_
    rw [List.mem_filterMap]
    exact ⟨call, List.mem_singleton_self call, hnow⟩

/-! ## A whole run -/

/-- **What a run of the pacer delivers.** Deliveries are the gap apart. The messages delivered are
    those of an increasing list of numbers, and the queue holds the newest messages after the last
    of them, as many as fit. A message is dropped only by an `Enqueue` on a full queue, and it is
    the oldest one there. -/
theorem run_paced (gap : ℚ) (calls : List Call) (hclock : (times calls).Pairwise (· ≤ ·)) :
    (run gap calls).sent.Pairwise (fun a b => gap ≤ seconds (b.2 - a.2)) ∧
      (∃ numbers, Delivered (run gap calls) numbers) ∧
      ∀ before call after, calls = before ++ call :: after →
        Moves (run gap before) (run gap (before ++ [call])) := by
  refine ⟨(run_timed gap hclock).paced, run_inv gap calls, fun before call after _ => ?_⟩
  obtain ⟨numbers, h⟩ := run_inv gap before
  rw [run_snoc]
  exact step_queue h.cap call

/-- Ten messages, of which the first two are dropped, and four attempts to deliver, of which the
    first and the last succeed. -/
def tenMessages : List Call :=
  (List.range 10).map (fun n => .Enqueue [UInt8.ofNat n] true false) ++
    [.Dequeue 0, .Dequeue 10000000, .Dequeue 1190000000, .Dequeue 1200000000]

theorem tenMessages_paced :
    (run (12 / 10) tenMessages).sent.map (·.1.text) = [[2], [3]] ∧
      (run (12 / 10) tenMessages).sent.Pairwise (fun a b => 12 / 10 ≤ seconds (b.2 - a.2)) :=
  ⟨by decide +kernel, (run_paced (12 / 10) tenMessages (by decide)).1⟩

end ChatboxPacer

end WKPairDriver.Captions
