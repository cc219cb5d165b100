import Mathlib

/-!
# Events in a sliding window

A list of the times of the newest events: each event is put at the end, and the events further back
than the window fall out at the front.

* `push_eq_filter` — behind events in order of time, the list holds those inside the window.
* `le_length_iff` — it holds `n` of them exactly when the event `n - 1` before the newest is inside.
-/

set_option autoImplicit false

namespace Lib.SlidingWindow

universe u
variable {K : Type u} [AddCommGroup K] [LinearOrder K]

/-- An event at `now`. -/
def push (window : K) (history : List K) (now : K) : List K :=
  (history ++ [now]).dropWhile fun t => decide (window < now - t)

/-- Inside the window that ends at `now`. -/
def inside (window now : K) (t : K) : Bool := decide (now - t ≤ window)

variable {window now : K}

theorem dropWhile_eq (ts : List K) :
    ts.dropWhile (fun t => decide (window < now - t)) =
      ts.dropWhile fun t => !inside window now t := by
  refine congrArg (ts.dropWhile ·) (funext fun t => ?_)
  rw [inside, ← decide_not, decide_eq_decide, not_le]

variable [IsOrderedAddMonoid K]

theorem inside_mono {t t' : K} (h : t ≤ t') (ht : inside window now t = true) :
    inside window now t' = true := by
  rw [inside, decide_eq_true_eq] at ht ⊢
  exact (sub_le_sub_left h now).trans ht

/-- Of times in order, those inside the window are the last ones. -/
theorem dropWhile_eq_filter : ∀ {ts : List K}, ts.Pairwise (· ≤ ·) →
    (ts.dropWhile fun t => !inside window now t) = ts.filter (inside window now)
  | [], _ => rfl
  | t :: ts, h => by
    obtain ⟨hle, hts⟩ := List.pairwise_cons.1 h
    cases ht : inside window now t with
    | false =>
      rw [List.dropWhile_cons_of_pos (by simp [ht]), List.filter_cons_of_neg (by simp [ht]),
        dropWhile_eq_filter hts]
    | true =>
      have hall : ∀ t' ∈ ts, inside window now t' = true :=
        fun t' ht' => inside_mono (hle t' ht') ht
      rw [List.dropWhile_cons_of_neg (by simp [ht]), List.filter_cons_of_pos ht,
        List.filter_eq_self.2 hall]

/-- **The list behind events in order of time** holds those inside the window of the newest. -/
theorem push_eq_filter (hwindow : 0 ≤ window) (older : List K) (now : K)
    (h : (older ++ [now]).Pairwise (· ≤ ·)) :
    (older ++ [now]).foldl (push window) [] = (older ++ [now]).filter (inside window now) := by
  induction older using List.reverseRecOn generalizing now with
  | nil =>
    have hin : inside window now now = true := by simpa [inside] using hwindow
    rw [List.nil_append, List.foldl_cons, List.foldl_nil, push, dropWhile_eq, List.nil_append,
      List.dropWhile_cons_of_neg (by simp [hin]), List.filter_cons_of_pos hin, List.filter_nil]
  | append_singleton older last ih =>
    have hearlier : (older ++ [last]).Pairwise (· ≤ ·) := (List.pairwise_append.1 h).1
    have hlast : last ≤ now :=
      (List.pairwise_append.1 h).2.2 last (by simp) now (List.mem_singleton_self _)
    have hfilter : ((older ++ [last]).filter (inside window last) ++ [now]).Pairwise (· ≤ ·) :=
      h.sublist (List.filter_sublist.append_right [now])
    rw [List.foldl_append, ih last hearlier, List.foldl_cons, List.foldl_nil, push, dropWhile_eq,
      dropWhile_eq_filter hfilter, List.filter_append, List.filter_append _ [now], List.filter_filter]
    congr 1
    refine List.filter_congr fun t _ => ?_
    -- what is inside the later window is inside the earlier one
    rw [Bool.and_eq_left_iff_imp]
    intro ht
    rw [inside, decide_eq_true_eq] at ht ⊢
    exact (sub_le_sub_right hlast t).trans ht

/-- **At least `n` events are inside the window** exactly when the one `n - 1` before the newest
    is. -/
theorem le_length_iff {ts : List K} (h : ts.Pairwise (· ≤ ·)) {n : ℕ} (hn : 0 < n)
    (hlen : n ≤ ts.length) :
    n ≤ (ts.filter (inside window now)).length ↔
      inside window now (ts.get ⟨ts.length - n, by omega⟩) = true := by
  rw [← dropWhile_eq_filter h]
  set fell := ts.takeWhile fun t => !inside window now t with hfell
  set kept := ts.dropWhile fun t => !inside window now t with hkept
  set t := ts.get ⟨ts.length - n, by omega⟩
  have hsplit : fell ++ kept = ts := List.takeWhile_append_dropWhile
  have hlength := congrArg List.length hsplit
  rw [List.length_append] at hlength
  have hget : (fell ++ kept)[ts.length - n]? = some t := by
    rw [hsplit]
    exact List.getElem?_eq_getElem (by omega)
  constructor
  · intro hle
    -- the event is behind those that fell out
    rw [List.getElem?_append_right (by omega)] at hget
    have hmem := List.mem_of_getElem? hget
    rw [hkept, dropWhile_eq_filter h] at hmem
    exact (List.mem_filter.1 hmem).2
  · intro hin
    by_contra hlt
    rw [List.getElem?_append_left (by omega)] at hget
    have hmem := List.mem_of_getElem? hget
    rw [hfell] at hmem
    have hout := List.mem_takeWhile_imp hmem
    rw [hin] at hout
    simp at hout

end Lib.SlidingWindow
