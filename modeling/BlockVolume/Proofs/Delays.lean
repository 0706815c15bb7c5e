import BlockVolume.Duration

namespace BlockVolume

namespace Duration

def nanosOfAll (ds : List Duration) : Nat := ds.foldr (fun d n => d.nanos + n) 0

theorem nanosOfAll_cons (d : Duration) (ds : List Duration) :
    nanosOfAll (d :: ds) = d.nanos + nanosOfAll ds := rfl

theorem nanosOfAll_append (ds es : List Duration) :
    nanosOfAll (ds ++ es) = nanosOfAll ds + nanosOfAll es := by
  induction ds with
  | nil => exact (Nat.zero_add _).symm
  | cons d ds ih =>
      simp only [List.cons_append, nanosOfAll_cons]
      omega

theorem nanos_foldl_add (ds : List Duration) (d : Duration) :
    (ds.foldl add d).nanos = min (d.nanos + nanosOfAll ds) maxNanos := by
  induction ds generalizing d with
  | nil => exact (Nat.min_eq_left d.le_max).symm
  | cons e ds ih =>
      rw [List.foldl_cons, ih, nanosOfAll_cons]
      simp only [add, ofNanos]
      omega

theorem nanos_foldl_add_zero (ds : List Duration) :
    (ds.foldl add zero).nanos = min (nanosOfAll ds) maxNanos := by
  rw [nanos_foldl_add]
  simp [zero, ofNanos]

theorem nanos_le_of_mem {ds : List Duration} {d : Duration} (h : d ∈ ds) :
    d.nanos ≤ nanosOfAll ds := by
  obtain ⟨before, after, rfl⟩ := List.append_of_mem h
  rw [nanosOfAll_append, nanosOfAll_cons]
  omega

theorem nanosOfAll_le_of_prefix {ds es : List Duration} (h : ds <+: es) :
    nanosOfAll ds ≤ nanosOfAll es := by
  obtain ⟨fs, rfl⟩ := h
  rw [nanosOfAll_append]
  omega

end Duration

namespace RetrySchedule

open Duration

def after (b : RetrySchedule) : Nat → RetrySchedule
  | 0 => b
  | n + 1 => b.next.2.after n

def answers (b : RetrySchedule) : Nat → List (Option Duration)
  | 0 => []
  | n + 1 => b.next.1 :: b.next.2.answers n

/-- Adding to a sum what `next` gives on a copy of the schedule, until it gives nothing, ends with
the total. -/
inductive AddsUpTo : RetrySchedule → Duration → Duration → Prop
  | done {b : RetrySchedule} {sum : Duration} (h : b.next.1 = none) : AddsUpTo b sum sum
  | more {b : RetrySchedule} {sum d total : Duration} (h : b.next.1 = some d)
      (rest : AddsUpTo b.next.2 (sum.add d) total) : AddsUpTo b sum total

variable {b : RetrySchedule}

theorem attempts_next (b : RetrySchedule) : b.next.2.attempts = b.attempts - 1 := by
  rw [next]
  split
  · dsimp only
    omega
  · rfl

theorem attempts_after (b : RetrySchedule) (n : Nat) : (b.after n).attempts = b.attempts - n := by
  induction n generalizing b with
  | zero => rfl
  | succ n ih =>
      rw [after, ih, attempts_next]
      omega

theorem delays_after (b : RetrySchedule) (n : Nat) : (b.after n).delays = b.delays.drop n := by
  induction n generalizing b with
  | zero => rfl
  | succ n ih => rw [after, ih, delays_next, List.drop_tail]

theorem answers_eq (b : RetrySchedule) (n : Nat) : b.answers n =
    (b.delays.take n).map some ++ List.replicate (n - b.delays.length) none := by
  induction n generalizing b with
  | zero => simp [answers]
  | succ n ih =>
      rw [answers, ih, next_fst, delays_next]
      cases b.delays with
      | nil => simp [List.replicate_succ]
      | cons d ds => simp

theorem filterMap_answers (b : RetrySchedule) (n : Nat) :
    (b.answers n).filterMap id = b.delays.take n := by
  have hnone (k : Nat) : (List.replicate k (none : Option Duration)).filterMap id = [] :=
    List.filterMap_eq_nil_iff.2 fun d hd => List.eq_of_mem_replicate hd
  rw [answers_eq, List.filterMap_append, hnone, List.append_nil, List.filterMap_map]
  exact List.filterMap_some

theorem addsUpTo_iff {sum total : Duration} :
    AddsUpTo b sum total ↔ total = b.delays.foldl add sum := by
  constructor
  · intro h
    induction h with
    | done h =>
        rw [next_fst, List.head?_eq_none_iff] at h
        rw [h]
        rfl
    | more h _ ih =>
        rw [next_fst, List.head?_eq_some_iff] at h
        obtain ⟨ds, h⟩ := h
        rw [ih, delays_next, h]
        rfl
  · rintro rfl
    generalize hds : b.delays = ds
    induction ds generalizing b sum with
    | nil => exact .done (by rw [next_fst, hds]; rfl)
    | cons d ds ih =>
        refine .more (by rw [next_fst, hds]; rfl) (ih ?_)
        rw [delays_next, hds]
        rfl

theorem nanos_total (b : RetrySchedule) :
    b.total.nanos = min (nanosOfAll b.delays) maxNanos := nanos_foldl_add_zero b.delays

theorem head?_delays (b : RetrySchedule) :
    b.delays.head? = if b.attempts ≤ 1 then none else some b.delay := by
  rw [← next_fst, next]
  split <;> rfl

theorem nanos_total_after (b : RetrySchedule) (n : Nat) :
    min (nanosOfAll (b.delays.take n) + (b.after n).total.nanos) maxNanos = b.total.nanos := by
  have hsplit : nanosOfAll b.delays =
      nanosOfAll (b.delays.take n) + nanosOfAll (b.delays.drop n) := by
    rw [← nanosOfAll_append, List.take_append_drop]
  rw [nanos_total, nanos_total, delays_after, hsplit]
  omega

/-- A schedule gives one delay less than it has attempts, beginning with its first delay, and then
nothing any more, with no attempts left. Adding these delays up ends, and the total is their exact
sum, or the longest duration if that is less. It is the same after any number of calls, if what they
gave is added to it. -/
theorem answers_add_up_to_total (b : RetrySchedule) :
    let m := max b.attempts 1 - 1
    b.delays.length = m ∧
      b.delays.head? = (if b.attempts ≤ 1 then none else some b.delay) ∧
      (∀ n, b.answers n = (b.delays.take n).map some ++ List.replicate (n - m) none) ∧
      (∀ n, (b.after (m + 1 + n)).attempts = 0) ∧
      (∀ total, AddsUpTo b Duration.zero total ↔ total = b.total) ∧
      b.total.nanos = min (nanosOfAll b.delays) maxNanos ∧
      ∀ n, min (nanosOfAll ((b.answers n).filterMap id) + (b.after n).total.nanos) maxNanos =
        b.total.nanos := by
  intro m
  have hlength : b.delays.length = m := by
    rw [length_delays]
    omega
  refine ⟨hlength, head?_delays b, fun n => hlength ▸ answers_eq b n, fun n => ?_,
    fun total => addsUpTo_iff, nanos_total b, fun n => ?_⟩
  · rw [attempts_after]
    omega
  · rw [filterMap_answers]
    exact nanos_total_after b n

end RetrySchedule

end BlockVolume
