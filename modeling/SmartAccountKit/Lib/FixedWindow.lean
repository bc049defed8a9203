import Mathlib.Algebra.Order.Group.Basic
import Mathlib.Data.List.Count

/-!
# Fixed-window limiters

A fixed-window limiter counts the requests that it admits in a window. The
window has a fixed length and begins with the first request after the last one
has ended, so the windows drift with the traffic. At most the limit is admitted
in each window, and at most twice the limit in any interval of that length.
-/

namespace SmartAccountKit.Lib

/-- A window with the number of requests that were admitted in it. -/
structure Window (T : Type) where
  start : T
  count : ℕ

/-- A limit for each window of a length. -/
structure FixedWindow (T : Type) [Zero T] [LT T] where
  limit : ℕ
  limit_pos : 0 < limit
  length : T
  length_pos : 0 < length

namespace FixedWindow

variable {T : Type} [AddCommGroup T] [LinearOrder T] (L : FixedWindow T)

/-- A request begins a new window if there is none or the last one has ended. -/
def Begins (stored : Option (Window T)) (now : T) : Prop :=
  ∀ w ∈ stored, L.length ≤ now - w.start

/-- The window in which a request is counted. -/
def current (stored : Option (Window T)) (now : T) : Window T :=
  match stored with
  | none => ⟨now, 0⟩
  | some w => if L.length ≤ now - w.start then ⟨now, 0⟩ else w

/-- A request is admitted while its window is not full. -/
def admits (stored : Option (Window T)) (now : T) : Bool :=
  (L.current stored now).count < L.limit

/-- The window after a request. -/
def next (stored : Option (Window T)) (now : T) : Option (Window T) :=
  if L.admits stored now then
    some ⟨(L.current stored now).start, (L.current stored now).count + 1⟩
  else stored

/-- The window after some requests. -/
def after (stored : Option (Window T)) (times : List T) : Option (Window T) :=
  times.foldl L.next stored

/-- The times at which requests were admitted. -/
def admitted (stored : Option (Window T)) : List T → List T
  | [] => []
  | now :: times =>
    if L.admits stored now then now :: admitted (L.next stored now) times
    else admitted (L.next stored now) times

variable {L} {stored : Option (Window T)} {w : Window T} {now a b : T} {times before rest : List T}

/-! ## One request -/

theorem current_of_begins (h : L.Begins stored now) : L.current stored now = ⟨now, 0⟩ := by
  cases stored with
  | none => rfl
  | some w => exact if_pos (h w rfl)

/-- A new window has room. -/
theorem admits_of_begins (h : L.Begins stored now) : L.admits stored now = true := by
  unfold admits
  rw [current_of_begins h]
  exact decide_eq_true L.limit_pos

theorem next_of_begins (h : L.Begins stored now) : L.next stored now = some ⟨now, 1⟩ := by
  rw [next, if_pos (admits_of_begins h), current_of_begins h]

/-- A request that is refused leaves the window as it is. -/
theorem next_of_refused (h : L.admits stored now = false) : L.next stored now = stored := by
  rw [next, h, if_neg nofun]

/-- After a request its window has not ended. -/
theorem not_begins_next : ¬L.Begins (L.next stored now) now := by
  intro hbegins
  cases hadmits : L.admits stored now with
  | false =>
    rw [next_of_refused hadmits] at hbegins
    rw [admits_of_begins hbegins] at hadmits
    exact nomatch hadmits
  | true =>
    rw [next, if_pos hadmits] at hbegins
    have hlength := hbegins _ (Option.mem_some_self _)
    change L.length ≤ now - (L.current stored now).start at hlength
    cases stored with
    | none =>
      have hzero : L.length ≤ now - now := hlength
      rw [sub_self] at hzero
      exact absurd L.length_pos (not_lt.mpr hzero)
    | some w =>
      by_cases hended : L.length ≤ now - w.start
      · rw [current, if_pos hended, sub_self] at hlength
        exact absurd L.length_pos (not_lt.mpr hlength)
      · rw [current, if_neg hended] at hlength
        exact hended hlength

/-! ## Many requests -/

theorem admitted_append (xs ys : List T) :
    L.admitted stored (xs ++ ys) = L.admitted stored xs ++ L.admitted (L.after stored xs) ys := by
  induction xs generalizing stored with
  | nil => rfl
  | cons x xs ih =>
    show (if L.admits stored x then x :: L.admitted _ (xs ++ ys)
      else L.admitted _ (xs ++ ys)) = _
    rw [ih, admitted]
    split <;> rfl

theorem admitted_sublist (times : List T) : (L.admitted stored times).Sublist times := by
  induction times generalizing stored with
  | nil => exact List.Sublist.refl _
  | cons now times ih =>
    unfold admitted
    split
    · exact ih.cons_cons now
    · exact ih.cons now

/-- No request is admitted at a time at which there is none. -/
theorem countP_admitted_eq_zero {p : T → Bool} (h : ∀ t ∈ times, p t = false) :
    (L.admitted stored times).countP p = 0 := by
  rw [List.countP_eq_zero]
  intro t ht hp
  rw [h t ((admitted_sublist times).subset ht)] at hp
  exact nomatch hp

/-- After a request its window has not ended, when others came at the same time. -/
theorem not_begins_after (hsorted : times.Pairwise (· ≤ ·)) (hnow : now ∈ times)
    (hle : ∀ t ∈ times, t ≤ now) : ¬L.Begins (L.after stored times) now := by
  rcases List.eq_nil_or_concat times with rfl | ⟨xs, x, rfl⟩
  · exact absurd hnow List.not_mem_nil
  · rw [List.concat_eq_append] at hsorted hnow hle ⊢
    have hlast : now = x := by
      rcases List.mem_append.mp hnow with hmem | hmem
      · have hbefore := (List.pairwise_append.mp hsorted).2.2 now hmem x (List.mem_singleton_self x)
        exact le_antisymm hbefore (hle x (by simp))
      · exact List.mem_singleton.mp hmem
    rw [after, List.foldl_append, hlast]
    exact not_begins_next

/-! ## Bounds -/

section bounds

variable [IsOrderedAddMonoid T]

theorem current_of_lt (h : now < w.start + L.length) : L.current (some w) now = w := by
  refine if_neg (not_le.mpr ?_)
  exact sub_lt_iff_lt_add'.mpr h

/-- A request that is refused is counted in the stored window, which has not ended. -/
theorem refused_cases (h : L.admits stored now = false) :
    ∃ w, stored = some w ∧ now < w.start + L.length := by
  have hbegins : ¬L.Begins stored now := fun hbegins => by
    rw [admits_of_begins hbegins] at h
    exact nomatch h
  cases stored with
  | none => exact absurd (fun _ hw => nomatch hw) hbegins
  | some w =>
    refine ⟨w, rfl, lt_of_not_ge fun hend => hbegins fun w' hw' => ?_⟩
    rw [← Option.some.inj hw']
    exact le_sub_iff_add_le'.mpr hend

/-- Once the window of a refused request has ended, a request is admitted. -/
theorem admits_of_refused {later : T} (h : L.admits stored now = false)
    (hlater : (L.current stored now).start + L.length ≤ later) : L.admits stored later = true := by
  obtain ⟨w, rfl, hw⟩ := refused_cases h
  rw [current_of_lt hw] at hlater
  apply admits_of_begins
  intro w' hw'
  rw [← Option.some.inj hw']
  exact le_sub_iff_add_le'.mpr hlater

/-- A request in the stored window is admitted if there is room. -/
theorem room_of_admits (h : now < w.start + L.length) (hadmits : L.admits (some w) now = true) :
    w.count < L.limit := by
  rw [admits, current_of_lt h] at hadmits
  exact of_decide_eq_true hadmits

theorem next_of_admits (h : now < w.start + L.length) (hadmits : L.admits (some w) now = true) :
    L.next (some w) now = some ⟨w.start, w.count + 1⟩ := by
  rw [next, if_pos hadmits, current_of_lt h]

/-- What is admitted before the end of the stored window fits in it. -/
theorem countP_admitted_window (hsorted : times.Pairwise (· ≤ ·)) (hb : b ≤ w.start + L.length) :
    (L.admitted (some w) times).countP (· < b) ≤ L.limit - w.count := by
  induction times generalizing w with
  | nil => exact Nat.zero_le _
  | cons now times ih =>
    obtain ⟨hnow, hrest⟩ := List.pairwise_cons.mp hsorted
    by_cases hlt : now < b
    · have hcurrent : now < w.start + L.length := hlt.trans_le hb
      unfold admitted
      cases hadmits : L.admits (some w) now with
      | false =>
        rw [next_of_refused hadmits, if_neg nofun]
        exact ih hrest hb
      | true =>
        have hroom := room_of_admits hcurrent hadmits
        have hcounted : (L.admitted (some ⟨w.start, w.count + 1⟩) times).countP (· < b) ≤
            L.limit - (w.count + 1) := ih hrest hb
        rw [if_pos rfl, next_of_admits hcurrent hadmits, List.countP_cons,
          if_pos (decide_eq_true hlt)]
        omega
    · -- the clock has passed `b`
      have hpassed : ∀ t ∈ now :: times, decide (t < b) = false := by
        intro t ht
        have hle : b ≤ now := not_lt.mp hlt
        rcases List.mem_cons.mp ht with rfl | ht
        · exact decide_eq_false hlt
        · exact decide_eq_false (not_lt.mpr (hle.trans (hnow t ht)))
      rw [countP_admitted_eq_zero hpassed]
      exact Nat.zero_le _

/-- What is admitted in a new window fits in it. -/
theorem countP_admitted_begins (hsorted : (now :: times).Pairwise (· ≤ ·))
    (hbegins : L.Begins stored now) (hb : b ≤ now + L.length) :
    (L.admitted stored (now :: times)).countP (· < b) ≤ L.limit := by
  have hrest := countP_admitted_window (w := ⟨now, 1⟩) (List.pairwise_cons.mp hsorted).2 hb
  have hpos := L.limit_pos
  unfold admitted
  rw [if_pos (admits_of_begins hbegins), next_of_begins hbegins, List.countP_cons]
  have hone : (if (decide (now < b)) = true then 1 else 0) ≤ 1 := by split <;> omega
  show _ ≤ L.limit
  have hwindow : L.limit - (⟨now, 1⟩ : Window T).count = L.limit - 1 := rfl
  omega

/-- From requests on that are not before `a`, an interval of the length of a window has room for
what is left of the stored window, and for one more window. -/
theorem countP_admitted_from (hsorted : times.Pairwise (· ≤ ·)) (ha : ∀ t ∈ times, a ≤ t) :
    (L.admitted stored times).countP (· < a + L.length) ≤ 2 * L.limit := by
  have hstored : ∀ w : Window T, (L.admitted (some w) times).countP (· < a + L.length) ≤
      (L.limit - w.count) + L.limit := by
    induction times with
    | nil => exact fun _ => Nat.zero_le _
    | cons now times ih =>
      intro w
      obtain ⟨-, hrest⟩ := List.pairwise_cons.mp hsorted
      rw [List.forall_mem_cons] at ha
      by_cases hended : now < w.start + L.length
      · unfold admitted
        cases hadmits : L.admits (some w) now with
        | false =>
          rw [next_of_refused hadmits, if_neg nofun]
          exact ih hrest ha.2 w
        | true =>
          have hroom := room_of_admits hended hadmits
          have hcounted : (L.admitted (some ⟨w.start, w.count + 1⟩) times).countP
              (· < a + L.length) ≤ (L.limit - (w.count + 1)) + L.limit := ih hrest ha.2 _
          rw [if_pos rfl, next_of_admits hended hadmits, List.countP_cons]
          have hone : (if decide (now < a + L.length) = true then 1 else 0) ≤ 1 := by
            split <;> omega
          omega
      · -- the stored window has ended, and the new one lasts as long as the interval
        have hbegins : L.Begins (some w) now := by
          intro w' hw'
          rw [← Option.some.inj hw']
          exact le_sub_iff_add_le'.mpr (not_lt.mp hended)
        have hnew := countP_admitted_begins hsorted hbegins (add_le_add_left ha.1 L.length)
        omega
  cases stored with
  | some w =>
    have h := hstored w
    omega
  | none =>
    cases times with
    | nil => exact Nat.zero_le _
    | cons now times =>
      have hbegins : L.Begins none now := fun _ hw => nomatch hw
      have hnew := countP_admitted_begins hsorted hbegins
        (add_le_add_left (ha now List.mem_cons_self) L.length)
      omega

/-- In any interval of the length of a window at most twice the limit is admitted. -/
theorem countP_admitted_interval (hsorted : times.Pairwise (· ≤ ·)) :
    (L.admitted stored times).countP (fun t => a ≤ t ∧ t < a + L.length) ≤ 2 * L.limit := by
  induction times generalizing stored with
  | nil => exact Nat.zero_le _
  | cons now times ih =>
    obtain ⟨hnow, hrest⟩ := List.pairwise_cons.mp hsorted
    by_cases hle : a ≤ now
    · -- from here on every request is in the interval or after it
      refine le_trans (List.countP_mono_left ?_) (countP_admitted_from (a := a) hsorted ?_)
      · intro t _ ht
        rw [decide_eq_true_eq] at ht
        exact decide_eq_true ht.2
      · intro t ht
        rcases List.mem_cons.mp ht with rfl | ht
        · exact hle
        · exact hle.trans (hnow t ht)
    · unfold admitted
      split
      · rw [List.countP_cons_of_neg (by simp [hle])]
        exact ih hrest
      · exact ih hrest

/-- In each window at most the limit is admitted. -/
theorem countP_admitted_opened (hsorted : (before ++ now :: rest).Pairwise (· ≤ ·))
    (hbegins : L.Begins (L.after stored before) now) :
    (L.admitted stored (before ++ now :: rest)).countP (fun t => now ≤ t ∧ t < now + L.length) ≤
      L.limit := by
  rw [List.pairwise_append] at hsorted
  obtain ⟨hbeforeSorted, hrest, hbefore⟩ := hsorted
  rw [admitted_append, List.countP_append]
  have hearlier : (L.admitted stored before).countP
      (fun t => decide (now ≤ t ∧ t < now + L.length)) = 0 := by
    apply countP_admitted_eq_zero
    intro t ht
    rw [decide_eq_false_iff_not]
    rintro ⟨hle, -⟩
    have heq : t = now := le_antisymm (hbefore t ht now List.mem_cons_self) hle
    rw [heq] at ht
    have hle : ∀ t' ∈ before, t' ≤ now := fun t' ht' => hbefore t' ht' now List.mem_cons_self
    exact not_begins_after hbeforeSorted ht hle hbegins
  have hlater := countP_admitted_begins hrest hbegins le_rfl
  have hmono : (L.admitted (L.after stored before) (now :: rest)).countP
        (fun t => decide (now ≤ t ∧ t < now + L.length)) ≤
      (L.admitted (L.after stored before) (now :: rest)).countP (· < now + L.length) := by
    apply List.countP_mono_left
    intro t _ ht
    rw [decide_eq_true_eq] at ht
    exact decide_eq_true ht.2
  omega

/-- While the stored window lasts, a request is admitted if the ones before it leave room. -/
theorem admits_after_some (ht : ∀ t ∈ times, t < w.start + L.length)
    (hnow : now < w.start + L.length) :
    L.admits (L.after (some w) times) now = true ↔ w.count + times.length < L.limit := by
  induction times generalizing w with
  | nil =>
    show L.admits (some w) now = true ↔ _
    rw [admits, current_of_lt hnow, decide_eq_true_eq]
    exact Iff.rfl
  | cons t times ih =>
    rw [List.forall_mem_cons] at ht
    show L.admits (L.after (L.next (some w) t) times) now = true ↔ _
    cases hadmits : L.admits (some w) t with
    | true =>
      have hrest := ih (w := ⟨w.start, w.count + 1⟩) ht.2 hnow
      rw [next_of_admits ht.1 hadmits, hrest, List.length_cons]
      show w.count + 1 + times.length < L.limit ↔ _
      omega
    | false =>
      have hfull : ¬w.count < L.limit := by
        rw [admits, current_of_lt ht.1, decide_eq_false_iff_not] at hadmits
        exact hadmits
      rw [next_of_refused hadmits, ih ht.2 hnow, List.length_cons]
      omega

/-- The requests that were admitted in the stored window. -/
def used (stored : Option (Window T)) : ℕ := (stored.map Window.count).getD 0

/-- Requests in one window: a request is admitted if the ones before it leave room. -/
theorem admits_after_iff (hstored : ∀ w ∈ stored, ∀ t ∈ times ++ [now], t < w.start + L.length)
    (htimes : ∀ t ∈ times ++ [now], ∀ t' ∈ times ++ [now], t < t' + L.length) :
    L.admits (L.after stored times) now = true ↔ used stored + times.length < L.limit := by
  cases stored with
  | some w =>
    have hw := hstored w rfl
    exact admits_after_some (fun t ht => hw t (List.mem_append_left _ ht)) (hw now (by simp))
  | none =>
    have hbegins : ∀ t, L.Begins none t := fun _ _ hw => nomatch hw
    cases times with
    | nil =>
      show L.admits none now = true ↔ 0 + 0 < L.limit
      exact iff_of_true (admits_of_begins (hbegins now)) L.limit_pos
    | cons t times =>
      show L.admits (L.after (L.next none t) times) now = true ↔ _
      rw [next_of_begins (hbegins t), admits_after_some]
      · show 1 + times.length < L.limit ↔ 0 + (times.length + 1) < L.limit
        omega
      · exact fun t' ht' => htimes t' (by simp [ht']) t (by simp)
      · exact htimes now (by simp) t (by simp)

end bounds

end FixedWindow

end SmartAccountKit.Lib
