import Mathlib.Data.List.Nodup
import Mathlib.Data.List.ReduceOption
import Mathlib.Order.Nat

/-!
# Sets that change while they are iterated

A JavaScript `Set` is a list of entries in the order they were made. Deleting an
element empties its entry, adding one makes an entry at the end, and an iteration
goes through the entries by their positions, so it comes to elements that are
added meanwhile.
-/

namespace SmartAccountKit.Lib

variable {α : Type}

/-- A set as the list of its entries. No element has two of them. -/
structure LiveSet (α : Type) where
  entries : List (Option α)
  distinct : entries.reduceOption.Nodup

/-- The first full entry of a list, with its position when the list starts at one. -/
def firstEntry : List (Option α) → ℕ → Option (α × ℕ)
  | [], _ => none
  | none :: entries, position => firstEntry entries (position + 1)
  | some a :: _, position => some (a, position)

namespace LiveSet

def empty : LiveSet α where
  entries := []
  distinct := List.nodup_nil

/-- The element that an iteration comes to from a position on. -/
def next (s : LiveSet α) (index : ℕ) : Option (α × ℕ) := firstEntry (s.entries.drop index) index

theorem distinct_add {s : LiveSet α} {a : α} (h : some a ∉ s.entries) :
    (s.entries ++ [some a]).reduceOption.Nodup := by
  have hnew : a ∉ s.entries.reduceOption := by
    rw [List.reduceOption_mem_iff]
    exact h
  rw [List.reduceOption_append, List.reduceOption_singleton, Option.toList_some]
  apply s.distinct.append (List.nodup_singleton a)
  intro b hb ha
  rw [List.mem_singleton.mp ha] at hb
  exact hnew hb

section operations

variable [DecidableEq α]

def add (s : LiveSet α) (a : α) : LiveSet α :=
  if h : some a ∈ s.entries then s
  else { entries := s.entries ++ [some a], distinct := distinct_add h }

/-- Empty the entry of an element. -/
def emptied (a : α) (entry : Option α) : Option α := if entry = some a then none else entry

theorem reduceOption_map_emptied (a : α) (entries : List (Option α)) :
    (entries.map (emptied a)).reduceOption.Sublist entries.reduceOption := by
  induction entries with
  | nil => exact List.Sublist.refl _
  | cons entry entries ih =>
    rw [List.map_cons]
    cases entry with
    | none =>
      rw [emptied, if_neg (by simp), List.reduceOption_cons_of_none,
        List.reduceOption_cons_of_none]
      exact ih
    | some b =>
      rw [List.reduceOption_cons_of_some, emptied]
      split_ifs
      · rw [List.reduceOption_cons_of_none]
        exact ih.cons b
      · rw [List.reduceOption_cons_of_some]
        exact ih.cons_cons b

def delete (s : LiveSet α) (a : α) : LiveSet α where
  entries := s.entries.map (emptied a)
  distinct := s.distinct.sublist (reduceOption_map_emptied a s.entries)

end operations

/-! ## Iteration -/

theorem firstEntry_eq_some {entries : List (Option α)} {start i : ℕ} {a : α} :
    firstEntry entries start = some (a, i) ↔
      start ≤ i ∧ entries[i - start]? = some (some a) ∧
        ∀ j < i - start, entries[j]? = some none := by
  induction entries generalizing start with
  | nil => simp [firstEntry]
  | cons entry entries ih =>
    cases entry with
    | none =>
      rw [firstEntry, ih]
      constructor
      · rintro ⟨hle, hget, hbefore⟩
        have hshift : i - start = (i - (start + 1)) + 1 := by omega
        refine ⟨by omega, by rw [hshift]; exact hget, ?_⟩
        intro j hj
        cases j with
        | zero => rfl
        | succ j => exact hbefore j (by omega)
      · rintro ⟨hle, hget, hbefore⟩
        have hne : i ≠ start := by
          rintro rfl
          simp at hget
        have hshift : i - start = (i - (start + 1)) + 1 := by omega
        rw [hshift] at hget
        refine ⟨by omega, hget, ?_⟩
        intro j hj
        exact hbefore (j + 1) (by omega)
    | some b =>
      rw [firstEntry, Option.some.injEq, Prod.mk.injEq]
      constructor
      · rintro ⟨rfl, rfl⟩
        refine ⟨le_rfl, by simp, ?_⟩
        intro j hj
        omega
      · rintro ⟨hle, hget, hbefore⟩
        -- nothing stands before the first entry
        have hzero : i - start = 0 := by
          by_contra hpos
          have hfirst := hbefore 0 (by omega)
          simp at hfirst
        rw [hzero] at hget
        have hvalue : some (some b) = some (some a) := hget
        simp only [Option.some.injEq] at hvalue
        exact ⟨hvalue, by omega⟩

theorem firstEntry_eq_none {entries : List (Option α)} {start : ℕ} :
    firstEntry entries start = none ↔ ∀ (i : ℕ) (a : α), entries[i]? ≠ some (some a) := by
  induction entries generalizing start with
  | nil => simp [firstEntry]
  | cons entry entries ih =>
    cases entry with
    | none =>
      rw [firstEntry, ih]
      constructor
      · intro h i a
        cases i with
        | zero => simp
        | succ i => exact h i a
      · intro h i a
        exact h (i + 1) a
    | some b =>
      rw [firstEntry]
      constructor
      · intro h
        exact absurd h (by simp)
      · intro h
        exact absurd rfl (h 0 b)

/-- An iteration comes to the first full entry from its position on. -/
theorem next_eq_some {s : LiveSet α} {index i : ℕ} {a : α} :
    s.next index = some (a, i) ↔
      index ≤ i ∧ s.entries[i]? = some (some a) ∧
        ∀ j, index ≤ j → j < i → s.entries[j]? = some none := by
  rw [next, firstEntry_eq_some]
  simp only [List.getElem?_drop]
  constructor
  · rintro ⟨hle, hget, hbefore⟩
    have hsum : index + (i - index) = i := by omega
    rw [hsum] at hget
    refine ⟨hle, hget, ?_⟩
    intro j hj hlt
    have hentry := hbefore (j - index) (by omega)
    have hsum' : index + (j - index) = j := by omega
    rwa [hsum'] at hentry
  · rintro ⟨hle, hget, hbefore⟩
    have hsum : index + (i - index) = i := by omega
    rw [hsum]
    refine ⟨hle, hget, ?_⟩
    intro j hj
    exact hbefore (index + j) (by omega) (by omega)

/-- An iteration ends when no full entry is left. -/
theorem next_eq_none {s : LiveSet α} {index : ℕ} :
    s.next index = none ↔ ∀ i a, index ≤ i → s.entries[i]? ≠ some (some a) := by
  rw [next, firstEntry_eq_none]
  simp only [List.getElem?_drop]
  constructor
  · intro h i a hle
    have hsum : index + (i - index) = i := by omega
    have hentry := h (i - index) a
    rwa [hsum] at hentry
  · intro h i a
    exact h (index + i) a (by omega)

theorem next_lt_length {s : LiveSet α} {index i : ℕ} {a : α} (h : s.next index = some (a, i)) :
    i < s.entries.length :=
  (List.getElem?_eq_some_iff.mp (next_eq_some.mp h).2.1).1

/-! ## What changes of a set may do -/

/-- Entries are only emptied, and new ones are made at the end. -/
def Extends (s s' : LiveSet α) : Prop :=
  s.entries.length ≤ s'.entries.length ∧
    ∀ (i : ℕ) (a : α), i < s.entries.length → s'.entries[i]? = some (some a) →
      s.entries[i]? = some (some a)

theorem Extends.refl (s : LiveSet α) : s.Extends s := ⟨le_rfl, fun _ _ _ h => h⟩

theorem Extends.trans {s s' s'' : LiveSet α} (h : s.Extends s') (h' : s'.Extends s'') :
    s.Extends s'' := by
  refine ⟨h.1.trans h'.1, ?_⟩
  intro i a hlt hget
  exact h.2 i a hlt (h'.2 i a (lt_of_lt_of_le hlt h.1) hget)

theorem empty_extends (s : LiveSet α) : (empty : LiveSet α).Extends s := by
  refine ⟨Nat.zero_le _, ?_⟩
  intro i a hlt
  exact absurd hlt (Nat.not_lt_zero i)

/-- What an entry holds is what it held before. -/
theorem Extends.getElem? {s s' : LiveSet α} (h : s.Extends s') {i : ℕ} {a : α}
    (hget : s.entries[i]? = some (some a)) :
    s'.entries[i]? = some (some a) ∨ s'.entries[i]? = some none := by
  have hlt : i < s.entries.length := (List.getElem?_eq_some_iff.mp hget).1
  cases hentry : s'.entries[i]? with
  | none =>
    have hlong := List.getElem?_eq_none_iff.mp hentry
    have hle := h.1
    omega
  | some entry =>
    cases entry with
    | none => exact Or.inr rfl
    | some b =>
      have hsame := h.2 i b hlt hentry
      rw [hget] at hsame
      exact Or.inl hsame.symm

variable [DecidableEq α]

theorem extends_add (s : LiveSet α) (a : α) : s.Extends (s.add a) := by
  unfold add
  split_ifs with h
  · exact Extends.refl s
  · refine ⟨by simp, ?_⟩
    intro i b hlt hget
    have hold : (s.entries ++ [some a])[i]? = s.entries[i]? := List.getElem?_append_left hlt
    rw [← hold]
    exact hget

theorem extends_delete (s : LiveSet α) (a : α) : s.Extends (s.delete a) := by
  refine ⟨by simp [delete], ?_⟩
  intro i b hlt hget
  have hmap : (s.delete a).entries[i]? = s.entries[i]?.map (emptied a) := List.getElem?_map
  rw [hmap, Option.map_eq_some_iff] at hget
  obtain ⟨entry, hentry, hvalue⟩ := hget
  unfold emptied at hvalue
  split_ifs at hvalue
  rw [hentry, hvalue]

end LiveSet

end SmartAccountKit.Lib
