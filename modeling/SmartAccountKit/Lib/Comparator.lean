import Mathlib.Data.List.Sort
import Mathlib.Order.Basic
import Mathlib.Tactic.SplitIfs

/-!
# Integer-valued comparators

A comparator returns a negative, zero or positive number. This file says when
one is a total preorder, at a single left argument so that a recursive
comparator can be proved lawful by induction on its values, and gives the
combinators (chaining, lexicographic lists, ranks) and the sort built from them.
-/

namespace SmartAccountKit.Lib

/-- Comparing from `a` behaves as a total preorder: it is antisymmetric in sign, and
`a ≤ b ≤ c` gives `a ≤ c`, with equality only when both steps are equalities. -/
structure LawfulAt {α : Type} (cmp : α → α → ℤ) (a : α) : Prop where
  antisymm : ∀ b, (cmp b a).sign = -(cmp a b).sign
  trans : ∀ b c, cmp a b ≤ 0 → cmp b c ≤ 0 →
    cmp a c ≤ 0 ∧ (cmp a c = 0 → cmp a b = 0 ∧ cmp b c = 0)

section LawfulAt

variable {α : Type} {cmp : α → α → ℤ}

theorem LawfulAt.zero_iff {a : α} (h : LawfulAt cmp a) (b : α) : cmp b a = 0 ↔ cmp a b = 0 := by
  rw [← Int.sign_eq_zero_iff_zero, ← Int.sign_eq_zero_iff_zero (a := cmp a b), h.antisymm b]
  omega

theorem LawfulAt.neg_iff {a : α} (h : LawfulAt cmp a) (b : α) : cmp b a < 0 ↔ 0 < cmp a b := by
  rw [← Int.sign_eq_neg_one_iff_neg, ← Int.sign_eq_one_iff_pos, h.antisymm b]
  omega

theorem LawfulAt.refl {a : α} (h : LawfulAt cmp a) : cmp a a = 0 := by
  have := h.antisymm a
  rw [← Int.sign_eq_zero_iff_zero]
  omega

/-- Two elements are in order one way or the other. -/
theorem LawfulAt.total {a : α} (h : LawfulAt cmp a) (b : α) : cmp a b ≤ 0 ∨ cmp b a ≤ 0 := by
  by_cases hab : cmp a b ≤ 0
  · exact Or.inl hab
  · exact Or.inr (le_of_lt ((h.neg_iff b).mpr (by omega)))

end LawfulAt

/-! ## Combinators -/

/-- The result of the first comparison, or of the second when the first is a tie. -/
def thenCompare (first second : ℤ) : ℤ :=
  if first ≠ 0 then first else second

/-- Compare pairs by their first components, then by their second ones. -/
def pairCompare {α β : Type} (cmpA : α → α → ℤ) (cmpB : β → β → ℤ) (p q : α × β) : ℤ :=
  thenCompare (cmpA p.1 q.1) (cmpB p.2 q.2)

/-- Compare lists element by element, and by length when one is a prefix of the other. -/
def lexCompare {α : Type} (cmp : α → α → ℤ) : List α → List α → ℤ
  | [], bs => 0 - (bs.length : ℤ)
  | as, [] => (as.length : ℤ)
  | a :: as, b :: bs => thenCompare (cmp a b) (lexCompare cmp as bs)

/-- Compare by a numeric rank, and with `inner` inside one rank. -/
def rankCompare {α : Type} (rank : α → ℕ) (inner : α → α → ℤ) (a b : α) : ℤ :=
  if rank a ≠ rank b then (if rank a < rank b then -1 else 1) else inner a b

theorem thenCompare_eq_zero {first second : ℤ} :
    thenCompare first second = 0 ↔ first = 0 ∧ second = 0 := by
  unfold thenCompare
  split_ifs with h <;> omega

theorem thenCompare_nonpos {first second : ℤ} :
    thenCompare first second ≤ 0 ↔ first < 0 ∨ (first = 0 ∧ second ≤ 0) := by
  unfold thenCompare
  split_ifs with h <;> omega

theorem thenCompare_sign_swap {x y x' y' : ℤ} (hx : x'.sign = -x.sign) (hy : y'.sign = -y.sign) :
    (thenCompare x' y').sign = -(thenCompare x y).sign := by
  have hzero : x' = 0 ↔ x = 0 := by
    rw [← Int.sign_eq_zero_iff_zero, ← Int.sign_eq_zero_iff_zero (a := x), hx]
    omega
  unfold thenCompare
  by_cases h : x = 0
  · rw [if_neg (not_not.mpr (hzero.mpr h)), if_neg (not_not.mpr h), hy]
  · rw [if_pos (fun h' => h (hzero.mp h')), if_pos h, hx]

/-- The transitivity step of a chained comparison. -/
theorem thenCompare_trans {x₁ x₂ x₃ y₁ y₂ y₃ : ℤ}
    (hx : x₁ ≤ 0 → x₂ ≤ 0 → x₃ ≤ 0 ∧ (x₃ = 0 → x₁ = 0 ∧ x₂ = 0))
    (hy : y₁ ≤ 0 → y₂ ≤ 0 → y₃ ≤ 0 ∧ (y₃ = 0 → y₁ = 0 ∧ y₂ = 0))
    (h₁ : thenCompare x₁ y₁ ≤ 0) (h₂ : thenCompare x₂ y₂ ≤ 0) :
    thenCompare x₃ y₃ ≤ 0 ∧
      (thenCompare x₃ y₃ = 0 → thenCompare x₁ y₁ = 0 ∧ thenCompare x₂ y₂ = 0) := by
  simp only [thenCompare_nonpos, thenCompare_eq_zero] at *
  obtain ⟨hle, hzero⟩ := hx (by omega) (by omega)
  by_cases h3 : x₃ = 0
  · obtain ⟨e1, e2⟩ := hzero h3
    obtain ⟨hle', hzero'⟩ := hy (by omega) (by omega)
    omega
  · omega

theorem pairCompare_lawfulAt {α β : Type} {cmpA : α → α → ℤ} {cmpB : β → β → ℤ} {p : α × β}
    (hA : LawfulAt cmpA p.1) (hB : LawfulAt cmpB p.2) : LawfulAt (pairCompare cmpA cmpB) p where
  antisymm q := thenCompare_sign_swap (hA.antisymm q.1) (hB.antisymm q.2)
  trans q r := thenCompare_trans (hA.trans q.1 r.1) (hB.trans q.2 r.2)

section Lexicographic

variable {α : Type} {cmp : α → α → ℤ}

theorem lexCompare_nil_left (bs : List α) : lexCompare cmp [] bs = 0 - (bs.length : ℤ) := by
  simp [lexCompare]

theorem lexCompare_nil_right (as : List α) : lexCompare cmp as [] = (as.length : ℤ) := by
  cases as <;> simp [lexCompare]

theorem lexCompare_cons (a b : α) (as bs : List α) :
    lexCompare cmp (a :: as) (b :: bs) = thenCompare (cmp a b) (lexCompare cmp as bs) := by
  simp [lexCompare]

/-- The lexicographic comparison is lawful at a list as soon as the element comparison is
lawful at each of its members. -/
theorem lexCompare_lawfulAt {as : List α} (h : ∀ a ∈ as, LawfulAt cmp a) :
    LawfulAt (lexCompare cmp) as := by
  induction as with
  | nil =>
    constructor
    · intro bs
      rw [lexCompare_nil_left, lexCompare_nil_right, Int.zero_sub, Int.sign_neg, Int.neg_neg]
    · intro bs cs _ hbc
      rw [lexCompare_nil_left, lexCompare_nil_left]
      refine ⟨by omega, fun h0 => ?_⟩
      have hcs : cs = [] := List.length_eq_zero_iff.mp (by omega)
      rw [hcs, lexCompare_nil_right] at hbc ⊢
      omega
  | cons a as ih =>
    have ha := h a (by simp)
    have has := ih fun x hx => h x (by simp [hx])
    constructor
    · intro bs
      cases bs with
      | nil => rw [lexCompare_nil_left, lexCompare_nil_right, Int.zero_sub, Int.sign_neg]
      | cons b bs =>
        rw [lexCompare_cons, lexCompare_cons]
        exact thenCompare_sign_swap (ha.antisymm b) (has.antisymm bs)
    · intro bs cs hab hbc
      cases bs with
      | nil =>
        rw [lexCompare_nil_right, List.length_cons] at hab
        omega
      | cons b bs =>
        cases cs with
        | nil =>
          rw [lexCompare_nil_right, List.length_cons] at hbc
          omega
        | cons c cs =>
          simp only [lexCompare_cons] at hab hbc ⊢
          exact thenCompare_trans (ha.trans b c) (has.trans bs cs) hab hbc

/-- Lists tie exactly when they tie element by element. -/
theorem lexCompare_eq_zero {as bs : List α} :
    lexCompare cmp as bs = 0 ↔ List.Forall₂ (fun a b => cmp a b = 0) as bs := by
  induction as generalizing bs with
  | nil =>
    rw [lexCompare_nil_left, List.forall₂_nil_left_iff, ← List.length_eq_zero_iff]
    omega
  | cons a as ih =>
    cases bs with
    | nil => simp [lexCompare_nil_right]; omega
    | cons b bs => rw [lexCompare_cons, thenCompare_eq_zero, ih, List.forall₂_cons]

end Lexicographic

/-- Comparing by rank first keeps the laws that the inner comparison has inside a rank. -/
theorem rankCompare_lawfulAt {α : Type} {rank : α → ℕ} {inner : α → α → ℤ} {a : α}
    (hanti : ∀ b, rank b = rank a → (inner b a).sign = -(inner a b).sign)
    (htrans : ∀ b c, rank b = rank a → rank c = rank a → inner a b ≤ 0 → inner b c ≤ 0 →
      inner a c ≤ 0 ∧ (inner a c = 0 → inner a b = 0 ∧ inner b c = 0)) :
    LawfulAt (rankCompare rank inner) a where
  antisymm b := by
    unfold rankCompare
    by_cases hab : rank b = rank a
    · rw [if_neg (by simp [hab]), if_neg (by simp [hab])]
      exact hanti b hab
    · rw [if_pos hab, if_pos (Ne.symm hab)]
      split_ifs <;> first | omega | rfl
  trans b c hab hbc := by
    unfold rankCompare at *
    by_cases h1 : rank a = rank b <;> by_cases h2 : rank b = rank c
    · rw [if_neg (by simp [h1])] at hab
      rw [if_neg (by simp [h2])] at hbc
      rw [if_neg (by simp [h1, h2]), if_neg (by simp [h1]), if_neg (by simp [h2])]
      exact htrans b c h1.symm (h2.symm.trans h1.symm) hab hbc
    all_goals
      have h3 : rank a ≠ rank c ∧ rank a < rank c := by
        split_ifs at hab hbc <;> omega
      rw [if_pos h3.1, if_pos h3.2]
      omega

/-! ## Orderings -/

/-- The ordering that the result of a comparator stands for. -/
def toOrdering (n : ℤ) : Ordering :=
  if n < 0 then .lt else if n = 0 then .eq else .gt

/-- The order of two numbers. -/
def natOrder (m n : ℕ) : Ordering :=
  if m < n then .lt else if m = n then .eq else .gt

@[simp] theorem natOrder_self (n : ℕ) : natOrder n n = .eq := by
  rw [natOrder, if_neg (lt_irrefl n), if_pos rfl]

theorem natOrder_eq_eq {m n : ℕ} : natOrder m n = .eq ↔ m = n := by
  unfold natOrder
  split_ifs <;> simp <;> omega

theorem toOrdering_eq_lt {n : ℤ} : toOrdering n = .lt ↔ n < 0 := by
  unfold toOrdering
  split_ifs <;> simp <;> omega

theorem toOrdering_sub (m n : ℕ) : toOrdering ((m : ℤ) - n) = natOrder m n := by
  unfold toOrdering natOrder
  split_ifs <;> first | rfl | omega

theorem toOrdering_sign (n : ℤ) : toOrdering n.sign = toOrdering n := by
  simp only [toOrdering, Int.sign_eq_zero_iff_zero, Int.sign_neg_iff]

/-- Chained comparisons are chained orderings. -/
theorem toOrdering_thenCompare (first second : ℤ) :
    toOrdering (thenCompare first second) = (toOrdering first).then (toOrdering second) := by
  by_cases h0 : first = 0
  · rw [thenCompare, if_neg (not_not.mpr h0), h0]
    rfl
  · rw [thenCompare, if_pos h0]
    by_cases hneg : first < 0
    · rw [toOrdering, if_pos hneg]
      rfl
    · rw [toOrdering, if_neg hneg, if_neg h0]
      rfl

theorem toOrdering_lexCompare {α : Type} (cmp : α → α → ℤ) (as bs : List α) :
    toOrdering (lexCompare cmp as bs) =
      List.compareLex (fun a b => toOrdering (cmp a b)) as bs := by
  induction as generalizing bs with
  | nil =>
    cases bs with
    | nil => rfl
    | cons b bs =>
      have hneg : (0 : ℤ) - ((b :: bs).length : ℤ) < 0 := by
        rw [List.length_cons]
        omega
      rw [lexCompare_nil_left, List.compareLex_nil_cons, toOrdering, if_pos hneg]
  | cons a as ih =>
    cases bs with
    | nil =>
      have hpos : (0 : ℤ) < ((a :: as).length : ℤ) := by
        rw [List.length_cons]
        omega
      rw [lexCompare_nil_right, List.compareLex_cons_nil, toOrdering, if_neg (by omega),
        if_neg (by omega)]
    | cons b bs => rw [lexCompare_cons, toOrdering_thenCompare, List.compareLex_cons_cons, ih]

/-- The order of lists depends on the order of their members only. -/
theorem compareLex_congr {α : Type} {f g : α → α → Ordering} {as bs : List α}
    (h : ∀ a ∈ as, ∀ b ∈ bs, f a b = g a b) : List.compareLex f as bs = List.compareLex g as bs := by
  induction as generalizing bs with
  | nil => cases bs <;> rfl
  | cons a as ih =>
    cases bs with
    | nil => rfl
    | cons b bs =>
      have hhead : f a b = g a b := h a (by simp) b (by simp)
      have htail : List.compareLex f as bs = List.compareLex g as bs :=
        ih fun x hx y hy => h x (by simp [hx]) y (by simp [hy])
      rw [List.compareLex_cons_cons, List.compareLex_cons_cons, hhead, htail]

/-! ## Sorting -/

/-- The stable sort of a list by a comparator. -/
def sortBy {α : Type} (cmp : α → α → ℤ) (xs : List α) : List α :=
  xs.insertionSort fun a b => cmp a b ≤ 0

section Sorting

variable {α : Type} {cmp : α → α → ℤ}

theorem sortBy_perm (xs : List α) : (sortBy cmp xs).Perm xs :=
  List.perm_insertionSort _ xs

@[simp] theorem mem_sortBy {xs : List α} {x : α} : x ∈ sortBy cmp xs ↔ x ∈ xs :=
  (sortBy_perm xs).mem_iff

theorem sortBy_pairwise (h : ∀ a, LawfulAt cmp a) (xs : List α) :
    (sortBy cmp xs).Pairwise fun a b => cmp a b ≤ 0 := by
  have : Std.Total (fun a b : α => cmp a b ≤ 0) := ⟨fun a b => (h a).total b⟩
  have : IsTrans α (fun a b => cmp a b ≤ 0) := ⟨fun a b c hab hbc => ((h a).trans b c hab hbc).1⟩
  exact List.pairwise_insertionSort _ xs

/-- A list already in order is left as it is. -/
theorem sortBy_of_pairwise {xs : List α} (h : xs.Pairwise fun a b => cmp a b ≤ 0) :
    sortBy cmp xs = xs :=
  List.Pairwise.insertionSort_eq h

/-- Without ties a sorted list is strictly increasing. -/
theorem sortBy_strict (h : ∀ a, LawfulAt cmp a) {xs : List α}
    (hne : xs.Pairwise fun a b => cmp a b ≠ 0) :
    (sortBy cmp xs).Pairwise fun a b => cmp a b < 0 := by
  have hne' : (sortBy cmp xs).Pairwise fun a b => cmp a b ≠ 0 :=
    (sortBy_perm xs).symm.pairwise hne fun {a b} hab hba => hab (((h a).zero_iff b).mp hba)
  refine ((sortBy_pairwise h xs).and hne').imp ?_
  intro a b hab
  omega

/-- Two orderings of the same elements without ties sort to the same list. -/
theorem sortBy_eq_of_perm (h : ∀ a, LawfulAt cmp a) {xs ys : List α} (hperm : xs.Perm ys)
    (hne : xs.Pairwise fun a b => cmp a b ≠ 0) : sortBy cmp xs = sortBy cmp ys := by
  have hperm' : (sortBy cmp xs).Perm (sortBy cmp ys) :=
    (sortBy_perm xs).trans (hperm.trans (sortBy_perm ys).symm)
  have hx := sortBy_strict h hne
  have hy : (sortBy cmp ys).Pairwise fun a b => cmp a b < 0 :=
    sortBy_strict h (hperm.pairwise hne fun {a b} hab hba => hab (((h a).zero_iff b).mp hba))
  refine hperm'.eq_of_pairwise ?_ hx hy
  intro a b _ _ hab hba
  exact absurd (((h a).neg_iff b).mp hba) (by omega)

end Sorting

end SmartAccountKit.Lib
