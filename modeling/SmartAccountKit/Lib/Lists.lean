import Mathlib.Data.List.Forall2
import Mathlib.Data.List.Perm.Basic

/-!
# Lists and computations that may fail

When checks, sequencing and mapping in `Except` succeed, how a successful map follows a
permutation of its input, and removing the only element with a property.
-/

namespace SmartAccountKit.Lib

variable {ε α β γ : Type}

/-- Fail with an error if a condition holds. -/
def throwIf (c : Prop) [Decidable c] (e : ε) : Except ε Unit :=
  if c then .error e else .ok ()

@[simp] theorem throwIf_eq_ok {c : Prop} [Decidable c] {e : ε} {u : Unit} :
    throwIf c e = .ok u ↔ ¬c := by
  unfold throwIf
  split_ifs with h
  · exact iff_of_false (fun h => nomatch h) (not_not.mpr h)
  · exact iff_of_true rfl h

theorem except_ok_bind {a : α} {f : α → Except ε β} : (Except.ok a >>= f) = f a := rfl

theorem except_error_bind {e : ε} {f : α → Except ε β} :
    ((.error e : Except ε α) >>= f) = .error e := rfl

theorem except_bind_eq_ok {x : Except ε α} {f : α → Except ε β} {b : β} :
    (x >>= f) = .ok b ↔ ∃ a, x = .ok a ∧ f a = .ok b := by
  cases x with
  | error e => exact ⟨fun h => (nomatch h), fun ⟨_, h, _⟩ => (nomatch h)⟩
  | ok a => exact ⟨fun h => ⟨a, rfl, h⟩, fun ⟨a', h, h'⟩ => by rwa [Except.ok.inj h]⟩

theorem toOption_eq_some {x : Except ε α} {a : α} : x.toOption = some a ↔ x = .ok a := by
  cases x <;> simp [Except.toOption]

/-- A check that succeeds is followed by the rest of the computation. -/
theorem throwIf_bind_eq_ok {c : Prop} [Decidable c] {e : ε} {f : Unit → Except ε β} {b : β} :
    (throwIf c e >>= f) = .ok b ↔ ¬c ∧ f () = .ok b := by
  rw [except_bind_eq_ok]
  exact ⟨fun ⟨_, hc, hf⟩ => ⟨throwIf_eq_ok.mp hc, hf⟩, fun ⟨hc, hf⟩ => ⟨(), throwIf_eq_ok.mpr hc, hf⟩⟩

theorem except_map_eq_ok {x : Except ε α} {f : α → β} {b : β} :
    (f <$> x) = .ok b ↔ ∃ a, x = .ok a ∧ f a = b := by
  cases x with
  | error e => exact ⟨fun h => (nomatch h), fun ⟨_, h, _⟩ => (nomatch h)⟩
  | ok a => exact ⟨fun h => ⟨a, rfl, Except.ok.inj h⟩, fun ⟨a', h, h'⟩ => by
      rw [Except.ok.inj h, ← h']; rfl⟩

@[simp] theorem except_pure_eq_ok {a b : α} : (pure a : Except ε α) = .ok b ↔ a = b :=
  ⟨fun h => Except.ok.inj h, fun h => congrArg _ h⟩

/-- A map succeeds exactly when it succeeds at every element. -/
theorem mapM_eq_ok {f : α → Except ε β} {xs : List α} {ys : List β} :
    xs.mapM f = .ok ys ↔ List.Forall₂ (fun x y => f x = .ok y) xs ys := by
  induction xs generalizing ys with
  | nil =>
    rw [List.mapM_nil, except_pure_eq_ok, List.forall₂_nil_left_iff, eq_comm]
  | cons x xs ih =>
    rw [List.mapM_cons, except_bind_eq_ok]
    constructor
    · rintro ⟨y, hy, h⟩
      obtain ⟨ys', hys, h⟩ := except_bind_eq_ok.mp h
      rw [← except_pure_eq_ok.mp h]
      exact List.Forall₂.cons hy (ih.mp hys)
    · intro h
      cases h with
      | cons hy hys => exact ⟨_, hy, except_bind_eq_ok.mpr ⟨_, ih.mpr hys, rfl⟩⟩

/-- A check of every element succeeds exactly when it succeeds at each. -/
theorem forM_eq_ok {f : α → Except ε Unit} {xs : List α} :
    xs.forM f = .ok () ↔ ∀ x ∈ xs, f x = .ok () := by
  induction xs with
  | nil => exact iff_of_true rfl fun x hx => absurd hx List.not_mem_nil
  | cons x xs ih =>
    rw [List.forall_mem_cons, ← ih]
    show (f x >>= fun _ => xs.forM f) = .ok () ↔ _
    rw [except_bind_eq_ok]
    exact ⟨fun ⟨_, hx, hxs⟩ => ⟨hx, hxs⟩, fun ⟨hx, hxs⟩ => ⟨(), hx, hxs⟩⟩

/-- What every step of a fold keeps, the fold keeps. -/
theorem foldlM_invariant {f : β → α → Except ε β} {P : β → Prop}
    (hstep : ∀ b x b', f b x = .ok b' → P b → P b') {xs : List α} {b b' : β}
    (h : xs.foldlM f b = .ok b') (hb : P b) : P b' := by
  induction xs generalizing b with
  | nil => rwa [← except_pure_eq_ok.mp h]
  | cons x xs ih =>
    rw [List.foldlM_cons] at h
    obtain ⟨b₁, hfirst, hrest⟩ := except_bind_eq_ok.mp h
    exact ih hrest (hstep b x b₁ hfirst hb)

/-- Relations that agree on the elements relate the same lists. -/
theorem forall₂_congr_left {R S : α → β → Prop} {xs : List α} {ys : List β}
    (h : ∀ x ∈ xs, ∀ y, R x y ↔ S x y) : List.Forall₂ R xs ys ↔ List.Forall₂ S xs ys := by
  induction xs generalizing ys with
  | nil => rw [List.forall₂_nil_left_iff, List.forall₂_nil_left_iff]
  | cons x xs ih =>
    have htail : ∀ {zs}, List.Forall₂ R xs zs ↔ List.Forall₂ S xs zs :=
      ih fun a ha => h a (by simp [ha])
    simp only [List.forall₂_cons_left_iff, h x (by simp), htail]

/-- Mapping depends, failures aside, on the results of the elements. -/
theorem mapM_toOption_congr {f g : α → Except ε β} {xs : List α}
    (h : ∀ x ∈ xs, (f x).toOption = (g x).toOption) :
    (xs.mapM f).toOption = (xs.mapM g).toOption := by
  have hiff : ∀ ys, xs.mapM f = .ok ys ↔ xs.mapM g = .ok ys := by
    intro ys
    have hmember : ∀ x ∈ xs, ∀ y, f x = .ok y ↔ g x = .ok y := by
      intro x hx y
      rw [← toOption_eq_some, h x hx, toOption_eq_some]
    rw [mapM_eq_ok, mapM_eq_ok]
    exact forall₂_congr_left hmember
  cases hg : xs.mapM g with
  | ok ys => rw [(hiff ys).mpr hg]
  | error e =>
    cases hf : xs.mapM f with
    | ok ys => exact nomatch hg.symm.trans ((hiff ys).mp hf)
    | error e' => rfl

/-- An element that is not in the first of two lists stands in the second one. -/
theorem exists_of_append_eq_of_notMem {xs ys before after : List α} {x : α} (hx : x ∉ xs)
    (h : xs ++ ys = before ++ x :: after) : ∃ rest, before = xs ++ rest ∧ ys = rest ++ x :: after := by
  rcases List.append_eq_append_iff.mp h with ⟨rest, hbefore, hys⟩ | ⟨rest, hxs, hrest⟩
  · exact ⟨rest, hbefore, hys⟩
  · cases rest with
    | nil =>
      rw [List.append_nil] at hxs
      exact ⟨[], by rw [hxs, List.append_nil], hrest.symm⟩
    | cons y rest =>
      rw [List.cons_append, List.cons.injEq] at hrest
      refine absurd ?_ hx
      rw [hxs, hrest.1]
      exact List.mem_append_right before List.mem_cons_self

/-- A list is split in one way at the first occurrence of an element. -/
theorem append_cons_inj_of_notMem {xs xs' ys ys' : List α} {x : α} (hx : x ∉ xs) (hx' : x ∉ xs')
    (h : xs ++ x :: ys = xs' ++ x :: ys') : xs = xs' ∧ ys = ys' := by
  obtain ⟨rest, hxs', hrest⟩ := exists_of_append_eq_of_notMem hx h
  cases rest with
  | nil =>
    rw [List.append_nil] at hxs'
    exact ⟨hxs'.symm, (List.cons.inj hrest).2⟩
  | cons y rest =>
    refine absurd ?_ hx'
    rw [hxs', (List.cons.inj hrest).1]
    exact List.mem_append_right xs List.mem_cons_self

/-- Mapping through a partial inverse gives back what was mapped. -/
theorem forall₂_roundtrip {R : α → β → Prop} {S : β → γ → Prop} {g : α → γ}
    (hRS : ∀ x y, R x y → S y (g x)) {xs : List α} {ys : List β} (h : List.Forall₂ R xs ys) :
    List.Forall₂ S ys (xs.map g) := by
  induction h with
  | nil => exact List.Forall₂.nil
  | cons hxy _ ih => exact List.Forall₂.cons (hRS _ _ hxy) ih

/-- Relating in two steps. -/
theorem forall₂_trans {R : α → β → Prop} {S : β → γ → Prop} {T : α → γ → Prop}
    (hRS : ∀ x y z, R x y → S y z → T x z) {xs : List α} {ys : List β} {zs : List γ}
    (h : List.Forall₂ R xs ys) (h' : List.Forall₂ S ys zs) : List.Forall₂ T xs zs := by
  induction h generalizing zs with
  | nil => cases h'; exact List.Forall₂.nil
  | cons hxy _ ih =>
    cases h' with
    | cons hyz hyzs => exact List.Forall₂.cons (hRS _ _ _ hxy hyz) (ih hyzs)

/-- Where every element is related to some result, the whole list is. -/
theorem exists_forall₂ {R : α → β → Prop} {xs : List α} (h : ∀ x ∈ xs, ∃ y, R x y) :
    ∃ ys, List.Forall₂ R xs ys := by
  induction xs with
  | nil => exact ⟨[], List.Forall₂.nil⟩
  | cons x xs ih =>
    obtain ⟨y, hy⟩ := h x (by simp)
    obtain ⟨ys, hys⟩ := ih fun a ha => h a (by simp [ha])
    exact ⟨y :: ys, List.Forall₂.cons hy hys⟩

/-- A list of at most one element has one order only. -/
theorem eq_of_perm_of_length_le_one {xs ys : List α} (h : xs.Perm ys) (hlength : ys.length ≤ 1) :
    xs = ys := by
  cases ys with
  | nil => exact List.perm_nil.mp h
  | cons y ys =>
    rw [List.length_cons] at hlength
    have hnil : ys = [] := List.length_eq_zero_iff.mp (by omega)
    rw [hnil] at h ⊢
    exact List.perm_singleton.mp h

/-- Lists are equal where related members are. -/
theorem eq_of_forall₂ {R : α → α → Prop} {xs ys : List α} (h : List.Forall₂ R xs ys)
    (heq : ∀ x ∈ xs, ∀ y ∈ ys, R x y → x = y) : xs = ys := by
  induction h with
  | nil => rfl
  | @cons x y xs ys hxy _ ih =>
    have hhead : x = y := heq x (by simp) y (by simp) hxy
    have htail : xs = ys := ih fun a ha b hb => heq a (by simp [ha]) b (by simp [hb])
    rw [hhead, htail]

/-- Every result of a map comes from an element. -/
theorem exists_of_forall₂_right {R : α → β → Prop} {xs : List α} {ys : List β}
    (h : List.Forall₂ R xs ys) {y : β} (hy : y ∈ ys) : ∃ x ∈ xs, R x y := by
  induction h with
  | nil => simp at hy
  | cons hxy _ ih =>
    rcases List.mem_cons.mp hy with rfl | hy
    · exact ⟨_, List.mem_cons_self, hxy⟩
    · obtain ⟨x, hx, hR⟩ := ih hy
      exact ⟨x, List.mem_cons_of_mem _ hx, hR⟩

/-- Every element of a mapped list has a result. -/
theorem exists_of_forall₂_left {R : α → β → Prop} {xs : List α} {ys : List β}
    (h : List.Forall₂ R xs ys) {x : α} (hx : x ∈ xs) : ∃ y ∈ ys, R x y :=
  exists_of_forall₂_right h.flip hx

/-- Related lists are related position by position. -/
theorem forall₂_getElem? {R : α → β → Prop} {xs : List α} {ys : List β}
    (h : List.Forall₂ R xs ys) {k : ℕ} {x : α} {y : β} (hx : xs[k]? = some x)
    (hy : ys[k]? = some y) : R x y := by
  induction h generalizing k with
  | nil => exact nomatch hx
  | cons hxy _ ih =>
    cases k with
    | zero =>
      rw [List.getElem?_cons_zero, Option.some.injEq] at hx hy
      rw [← hx, ← hy]
      exact hxy
    | succ k =>
      rw [List.getElem?_cons_succ] at hx hy
      exact ih hx hy

/-- A permutation of the results comes from a permutation of the inputs. -/
theorem forall₂_perm_right {R : α → β → Prop} {xs : List α} {ys zs : List β}
    (h : List.Forall₂ R xs ys) (hp : ys.Perm zs) :
    ∃ xs' : List α, xs.Perm xs' ∧ List.Forall₂ R xs' zs := by
  have hcomp : Relation.Comp (List.Forall₂ R) List.Perm xs zs := ⟨ys, h, hp⟩
  rwa [List.forall₂_comp_perm_eq_perm_comp_forall₂] at hcomp

/-- The results of a functional relation on a permuted input are permuted. -/
theorem forall₂_perm_left {R : α → β → Prop} {xs xs' : List α} {ys : List β}
    (h : List.Forall₂ R xs ys) (hp : xs.Perm xs') :
    ∃ ys' : List β, ys.Perm ys' ∧ List.Forall₂ R xs' ys' := by
  obtain ⟨ys', hperm, hys⟩ := forall₂_perm_right h.flip hp
  exact ⟨ys', hperm, hys.flip⟩

/-- Relating two appended lists to one list splits it. -/
theorem forall₂_append_left_iff {R : α → β → Prop} {xs xs' : List α} {ys : List β} :
    List.Forall₂ R (xs ++ xs') ys ↔
      ∃ zs zs', List.Forall₂ R xs zs ∧ List.Forall₂ R xs' zs' ∧ ys = zs ++ zs' := by
  constructor
  · intro h
    refine ⟨ys.take xs.length, ys.drop xs.length, ?_, ?_, (List.take_append_drop ..).symm⟩
    · exact (List.forall₂_take_append _ _ _ h.flip).flip
    · exact (List.forall₂_drop_append _ _ _ h.flip).flip
  · rintro ⟨zs, zs', hzs, hzs', rfl⟩
    exact List.rel_append hzs hzs'

/-- Erasing the only element with a property filters it out. -/
theorem eraseP_eq_filter {p : α → Bool} {xs : List α} (h : (xs.filter p).length ≤ 1) :
    xs.eraseP p = xs.filter fun x => !p x := by
  induction xs with
  | nil => rfl
  | cons x xs ih =>
    by_cases hx : p x = true
    · rw [List.filter_cons_of_pos hx, List.length_cons] at h
      have hnone : xs.filter p = [] := List.length_eq_zero_iff.mp (by omega)
      rw [List.eraseP_cons_of_pos hx, List.filter_cons_of_neg (by simp [hx])]
      rw [List.filter_eq_nil_iff] at hnone
      exact (List.filter_eq_self.mpr fun y hy => by simpa using hnone y hy).symm
    · rw [List.filter_cons_of_neg hx] at h
      rw [List.eraseP_cons_of_neg hx, List.filter_cons_of_pos (by simpa using hx), ih h]

/-- The member of a list that has one member. -/
def onlyMember? : List α → Option α
  | [x] => some x
  | _ => none

theorem onlyMember?_eq_none {xs : List α} (h : ∀ x, xs = [x] → False) : onlyMember? xs = none := by
  unfold onlyMember?
  split
  · exact absurd rfl (h _)
  · rfl

/-- The only member does not depend on the order. -/
theorem onlyMember?_perm {xs ys : List α} (h : xs.Perm ys) : onlyMember? xs = onlyMember? ys := by
  by_cases hone : ys.length ≤ 1
  · rw [eq_of_perm_of_length_le_one h hone]
  · have hmany : ∀ zs : List α, zs.length = ys.length → onlyMember? zs = none := by
      intro zs hzs
      apply onlyMember?_eq_none
      intro z hz
      rw [hz, List.length_singleton] at hzs
      omega
    rw [hmany xs h.length_eq, hmany ys rfl]

/-! ## Partial functions -/

theorem mapM_eq_filterMap {α β : Type} {f : α → Option β} {xs : List α}
    (h : ∀ x ∈ xs, ∃ y, f x = some y) : xs.mapM f = some (xs.filterMap f) := by
  induction xs with
  | nil => rfl
  | cons x xs ih =>
    obtain ⟨y, hy⟩ := h x List.mem_cons_self
    have htail := ih fun z hz => h z (List.mem_cons_of_mem x hz)
    rw [List.mapM_cons, hy, htail, List.filterMap_cons_some hy]
    rfl

theorem map_fst_filterMap {κ α β : Type} {f : κ × α → Option (κ × β)} {entries : List (κ × α)}
    (h : ∀ e ∈ entries, ∃ b, f e = some (e.1, b)) :
    (entries.filterMap f).map Prod.fst = entries.map Prod.fst := by
  induction entries with
  | nil => rfl
  | cons e entries ih =>
    obtain ⟨b, hb⟩ := h e List.mem_cons_self
    have htail := ih fun z hz => h z (List.mem_cons_of_mem e hz)
    rw [List.filterMap_cons_some hb, List.map_cons, List.map_cons, htail]

end SmartAccountKit.Lib
