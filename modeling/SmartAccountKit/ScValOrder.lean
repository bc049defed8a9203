import SmartAccountKit.Lib.Utf8
import SmartAccountKit.Xdr.Encoding
import SmartAccountKit.Xdr.Structure

/-!
# The host order on map keys

`compareScVal` compares two values in the order in which the Soroban host keeps
the keys of a map. It is a total preorder on all values.
-/

namespace SmartAccountKit
open Lib

/-- `value.vec() ?? []` of a vector. -/
def ScVal.vecItems : ScVal → List ScVal
  | vec (some items) => items
  | _ => []

/-- `value.map() ?? []` of a map. -/
def ScVal.mapEntries : ScVal → List (ScVal × ScVal)
  | map (some entries) => entries
  | _ => []

/-- The UTF-8 bytes of the decoded text of a symbol or string. -/
def ScVal.textBytes : ScVal → Bytes
  | string str => utf8Encode (utf8Decode str)
  | symbol sym => utf8Encode (utf8Decode sym)
  | _ => []

/-- The bytes of a byte string. -/
def ScVal.rawBytes : ScVal → Bytes
  | bytes bs => bs
  | _ => []

/-- The encoded address of an address value. -/
def ScVal.addressBytes : ScVal → Bytes
  | address addr => addr.toXDR
  | _ => []

mutual

/-- Compare two values by type, then by content as the host does. -/
def compareScVal (a b : ScVal) : ℤ :=
  if a.discriminant ≠ b.discriminant then (if a.discriminant < b.discriminant then -1 else 1)
  else match a with
    | .vec (some items) => compareItems items b.vecItems
    | .vec none => 0 - (b.vecItems.length : ℤ)
    | .map (some entries) => compareEntries entries b.mapEntries
    | .map none => 0 - (b.mapEntries.length : ℤ)
    | .symbol _ => bufferCompare a.textBytes b.textBytes
    | .string _ => bufferCompare a.textBytes b.textBytes
    | .bytes _ => bufferCompare a.rawBytes b.rawBytes
    | .address _ => bufferCompare a.addressBytes b.addressBytes
    | _ => bufferCompare a.toXDR b.toXDR

/-- The loop over the items of two vectors. -/
def compareItems : List ScVal → List ScVal → ℤ
  | [], bv => 0 - (bv.length : ℤ)
  | a :: av, [] => ((a :: av).length : ℤ)
  | a :: av, b :: bv => thenCompare (compareScVal a b) (compareItems av bv)

/-- The loop over the entries of two maps, keys before values. -/
def compareEntries : List (ScVal × ScVal) → List (ScVal × ScVal) → ℤ
  | [], bm => 0 - (bm.length : ℤ)
  | a :: am, [] => ((a :: am).length : ℤ)
  | (ak, av) :: am, (bk, bv) :: bm =>
    thenCompare (thenCompare (compareScVal ak bk) (compareScVal av bv)) (compareEntries am bm)

end

theorem compareItems_eq (as bs : List ScVal) :
    compareItems as bs = lexCompare compareScVal as bs := by
  induction as generalizing bs with
  | nil => rw [compareItems, lexCompare_nil_left]
  | cons a as ih =>
    cases bs with
    | nil => rw [compareItems, lexCompare_nil_right]
    | cons b bs => rw [compareItems, lexCompare_cons, ih]

theorem compareEntries_eq (as bs : List (ScVal × ScVal)) :
    compareEntries as bs = lexCompare (pairCompare compareScVal compareScVal) as bs := by
  induction as generalizing bs with
  | nil => rw [compareEntries, lexCompare_nil_left]
  | cons a as ih =>
    cases bs with
    | nil => rw [compareEntries, lexCompare_nil_right]
    | cons b bs => rw [compareEntries, lexCompare_cons, ih, pairCompare]

/-- The comparison of two values of one type, by the type's number. -/
def sameTypeCompare (a b : ScVal) : ℤ :=
  match a.discriminant with
  | 16 => lexCompare compareScVal a.vecItems b.vecItems
  | 17 => lexCompare (pairCompare compareScVal compareScVal) a.mapEntries b.mapEntries
  | 15 | 14 => bufferCompare a.textBytes b.textBytes
  | 13 => bufferCompare a.rawBytes b.rawBytes
  | 18 => bufferCompare a.addressBytes b.addressBytes
  | _ => bufferCompare a.toXDR b.toXDR

/-- `compareScVal` compares the types first and the contents inside one type. -/
theorem compareScVal_eq (a b : ScVal) :
    compareScVal a b = rankCompare ScVal.discriminant sameTypeCompare a b := by
  cases a with
  | vec items =>
    cases items with
    | none =>
      rw [compareScVal, rankCompare]
      exact if_congr Iff.rfl rfl (@lexCompare_nil_left ScVal compareScVal b.vecItems).symm
    | some items =>
      rw [compareScVal, rankCompare]
      exact if_congr Iff.rfl rfl (compareItems_eq items b.vecItems)
  | map entries =>
    cases entries with
    | none =>
      rw [compareScVal, rankCompare]
      refine if_congr Iff.rfl rfl ?_
      exact (@lexCompare_nil_left _ (pairCompare compareScVal compareScVal) b.mapEntries).symm
    | some entries =>
      rw [compareScVal, rankCompare]
      exact if_congr Iff.rfl rfl (compareEntries_eq entries b.mapEntries)
  | _ => simp only [compareScVal]; rfl

/-- Comparing the images of a map keeps the laws the comparison has at an image. -/
theorem comap_lawfulAt {α β : Type} {cmp : β → β → ℤ} (f : α → β) {a : α}
    (h : LawfulAt cmp (f a)) : LawfulAt (fun x y => cmp (f x) (f y)) a :=
  ⟨fun b => h.antisymm (f b), fun b c => h.trans (f b) (f c)⟩

/-- Inside one type, comparing is comparing by one of the accessors. -/
theorem sameTypeCompare_spec (a : ScVal) (ih : ∀ c ∈ a.children, LawfulAt compareScVal c) :
    ∃ cmp : ScVal → ScVal → ℤ, LawfulAt cmp a ∧
      ∀ x y : ScVal, x.discriminant = a.discriminant → sameTypeCompare x y = cmp x y := by
  have hvec : LawfulAt (lexCompare compareScVal) a.vecItems := by
    refine lexCompare_lawfulAt fun v hv => ih v ?_
    unfold ScVal.vecItems at hv
    split at hv
    · exact hv
    · simp at hv
  have hmap : LawfulAt (lexCompare (pairCompare compareScVal compareScVal)) a.mapEntries := by
    refine lexCompare_lawfulAt fun e he => ?_
    unfold ScVal.mapEntries at he
    split at he
    · exact pairCompare_lawfulAt (ih e.1 (mem_entryValues.mpr ⟨e, he, Or.inl rfl⟩))
        (ih e.2 (mem_entryValues.mpr ⟨e, he, Or.inr rfl⟩))
    · simp at he
  have hbuf : ∀ f : ScVal → Bytes, LawfulAt (fun x y => bufferCompare (f x) (f y)) a :=
    fun f => comap_lawfulAt f (bufferCompare_lawfulAt (f a))
  by_cases h16 : a.discriminant = 16
  · exact ⟨_, comap_lawfulAt ScVal.vecItems hvec, fun x y hx => by
      simp only [sameTypeCompare, hx, h16]⟩
  by_cases h17 : a.discriminant = 17
  · exact ⟨_, comap_lawfulAt ScVal.mapEntries hmap, fun x y hx => by
      simp only [sameTypeCompare, hx, h17]⟩
  by_cases h15 : a.discriminant = 15
  · exact ⟨_, hbuf ScVal.textBytes, fun x y hx => by
      simp only [sameTypeCompare, hx, h15]⟩
  by_cases h14 : a.discriminant = 14
  · exact ⟨_, hbuf ScVal.textBytes, fun x y hx => by
      simp only [sameTypeCompare, hx, h14]⟩
  by_cases h13 : a.discriminant = 13
  · exact ⟨_, hbuf ScVal.rawBytes, fun x y hx => by
      simp only [sameTypeCompare, hx, h13]⟩
  by_cases h18 : a.discriminant = 18
  · exact ⟨_, hbuf ScVal.addressBytes, fun x y hx => by
      simp only [sameTypeCompare, hx, h18]⟩
  refine ⟨_, hbuf ScVal.toXDR, fun x y hx => ?_⟩
  rw [sameTypeCompare, hx]
  split <;> first | contradiction | rfl

/-- The host order is a total preorder on all values. -/
theorem compareScVal_lawfulAt (a : ScVal) : LawfulAt compareScVal a := by
  induction a using ScVal.childInduction with
  | step a ih =>
    obtain ⟨cmp, hlaw, hcmp⟩ := sameTypeCompare_spec a ih
    have hrank : LawfulAt (rankCompare ScVal.discriminant sameTypeCompare) a := by
      refine rankCompare_lawfulAt (fun b hb => ?_) (fun b c hb hc => ?_)
      · rw [hcmp b a hb, hcmp a b rfl]
        exact hlaw.antisymm b
      · rw [hcmp a b rfl, hcmp b c hb, hcmp a c rfl]
        exact hlaw.trans b c
    constructor
    · intro b
      rw [compareScVal_eq, compareScVal_eq]
      exact hrank.antisymm b
    · intro b c
      rw [compareScVal_eq, compareScVal_eq, compareScVal_eq]
      exact hrank.trans b c

end SmartAccountKit
