import SmartAccountKit.Lib.Comparator
import SmartAccountKit.Lib.Digits
import Mathlib.Data.List.Flatten

/-!
# Byte strings

Byte strings, fixed-length byte strings, big-endian integers, the byte order of
`Buffer.compare`, and hexadecimal, base 32 and base 64 text.
-/

namespace SmartAccountKit.Lib

/-- A byte string. -/
abbrev Bytes := List UInt8

/-- A byte string of length `n`. -/
abbrev BytesN (n : ℕ) := { bs : Bytes // bs.length = n }

/-- The `k`-byte big-endian encoding of `n`. -/
def beBytes (k n : ℕ) : Bytes :=
  (beDigits 256 k n).map UInt8.ofNat

/-- The number a big-endian byte string denotes. -/
def ofBeBytes (bs : Bytes) : ℕ :=
  ofBeDigits 256 (bs.map UInt8.toNat)

@[simp] theorem length_beBytes (k n : ℕ) : (beBytes k n).length = k := by
  simp [beBytes]

theorem map_toNat_lt (bs : Bytes) : ∀ d ∈ bs.map UInt8.toNat, d < 256 := by
  intro d hd
  obtain ⟨b, -, rfl⟩ := List.mem_map.mp hd
  exact b.toNat_lt

theorem map_toNat_ofNat {ds : List ℕ} (h : ∀ d ∈ ds, d < 256) :
    (ds.map UInt8.ofNat).map UInt8.toNat = ds := by
  rw [List.map_map]
  conv_rhs => rw [← List.map_id ds]
  refine List.map_congr_left fun d hd => ?_
  exact UInt8.toNat_ofNat_of_lt' (h d hd)

theorem map_ofNat_toNat (bs : Bytes) : (bs.map UInt8.toNat).map UInt8.ofNat = bs := by
  rw [List.map_map]
  conv_rhs => rw [← List.map_id bs]
  exact List.map_congr_left fun b _ => UInt8.ofNat_toNat

/-- Reading a big-endian integer back gives the integer, when it fits. -/
theorem ofBeBytes_beBytes {k n : ℕ} (h : n < 256 ^ k) : ofBeBytes (beBytes k n) = n := by
  rw [ofBeBytes, beBytes, map_toNat_ofNat (beDigits_lt (by decide)), ofBeDigits_beDigits h]

theorem beBytes_inj {k m n : ℕ} (hm : m < 256 ^ k) (hn : n < 256 ^ k)
    (h : beBytes k m = beBytes k n) : m = n := by
  rw [← ofBeBytes_beBytes hm, ← ofBeBytes_beBytes hn, h]

/-! ## Byte order -/

/-- The difference of two bytes. -/
def byteCompare (a b : UInt8) : ℤ := (a.toNat : ℤ) - b.toNat

/-- `Buffer.compare`: the first differing byte decides, then the length. -/
def bufferCompare (as bs : Bytes) : ℤ :=
  (lexCompare byteCompare as bs).sign

theorem byteCompare_eq_zero {a b : UInt8} : byteCompare a b = 0 ↔ a = b := by
  rw [byteCompare, ← UInt8.toNat_inj]
  omega

theorem byteCompare_lawfulAt (a : UInt8) : LawfulAt byteCompare a where
  antisymm b := by
    rw [← Int.sign_neg, byteCompare, byteCompare, Int.neg_sub]
  trans b c hab hbc := by
    unfold byteCompare at *
    omega

/-- Taking the sign of a lawful comparison keeps it lawful. -/
theorem sign_lawfulAt {α : Type} {cmp : α → α → ℤ} {a : α} (h : LawfulAt cmp a) :
    LawfulAt (fun x y => (cmp x y).sign) a where
  antisymm b := by
    rw [Int.sign_sign, Int.sign_sign]
    exact h.antisymm b
  trans b c hab hbc := by
    rw [Int.sign_nonpos_iff] at hab hbc
    rw [Int.sign_nonpos_iff, Int.sign_eq_zero_iff_zero, Int.sign_eq_zero_iff_zero,
      Int.sign_eq_zero_iff_zero]
    exact h.trans b c hab hbc

/-- The byte order is total. -/
theorem bufferCompare_lawfulAt (as : Bytes) : LawfulAt bufferCompare as :=
  sign_lawfulAt (lexCompare_lawfulAt fun a _ => byteCompare_lawfulAt a)

/-- Byte strings tie in the byte order only when they are equal. -/
theorem bufferCompare_eq_zero {as bs : Bytes} : bufferCompare as bs = 0 ↔ as = bs := by
  simp only [bufferCompare, Int.sign_eq_zero_iff_zero, lexCompare_eq_zero, byteCompare_eq_zero,
    List.forall₂_eq_eq_eq]

/-- The order of two bytes. -/
def byteOrder (a b : UInt8) : Ordering := natOrder a.toNat b.toNat

/-- The order of byte strings: at the first bytes that differ, with a proper prefix smaller. -/
def bytesOrder (as bs : Bytes) : Ordering := List.compareLex byteOrder as bs

/-- Byte strings whose first parts have one length are in the order of these, then of the rests. -/
theorem bytesOrder_append_of_length {as bs : Bytes} (hlen : as.length = bs.length)
    (cs ds : Bytes) :
    bytesOrder (as ++ cs) (bs ++ ds) = (bytesOrder as bs).then (bytesOrder cs ds) := by
  induction as generalizing bs with
  | nil =>
    have hnil : bs = [] := List.length_eq_zero_iff.mp hlen.symm
    rw [hnil]
    rfl
  | cons a as ih =>
    cases bs with
    | nil => exact absurd hlen (by simp)
    | cons b bs =>
      have hrest : bytesOrder (as ++ cs) (bs ++ ds) =
          (bytesOrder as bs).then (bytesOrder cs ds) := ih (Nat.succ.inj hlen)
      show List.compareLex byteOrder (a :: (as ++ cs)) (b :: (bs ++ ds)) =
        (List.compareLex byteOrder (a :: as) (b :: bs)).then (bytesOrder cs ds)
      rw [List.compareLex_cons_cons, List.compareLex_cons_cons, Ordering.then_assoc]
      exact congrArg _ hrest

theorem beBytes_succ (k n : ℕ) :
    beBytes (k + 1) n = beBytes k (n / 256) ++ [UInt8.ofNat (n % 256)] := by
  simp [beBytes, beDigits]

/-- Numbers are in the order of their big-endian encodings of one length. -/
theorem bytesOrder_beBytes {k m n : ℕ} (hm : m < 256 ^ k) (hn : n < 256 ^ k) :
    bytesOrder (beBytes k m) (beBytes k n) = natOrder m n := by
  induction k generalizing m n with
  | zero =>
    have hzero : m = n := by
      rw [pow_zero] at hm hn
      omega
    rw [hzero, natOrder_self]
    rfl
  | succ k ih =>
    rw [pow_succ] at hm hn
    have hfirst : bytesOrder (beBytes k (m / 256)) (beBytes k (n / 256)) =
        natOrder (m / 256) (n / 256) := ih (by omega) (by omega)
    have hlast : bytesOrder [UInt8.ofNat (m % 256)] [UInt8.ofNat (n % 256)] =
        natOrder (m % 256) (n % 256) := by
      have hbyte : ∀ d : ℕ, (UInt8.ofNat (d % 256)).toNat = d % 256 := fun d =>
        UInt8.toNat_ofNat_of_lt' (Nat.mod_lt d (by omega))
      rw [bytesOrder, List.compareLex_cons_cons, List.compareLex_nil_nil, Ordering.then_eq,
        byteOrder, hbyte, hbyte]
    rw [beBytes_succ, beBytes_succ, bytesOrder_append_of_length (by simp), hfirst, hlast]
    -- the quotients decide, and the last digits where they tie
    unfold natOrder
    split_ifs <;> first | rfl | omega

/-- `Buffer.compare` is the order of byte strings. -/
theorem toOrdering_bufferCompare (as bs : Bytes) :
    toOrdering (bufferCompare as bs) = bytesOrder as bs := by
  rw [bufferCompare, toOrdering_sign, toOrdering_lexCompare, bytesOrder]
  apply compareLex_congr
  intro a _ b _
  exact toOrdering_sub a.toNat b.toNat

end SmartAccountKit.Lib
