import SmartAccountKit.Lib.Bytes

/-!
# XDR primitives

The encodings of RFC 4506 that larger types are built from, and the fact each
construction needs: an encoded value at the front of a byte string determines
both the value and the bytes that follow it.
-/

namespace SmartAccountKit.Lib

/-- A four-byte unsigned integer. -/
def xdrU32 (n : ℕ) : Bytes := beBytes 4 n

/-- An eight-byte unsigned integer. -/
def xdrU64 (n : ℕ) : Bytes := beBytes 8 n

/-- Variable-length opaque data: the length, the bytes, and zero bytes up to a multiple of
four. -/
def xdrOpaque (bs : Bytes) : Bytes :=
  xdrU32 bs.length ++ bs ++ List.replicate ((4 - bs.length % 4) % 4) 0

/-- A variable-length array: the length and the encoded elements. -/
def xdrArray {α : Type} (enc : α → Bytes) (xs : List α) : Bytes :=
  xdrU32 xs.length ++ xs.flatMap enc

/-- The values of `P` that `enc` writes are told apart from `a` by the front of any byte
string that starts with an encoded value. -/
def SelfDelimitingAt {α : Type} (P : α → Prop) (enc : α → Bytes) (a : α) : Prop :=
  P a → ∀ b s t, P b → enc a ++ s = enc b ++ t → a = b ∧ s = t

/-- Encoded values of `P` can be read back from the front of a byte string. -/
def SelfDelimiting {α : Type} (P : α → Prop) (enc : α → Bytes) : Prop :=
  ∀ a, SelfDelimitingAt P enc a

/-- A self-delimiting encoding is injective. -/
theorem SelfDelimiting.inj {α : Type} {P : α → Prop} {enc : α → Bytes}
    (h : SelfDelimiting P enc) {a b : α} (ha : P a) (hb : P b) (hab : enc a = enc b) : a = b :=
  (h a ha b [] [] hb (by rw [hab])).1

/-! ## Fixed-length data -/

theorem append_inj_of_length {as bs s t : Bytes} (hlen : as.length = bs.length)
    (h : as ++ s = bs ++ t) : as = bs ∧ s = t :=
  List.append_inj h hlen

theorem beBytes_append_inj {k m n : ℕ} (hm : m < 256 ^ k) (hn : n < 256 ^ k) {s t : Bytes}
    (h : beBytes k m ++ s = beBytes k n ++ t) : m = n ∧ s = t := by
  obtain ⟨hcode, hrest⟩ := append_inj_of_length (by simp) h
  exact ⟨beBytes_inj hm hn hcode, hrest⟩

theorem xdrU32_append_inj {m n : ℕ} (hm : m < 2 ^ 32) (hn : n < 2 ^ 32) {s t : Bytes}
    (h : xdrU32 m ++ s = xdrU32 n ++ t) : m = n ∧ s = t :=
  beBytes_append_inj (by omega) (by omega) h

theorem xdrU64_append_inj {m n : ℕ} (hm : m < 2 ^ 64) (hn : n < 2 ^ 64) {s t : Bytes}
    (h : xdrU64 m ++ s = xdrU64 n ++ t) : m = n ∧ s = t :=
  beBytes_append_inj (by omega) (by omega) h

theorem bytesN_append_inj {n : ℕ} {a b : BytesN n} {s t : Bytes}
    (h : a.1 ++ s = b.1 ++ t) : a = b ∧ s = t := by
  obtain ⟨hval, hrest⟩ := append_inj_of_length (a.2.trans b.2.symm) h
  exact ⟨Subtype.ext hval, hrest⟩

/-! ## Variable-length data -/

theorem xdrOpaque_append_inj {as bs s t : Bytes} (has : as.length < 2 ^ 32)
    (hbs : bs.length < 2 ^ 32) (h : xdrOpaque as ++ s = xdrOpaque bs ++ t) : as = bs ∧ s = t := by
  simp only [xdrOpaque, List.append_assoc] at h
  obtain ⟨hlen, h⟩ := xdrU32_append_inj has hbs h
  obtain ⟨hval, h⟩ := append_inj_of_length hlen h
  rw [hlen] at h
  exact ⟨hval, List.append_cancel_left h⟩

theorem flatMap_append_inj {α : Type} {P : α → Prop} {enc : α → Bytes} {as bs : List α}
    (henc : ∀ a ∈ as, SelfDelimitingAt P enc a) (hlen : as.length = bs.length)
    (has : ∀ a ∈ as, P a) (hbs : ∀ b ∈ bs, P b) {s t : Bytes}
    (h : as.flatMap enc ++ s = bs.flatMap enc ++ t) : as = bs ∧ s = t := by
  induction as generalizing bs with
  | nil =>
    have : bs = [] := List.length_eq_zero_iff.mp hlen.symm
    rw [this] at h ⊢
    exact ⟨rfl, h⟩
  | cons a as ih =>
    cases bs with
    | nil => simp at hlen
    | cons b bs =>
      simp only [List.flatMap_cons, List.append_assoc] at h
      obtain ⟨hab, hrest⟩ := henc a (by simp) (has a (by simp)) b _ _ (hbs b (by simp)) h
      obtain ⟨htail, hst⟩ := ih (fun x hx => henc x (by simp [hx])) (by simpa using hlen)
        (fun x hx => has x (by simp [hx])) (fun x hx => hbs x (by simp [hx])) hrest
      exact ⟨by rw [hab, htail], hst⟩

theorem xdrArray_append_inj {α : Type} {P : α → Prop} {enc : α → Bytes} {as bs : List α}
    (henc : ∀ a ∈ as, SelfDelimitingAt P enc a) (hlas : as.length < 2 ^ 32)
    (hlbs : bs.length < 2 ^ 32) (has : ∀ a ∈ as, P a) (hbs : ∀ b ∈ bs, P b) {s t : Bytes}
    (h : xdrArray enc as ++ s = xdrArray enc bs ++ t) : as = bs ∧ s = t := by
  simp only [xdrArray, List.append_assoc] at h
  obtain ⟨hlen, h⟩ := xdrU32_append_inj hlas hlbs h
  exact flatMap_append_inj henc hlen has hbs h

end SmartAccountKit.Lib
