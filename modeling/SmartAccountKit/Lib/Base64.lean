import SmartAccountKit.Lib.Search
import SmartAccountKit.Lib.Text

/-!
# Padded base-64 text

The standard base-64 text of a byte string, with its padding: a pattern that all
such texts match, and texts surrounded by white space.
-/

namespace SmartAccountKit.Lib

/-! ## The encoding -/

/-- The standard base-64 alphabet. -/
def base64Alphabet : List Char :=
  "ABCDEFGHIJKLMNOPQRSTUVWXYZabcdefghijklmnopqrstuvwxyz0123456789+/".toList

/-- The padded base-64 text of a byte string. -/
def toBase64 (bs : Bytes) : String :=
  encodeText base64Alphabet 6 bs ++ String.ofList (List.replicate ((3 - bs.length % 3) % 3) '=')

/-- The characters of the standard alphabet. -/
def isBase64Char (c : Char) : Bool := c.isAlphanum || c == '+' || c == '/'

/-- Groups of four characters of the alphabet, where the last group may be padded. -/
def isBase64Text : List Char → Bool
  | [] => true
  | a :: b :: c :: d :: rest =>
    (isBase64Char a && isBase64Char b && isBase64Char c && isBase64Char d && isBase64Text rest) ||
      (rest.isEmpty && isBase64Char a && isBase64Char b &&
        ((c == '=' && d == '=') || (isBase64Char c && d == '=')))
  | _ => false

theorem base64Value_standard : ∀ d < 2 ^ 6, base64Value (base64Alphabet.getD d ' ') = some d := by
  set_option maxRecDepth 20000 in decide

theorem isBase64Char_alphabet : ∀ d < 2 ^ 6, isBase64Char (base64Alphabet.getD d ' ') = true := by
  set_option maxRecDepth 20000 in decide

/-- The characters of an encoding are its digits, then its padding. -/
theorem toBase64_toList (bs : Bytes) : ∃ es : List ℕ, (∀ e ∈ es, e < 2 ^ 6) ∧
    es = packGroups 8 6 (bs.map UInt8.toNat) ∧ es.length = (8 * bs.length + 5) / 6 ∧
    (toBase64 bs).toList = es.map (fun d => base64Alphabet.getD d ' ') ++
      List.replicate ((3 - bs.length % 3) % 3) '=' := by
  refine ⟨_, packGroups_lt 8 6 _, rfl, ?_, ?_⟩
  · simp [packGroups]
  · rw [toBase64, String.toList_append, encodeText, String.toList_ofList, String.toList_ofList]

/-- Decoding the padded text of a byte string gives the byte string. -/
theorem fromBase64_toBase64 (bs : Bytes) : fromBase64 (toBase64 bs) = bs := by
  obtain ⟨es, hes, hpack, -, htext⟩ := toBase64_toList bs
  have hread : ∀ es : List ℕ, (∀ e ∈ es, e < 2 ^ 6) →
      (es.map fun d => base64Alphabet.getD d ' ').filterMap base64Value = es := by
    intro es
    induction es with
    | nil => intro _; rfl
    | cons e es ih =>
      intro h
      rw [List.forall_mem_cons] at h
      rw [List.map_cons, List.filterMap_cons, base64Value_standard e h.1, ih h.2]
  have hpadding : ∀ n, (List.replicate n '=').filterMap base64Value = [] := by
    intro n
    have hvalue : base64Value '=' = none := by decide
    rw [List.filterMap_replicate, hvalue]
  rw [fromBase64, htext, List.filterMap_append, hread es hes, hpadding, List.append_nil, hpack,
    decodeDigits_packGroups (by decide) (by decide)]

theorem toBase64_inj {as bs : Bytes} (h : toBase64 as = toBase64 bs) : as = bs := by
  rw [← fromBase64_toBase64 as, ← fromBase64_toBase64 bs, h]

/-- Characters of the alphabet that fill whole groups with at most two characters of padding. -/
theorem isBase64Text_padded (cs : List Char) (hcs : ∀ c ∈ cs, isBase64Char c = true) {n : ℕ}
    (hn : n ≤ 2) (hgroups : (cs.length + n) % 4 = 0) :
    isBase64Text (cs ++ List.replicate n '=') = true := by
  match cs with
  | [] =>
    have hzero : n = 0 := by
      rw [List.length_nil] at hgroups
      omega
    rw [hzero]
    rfl
  | [a] =>
    rw [List.length_singleton] at hgroups
    omega
  | [a, b] =>
    have htwo : n = 2 := by
      rw [List.length_cons, List.length_singleton] at hgroups
      omega
    rw [htwo]
    simp only [List.forall_mem_cons] at hcs
    show isBase64Text [a, b, '=', '='] = true
    simp [isBase64Text, hcs]
  | [a, b, c] =>
    have hone : n = 1 := by
      rw [List.length_cons, List.length_cons, List.length_singleton] at hgroups
      omega
    rw [hone]
    simp only [List.forall_mem_cons] at hcs
    show isBase64Text [a, b, c, '='] = true
    simp [isBase64Text, hcs]
  | a :: b :: c :: d :: rest =>
    simp only [List.forall_mem_cons] at hcs
    have hrest := isBase64Text_padded rest hcs.2.2.2.2 hn (by
      simp only [List.length_cons] at hgroups
      omega)
    show isBase64Text (a :: b :: c :: d :: (rest ++ List.replicate n '=')) = true
    simp [isBase64Text, hcs, hrest]

/-- Every encoding matches the pattern, however long it is. -/
theorem isBase64Text_toBase64 (bs : Bytes) : isBase64Text (toBase64 bs).toList = true := by
  obtain ⟨es, hes, -, hlength, htext⟩ := toBase64_toList bs
  have hgroups : ∀ n : ℕ, ((8 * n + 5) / 6 + (3 - n % 3) % 3) % 4 = 0 := by
    intro n
    -- three bytes make four characters, one byte two and two bytes three
    have hcases : n % 3 = 0 ∧ (8 * n + 5) / 6 = 4 * (n / 3) ∨
        n % 3 = 1 ∧ (8 * n + 5) / 6 = 4 * (n / 3) + 2 ∨
        n % 3 = 2 ∧ (8 * n + 5) / 6 = 4 * (n / 3) + 3 := by omega
    rcases hcases with ⟨hrest, hchars⟩ | ⟨hrest, hchars⟩ | ⟨hrest, hchars⟩
    all_goals
      rw [hrest, hchars]
      omega
  rw [htext]
  apply isBase64Text_padded
  · intro c hc
    obtain ⟨d, hd, rfl⟩ := List.mem_map.mp hc
    exact isBase64Char_alphabet d (hes d hd)
  · omega
  · rw [List.length_map, hlength]
    exact hgroups bs.length

theorem toBase64_eq_empty {bs : Bytes} : toBase64 bs = "" ↔ bs = [] := by
  constructor
  · intro h
    rw [← fromBase64_toBase64 bs, h]
    rfl
  · intro h
    rw [h]
    rfl

/-- An encoding has no white space. -/
theorem isSpace_toBase64 {bs : Bytes} {c : Char} (hc : c ∈ (toBase64 bs).toList) :
    isSpace c = false := by
  have halphabet : ∀ d < 2 ^ 6, isSpace (base64Alphabet.getD d ' ') = false := by
    set_option maxRecDepth 20000 in decide
  obtain ⟨es, hes, -, -, htext⟩ := toBase64_toList bs
  rw [htext] at hc
  rcases List.mem_append.mp hc with hc | hc
  · obtain ⟨d, hd, rfl⟩ := List.mem_map.mp hc
    exact halphabet d (hes d hd)
  · rw [List.eq_of_mem_replicate hc]
    decide

/-! ## Surrounding white space -/

/-- A text without white space, with white space around it. -/
theorem trim_eq_iff {text inner : String} (hinner : ∀ c ∈ inner.toList, isSpace c = false) :
    trim text = inner ↔ ∃ before after : List Char, (∀ c ∈ before, isSpace c = true) ∧
      (∀ c ∈ after, isSpace c = true) ∧ text.toList = before ++ (inner.toList ++ after) := by
  have htrim : trim text = inner ↔
      (afterSpaces (afterSpaces text.toList).reverse).reverse = inner.toList := by
    rw [trim, ← String.toList_inj, String.toList_ofList]
  rw [htrim]
  unfold afterSpaces
  constructor
  · intro h
    have hsplit := List.takeWhile_append_dropWhile (p := isSpace) (l := text.toList)
    have hsplit' := List.takeWhile_append_dropWhile (p := isSpace)
      (l := (text.toList.dropWhile isSpace).reverse)
    refine ⟨text.toList.takeWhile isSpace,
      ((text.toList.dropWhile isSpace).reverse.takeWhile isSpace).reverse,
      fun c hc => List.mem_takeWhile_imp hc,
      fun c hc => List.mem_takeWhile_imp (List.mem_reverse.mp hc), ?_⟩
    rw [← h, ← List.reverse_append, hsplit', List.reverse_reverse, hsplit]
  · rintro ⟨before, after, hbefore, hafter, htext⟩
    -- without white space at its ends nothing more is dropped
    have hkeep : ∀ cs : List Char, (∀ c ∈ cs, isSpace c = false) → cs.dropWhile isSpace = cs := by
      intro cs hcs
      cases cs with
      | nil => rfl
      | cons c cs => rw [List.dropWhile_cons_of_neg (by simp [hcs c List.mem_cons_self])]
    have hafter' : after.reverse.dropWhile isSpace = [] :=
      List.dropWhile_eq_nil_iff.mpr fun c hc => hafter c (List.mem_reverse.mp hc)
    rw [htext, List.dropWhile_append_of_pos hbefore]
    cases hcs : inner.toList with
    | nil =>
      rw [List.nil_append, List.dropWhile_eq_nil_iff.mpr hafter]
      rfl
    | cons c cs =>
      have hfirst : isSpace c = false := hinner c (by rw [hcs]; exact List.mem_cons_self)
      rw [List.cons_append, List.dropWhile_cons_of_neg (by simp [hfirst]), ← List.cons_append,
        List.reverse_append, List.dropWhile_append_of_pos fun d hd => hafter d
          (List.mem_reverse.mp hd), ← hcs, hkeep, List.reverse_reverse]
      intro d hd
      exact hinner d (List.mem_reverse.mp hd)

end SmartAccountKit.Lib
