import SmartAccountKit.Lib.HexText
import SmartAccountKit.Lib.Spaces
import SmartAccountKit.RelayerProxy.Environment

/-!
# Allowlists as they are written

A comma-separated list is read back as its items: hashes, addresses and function
names contain neither commas nor white space.
-/

namespace SmartAccountKit.RelayerProxy
open Lib

/-- A text that is read back from a comma-separated list. -/
structure CsvItem (text : String) : Prop where
  nonempty : text ≠ ""
  noComma : ',' ∉ text.toList
  noSpace : ∀ c ∈ text.toList, isSpace c = false

theorem CsvItem.trim_eq {text : String} (h : CsvItem text) : trim text = text := by
  apply trim_eq_self_of_ends
  · intro c hc
    exact h.noSpace c (List.mem_of_mem_head? hc)
  · intro c hc
    exact h.noSpace c (List.mem_of_mem_getLast? hc)

theorem csvSet_intercalate {items : List String} (hitems : ∀ item ∈ items, CsvItem item)
    (hne : items ≠ []) : csvSet (some (",".intercalate items)) = items := by
  have hsplit : (",".intercalate items).toList.splitOn ',' = items.map String.toList := by
    rw [String.toList_intercalate]
    apply List.splitOn_intercalate
    · intro cs hcs
      obtain ⟨item, hitem, rfl⟩ := List.mem_map.mp hcs
      exact (hitems item hitem).noComma
    · simpa using hne
  have htrim : ∀ item ∈ items, trim (String.ofList item.toList) = item := by
    intro item hitem
    rw [String.ofList_toList]
    exact (hitems item hitem).trim_eq
  have hmap : (items.map String.toList).map (fun item => trim (String.ofList item)) = items := by
    rw [List.map_map]
    exact (List.map_congr_left htrim).trans (List.map_id' items)
  rw [csvSet, Option.getD_some, hsplit, hmap, List.filter_eq_self]
  intro item hitem
  simpa using (hitems item hitem).nonempty

theorem csvSet_singleton {item : String} (h : CsvItem item) : csvSet (some item) = [item] := by
  have hread := csvSet_intercalate (List.forall_mem_singleton.mpr h) (List.cons_ne_nil item [])
  rwa [String.intercalate_singleton] at hread

/-! ## Items -/

/-- A text whose characters are all in an alphabet without commas and white space. -/
theorem csvItem_of_alphabet {alphabet : List Char} {text : String} (hne : text ≠ "")
    (halphabet : (alphabet.all fun c => c != ',' && !isSpace c) = true)
    (h : ∀ c ∈ text.toList, c ∈ alphabet) : CsvItem text := by
  have hall : ∀ c ∈ text.toList, c ≠ ',' ∧ isSpace c = false := by
    intro c hc
    simpa using List.all_eq_true.mp halphabet c (h c hc)
  exact {
    nonempty := hne
    noComma := fun hmem => (hall ',' hmem).1 rfl
    noSpace := fun c hc => (hall c hc).2 }

theorem length_toHex (bs : Bytes) : (toHex bs).toList.length = 2 * bs.length := by
  rw [toHex, String.toList_ofList]
  induction bs with
  | nil => rfl
  | cons b bs ih =>
    rw [List.flatMap_cons, List.length_append, ih, List.length_cons]
    show 2 + 2 * bs.length = _
    omega

theorem csvItem_toHex {bs : Bytes} (h : bs ≠ []) : CsvItem (toHex bs) := by
  apply @csvItem_of_alphabet hexAlphabet
  · intro hempty
    have hlength := length_toHex bs
    have hpos := List.length_pos_iff.mpr h
    rw [hempty, String.toList_empty, List.length_nil] at hlength
    omega
  · decide
  · intro c hc
    exact mem_hexAlphabet_of_toHex hc

theorem mem_encodeText {alphabet : List Char} {w : ℕ} {bs : Bytes} {c : Char}
    (halphabet : 2 ^ w ≤ alphabet.length) (hc : c ∈ (encodeText alphabet w bs).toList) :
    c ∈ alphabet := by
  rw [encodeText, String.toList_ofList, List.mem_map] at hc
  obtain ⟨d, hd, rfl⟩ := hc
  have hlt : d < alphabet.length := lt_of_lt_of_le (packGroups_lt _ _ _ d hd) halphabet
  rw [List.getD_eq_getElem?_getD, List.getElem?_eq_getElem hlt]
  exact List.getElem_mem hlt

theorem csvItem_encodeCheck (version : UInt8) (payload : Bytes) :
    CsvItem (encodeCheck version payload) := by
  apply @csvItem_of_alphabet base32Alphabet
  · intro hempty
    have hdecode := decodeUnchecked_encodeCheck version payload
    have hnone : decodeUnchecked "" = none := by rfl
    rw [hempty, hnone] at hdecode
    exact absurd hdecode (by simp)
  · decide
  · intro c hc
    exact mem_encodeText (by decide) hc

/-- Without a configured list the default functions are sponsored. -/
theorem allowedWalletFunctions_default {env : ProxyEnv} (h : env.ALLOWED_WALLET_FUNCTIONS = none) :
    allowedWalletFunctions env = DEFAULT_WALLET_FUNCTIONS := by
  have hall : (DEFAULT_WALLET_FUNCTIONS.all fun item =>
      item != "" && item.toList.all fun c => c != ',' && !isSpace c) = true := by decide
  rw [allowedWalletFunctions, h, Option.getD_none]
  apply csvSet_intercalate
  · intro item hitem
    have hchars := List.all_eq_true.mp hall item hitem
    rw [Bool.and_eq_true] at hchars
    exact csvItem_of_alphabet (by simpa using hchars.1) hchars.2 fun c hc => hc
  · exact List.cons_ne_nil _ _

/-! ## Code hashes -/

theorem isWasmHash_toHex (wasmHash : BytesN 32) : isWasmHash (toHex wasmHash.1) = true := by
  have hlength : (toHex wasmHash.1).toList.length = 64 := by rw [length_toHex, wasmHash.2]
  have hall : ((toHex wasmHash.1).toList.all fun c => hexAlphabet.contains c) = true := by
    rw [List.all_eq_true]
    intro c hc
    exact List.contains_iff_mem.mpr (mem_hexAlphabet_of_toHex hc)
  rw [isWasmHash, hlength, hall]
  rfl

/-- Configured hashes are read back. -/
theorem wasmHashSet_hashes (lower : LowerCase) {hashes : List (BytesN 32)} (hne : hashes ≠ [])
    (name : String) :
    wasmHashSet lower (some (",".intercalate (hashes.map fun h => toHex h.1))) name =
      .ok (hashes.map fun h => toHex h.1) := by
  have hitems : ∀ item ∈ hashes.map (fun h => toHex h.1), CsvItem item := by
    intro item hitem
    obtain ⟨h, -, rfl⟩ := List.mem_map.mp hitem
    apply csvItem_toHex
    intro hnil
    have hlength := h.2
    rw [hnil] at hlength
    exact absurd hlength (by decide)
  have hlower : ∀ item ∈ hashes.map (fun h => toHex h.1), lower.text item = item := by
    intro item hitem
    obtain ⟨h, -, rfl⟩ := List.mem_map.mp hitem
    rw [lower.ascii, toHex_map_toLower]
    intro c hc
    exact (hexAlphabet_digits (mem_hexAlphabet_of_toHex hc)).1
  have hset : csvSetLower lower (some (",".intercalate (hashes.map fun h => toHex h.1))) =
      hashes.map fun h => toHex h.1 := by
    rw [csvSetLower, csvSet_intercalate hitems (mt List.map_eq_nil_iff.mp hne)]
    exact (List.map_congr_left hlower).trans (List.map_id' _)
  have hall : (hashes.map fun h => toHex h.1).all isWasmHash = true := by
    rw [List.all_eq_true]
    intro item hitem
    obtain ⟨h, -, rfl⟩ := List.mem_map.mp hitem
    exact isWasmHash_toHex h
  unfold wasmHashSet
  rw [hset, if_pos hall]

/-- A single configured hash is the one that may be deployed. -/
theorem allowedDeployWasmHashes_single (lower : LowerCase) {env : ProxyEnv} {wasmHash : BytesN 32}
    (h : env.ALLOWED_DEPLOY_WASM_HASHES = some (toHex wasmHash.1)) :
    allowedDeployWasmHashes lower env = .ok [toHex wasmHash.1] := by
  have hne : wasmHash.1 ≠ [] := by
    intro hnil
    have hlength := wasmHash.2
    rw [hnil] at hlength
    exact absurd hlength (by decide)
  have hitem := csvItem_toHex hne
  have hread := wasmHashSet_hashes lower (List.cons_ne_nil wasmHash []) "ALLOWED_DEPLOY_WASM_HASHES"
  rw [List.map_singleton, String.intercalate_singleton] at hread
  unfold allowedDeployWasmHashes
  rw [h, if_neg, hread]
  rw [Option.all_some, hitem.trim_eq, decide_eq_true_iff]
  exact hitem.nonempty

end SmartAccountKit.RelayerProxy
