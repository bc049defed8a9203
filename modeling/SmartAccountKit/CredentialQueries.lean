import SmartAccountKit.IndexerTheorems
import SmartAccountKit.Lib.HexText

/-!
# The credential a lookup asks for

The kit passes the base64url text of a credential to the lookups, which query
the indexer with its hexadecimal text. They guess the form of the text from its
characters, so a credential whose base64url text happens to be hexadecimal is
not asked for.
-/

namespace SmartAccountKit
open Lib

/-! ## Hexadecimal texts -/

/-- All characters of a text are hexadecimal digits of either case. -/
def IsHexText (text : String) : Prop := ∀ c ∈ text.toList, (hexValue c).isSome = true

instance (text : String) : Decidable (IsHexText text) :=
  List.decidableBAll (fun c => (hexValue c).isSome = true) text.toList

/-- A text of lower-case digits keeps its form. -/
theorem normalizedCredentialId_of_hex (lower : LowerCase) {text : String}
    (h : ∀ c ∈ text.toList, c ∈ hexAlphabet) : normalizedCredentialId lower text = text := by
  have hlower : lower.text text = text := by
    rw [lower.ascii text fun c hc => (hexAlphabet_digits (h c hc)).1]
    apply String.toList_injective
    rw [String.toList_map]
    calc text.toList.map Char.toLower = text.toList.map id :=
          List.map_congr_left fun c hc => (hexAlphabet_digits (h c hc)).2.1
      _ = text.toList := List.map_id _
  -- a hexadecimal prefix has the character x
  have hprefix : afterWord "0x" text.toList = none := by
    rw [afterWord, if_neg]
    intro hstart
    obtain ⟨rest, hrest⟩ := List.isPrefixOf_iff_prefix.mp hstart
    have hx : 'x' ∈ text.toList := by
      rw [← hrest]
      exact List.mem_append_left _ (by decide)
    exact (hexAlphabet_digits (h _ hx)).2.2 rfl
  rw [normalizedCredentialId, hlower, stripHexPrefix, hprefix]

theorem lower_of_isHexText (lower : LowerCase) {text : String} (h : IsHexText text) :
    lower.text text = text.map Char.toLower :=
  lower.ascii text fun c hc => ascii_of_hexValue (h c hc)

theorem mem_hexAlphabet_of_lower {text : String} (h : IsHexText text) :
    ∀ c ∈ (text.map Char.toLower).toList, c ∈ hexAlphabet := by
  intro c hc
  rw [String.toList_map] at hc
  obtain ⟨d, hd, rfl⟩ := List.mem_map.mp hc
  exact toLower_mem_hexAlphabet (h d hd)

/-! ## Lengths -/

theorem length_toHex (bs : Bytes) : (toHex bs).length = 2 * bs.length := by
  rw [toHex, String.length_ofList, List.length_flatMap]
  have hpair : ∀ b : UInt8, (hexByte b).length = 2 := fun _ => rfl
  simp only [hpair, List.map_const', List.sum_replicate_nat]
  omega

theorem length_toBase64Url (bs : Bytes) :
    (toBase64Url bs).length = (8 * bs.length + 5) / 6 := by
  rw [toBase64Url, encodeText, String.length_ofList, List.length_map, packGroups, length_beDigits,
    List.length_map]
  rfl

/-- In lower case, the base64url text of a credential is not its hexadecimal text. -/
theorem toBase64Url_map_toLower_ne {bs : Bytes} (hbs : bs ≠ []) (hhex : IsHexText (toBase64Url bs)) :
    (toBase64Url bs).map Char.toLower ≠ toHex bs := by
  intro heq
  have hlength := congrArg String.length heq
  rw [String.length_map, length_toBase64Url, length_toHex] at hlength
  have hpos : 0 < bs.length := List.length_pos_iff.mpr hbs
  -- only the text of one byte has the length of its hexadecimal text
  obtain ⟨b, rfl⟩ := List.length_eq_one_iff.mp (show bs.length = 1 by omega)
  have hone : ∀ n < 256, IsHexText (toBase64Url [UInt8.ofNat n]) →
      (toBase64Url [UInt8.ofNat n]).map Char.toLower ≠ toHex [UInt8.ofNat n] := by
    decide +kernel
  have hb := b.toNat_lt
  have := hone b.toNat (by omega)
  rw [UInt8.ofNat_toNat] at this
  exact this hhex heq

theorem toBase64Url_ne_nil {bs : Bytes} (hbs : bs ≠ []) : (toBase64Url bs).toList ≠ [] := by
  intro hnil
  have hlength := congrArg List.length hnil
  rw [String.length_toList, length_toBase64Url, List.length_nil] at hlength
  have hpos : 0 < bs.length := List.length_pos_iff.mpr hbs
  omega

/-! ## Queries -/

section queries

variable (lower : LowerCase) (client : IndexerClient) {α : Type}

/-- Every run of a program makes one request, for a credential id. -/
def Queries (p : Program IndexerServer IndexerFailure α) (id : String) : Prop :=
  ∀ t x, Program.Run p t x → ∃ reply, t = [⟨client.request (API_PATH_LOOKUP ++ "/" ++ id), reply⟩]

/-- The lookups for a credential query the indexer with its bytes in hexadecimal. -/
def AsksFor (credentialId : Bytes) : Prop :=
  Queries client (lookupWalletCandidates lower (some client) (toBase64Url credentialId))
      (toHex credentialId) ∧
    Queries client (discoverContractsByCredential lower (some client) (toBase64Url credentialId))
      (toHex credentialId)

/-- No lookups for the two credentials make the same requests. -/
def Distinguishes (b b' : Bytes) : Prop :=
  (∀ t x t' x',
    Program.Run (lookupWalletCandidates lower (some client) (toBase64Url b)) t x →
    Program.Run (lookupWalletCandidates lower (some client) (toBase64Url b')) t' x' →
      t.map (·.request) ≠ t'.map (·.request)) ∧
  ∀ t x t' x',
    Program.Run (discoverContractsByCredential lower (some client) (toBase64Url b)) t x →
    Program.Run (discoverContractsByCredential lower (some client) (toBase64Url b')) t' x' →
      t.map (·.request) ≠ t'.map (·.request)

theorem queries_lookupWalletCandidates (credentialId : String) :
    Queries client (lookupWalletCandidates lower (some client) credentialId)
      (normalizedCredentialId lower
        (normalizedCredentialId lower (normalizeCredentialIdToHex lower credentialId))) := by
  intro t x hrun
  obtain ⟨y, hlookup, -⟩ := Program.run_bind_ofExcept.mp hrun
  obtain ⟨z, hlookup, -⟩ := run_lookupWalletCandidates.mp hlookup
  obtain ⟨reply, rfl, -⟩ := run_lookupByCredentialId.mp hlookup
  exact ⟨reply, rfl⟩

theorem queries_discoverContractsByCredential (credentialId : String) :
    Queries client (discoverContractsByCredential lower (some client) credentialId)
      (normalizedCredentialId lower (normalizeCredentialIdToHex lower credentialId)) := by
  intro t x hrun
  obtain ⟨y, hlookup, -⟩ := Program.run_bind_ofExcept.mp hrun
  obtain ⟨reply, rfl, -⟩ := run_lookupByCredentialId.mp hlookup
  exact ⟨reply, rfl⟩

variable {lower client}

/-- Requests for two credential ids differ. -/
theorem request_inj {id id' : String}
    (h : client.request (API_PATH_LOOKUP ++ "/" ++ id) =
      client.request (API_PATH_LOOKUP ++ "/" ++ id')) : id = id' := by
  have hlist := congrArg (fun r => r.url.toList) h
  simp only [IndexerClient.request, String.toList_append, List.append_assoc] at hlist
  exact String.toList_injective
    (List.append_cancel_left (List.append_cancel_left (List.append_cancel_left hlist)))

/-- A program queries for one credential id. -/
theorem Queries.unique {p : Program IndexerServer IndexerFailure α} {id id' : String}
    (h : Queries client p id) (h' : Queries client p id') : id = id' := by
  have hrun := Program.run_transcript (fun _ => (.aborted : IndexerReply)) p
  obtain ⟨_, ht⟩ := h _ _ hrun
  obtain ⟨_, ht'⟩ := h' _ _ hrun
  exact request_inj (congrArg Exchange.request (List.cons.inj (ht.symm.trans ht')).1)

/-- Programs that query for one credential id make the same requests. -/
theorem Queries.same_requests {p p' : Program IndexerServer IndexerFailure α} {id id' : String}
    (h : Queries client p id) (h' : Queries client p' id') {t t' : History IndexerServer}
    {x x' : Except IndexerFailure α} (hrun : Program.Run p t x) (hrun' : Program.Run p' t' x') :
    t.map (·.request) = t'.map (·.request) ↔ id = id' := by
  obtain ⟨_, rfl⟩ := h t x hrun
  obtain ⟨_, rfl⟩ := h' t' x' hrun'
  constructor
  · intro heq
    exact request_inj (List.cons.inj heq).1
  · rintro rfl
    rfl

variable (lower client)

theorem normalizeCredentialIdToHex_toBase64Url {b : Bytes} (hb : b ≠ []) :
    normalizeCredentialIdToHex lower (toBase64Url b) =
      if IsHexText (toBase64Url b) then (toBase64Url b).map Char.toLower else toHex b := by
  have hform : ((toBase64Url b).toList ≠ [] ∧
      ((toBase64Url b).toList.all fun c => (hexValue c).isSome) = true) ↔
        IsHexText (toBase64Url b) := by
    rw [List.all_eq_true]
    exact and_iff_right (toBase64Url_ne_nil hb)
  rw [normalizeCredentialIdToHex, fromBase64_toBase64Url]
  by_cases hhex : IsHexText (toBase64Url b)
  · rw [if_pos (hform.mpr hhex), if_pos hhex, lower_of_isHexText lower hhex]
  · rw [if_neg (fun h => hhex (hform.mp h)), if_neg hhex]

theorem normalizedCredentialId_of_toBase64Url {b : Bytes} (hb : b ≠ []) :
    normalizedCredentialId lower (normalizeCredentialIdToHex lower (toBase64Url b)) =
      normalizeCredentialIdToHex lower (toBase64Url b) := by
  apply normalizedCredentialId_of_hex
  rw [normalizeCredentialIdToHex_toBase64Url lower hb]
  split_ifs with hhex
  · exact mem_hexAlphabet_of_lower hhex
  · exact fun c => mem_hexAlphabet_of_toHex

/-- A credential is asked for exactly if its base64url text is not hexadecimal. -/
theorem asksFor_iff {b : Bytes} (hb : b ≠ []) :
    AsksFor lower client b ↔ ¬IsHexText (toBase64Url b) := by
  have hwallets := queries_lookupWalletCandidates lower client (toBase64Url b)
  have hcontracts :=
    queries_discoverContractsByCredential lower client (toBase64Url b)
  rw [normalizedCredentialId_of_toBase64Url lower hb] at hcontracts
  rw [normalizedCredentialId_of_toBase64Url lower hb,
    normalizedCredentialId_of_toBase64Url lower hb] at hwallets
  have hquery := normalizeCredentialIdToHex_toBase64Url lower hb
  constructor
  · intro h hhex
    rw [if_pos hhex] at hquery
    rw [hquery] at hwallets
    exact toBase64Url_map_toLower_ne hb hhex (hwallets.unique h.1)
  · intro hhex
    rw [if_neg hhex] at hquery
    rw [hquery] at hwallets hcontracts
    exact ⟨hwallets, hcontracts⟩

variable {lower client}

/-- Two credentials that are asked for are told apart. -/
theorem AsksFor.distinguishes {b b' : Bytes} (h : AsksFor lower client b)
    (h' : AsksFor lower client b') (hne : b ≠ b') : Distinguishes lower client b b' := by
  have hid : toHex b ≠ toHex b' := fun heq => hne (toHex_inj heq)
  exact ⟨fun t x t' x' hrun hrun' => fun heq => hid ((h.1.same_requests h'.1 hrun hrun').mp heq),
    fun t x t' x' hrun hrun' => fun heq => hid ((h.2.same_requests h'.2 hrun hrun').mp heq)⟩

variable (lower client)

/-- Two credentials are both asked for, and told apart if they differ, exactly if neither has a
base64url text of hexadecimal digits only. -/
theorem credentialQueries_iff {b b' : Bytes} (hb : b ≠ []) (hb' : b' ≠ []) :
    (AsksFor lower client b ∧ AsksFor lower client b' ∧
        (b ≠ b' → Distinguishes lower client b b')) ↔
      ¬IsHexText (toBase64Url b) ∧ ¬IsHexText (toBase64Url b') := by
  rw [← asksFor_iff lower client hb, ← asksFor_iff lower client hb']
  constructor
  · rintro ⟨h, h', -⟩
    exact ⟨h, h'⟩
  · rintro ⟨h, h'⟩
    exact ⟨h, h', h.distinguishes h'⟩

end queries

def sampleIndexer : IndexerClient := .create "https://indexer.example/" none

theorem credentialQueries_iff_sample :
    AsksFor .asciiOnly sampleIndexer [1, 2, 3] ∧ AsksFor .asciiOnly sampleIndexer [170, 170] ∧
      Distinguishes .asciiOnly sampleIndexer [1, 2, 3] [170, 170] := by
  obtain ⟨h, h', hdistinct⟩ := (credentialQueries_iff .asciiOnly sampleIndexer
    (show ([1, 2, 3] : Bytes) ≠ [] by decide) (show ([170, 170] : Bytes) ≠ [] by decide)).mpr
      ⟨by decide, by decide⟩
  exact ⟨h, h', hdistinct (by decide)⟩

/-- The credential of three zero bytes is not asked for, and its lookups make the request of
another credential. -/
theorem credentialQueries_hexText :
    ¬AsksFor .asciiOnly sampleIndexer [0, 0, 0] ∧
      ¬Distinguishes .asciiOnly sampleIndexer [0, 0, 0] [170, 170] := by
  have hasked := asksFor_iff .asciiOnly sampleIndexer (show ([0, 0, 0] : Bytes) ≠ [] by decide)
  refine ⟨fun h => hasked.mp h (by decide), fun h => ?_⟩
  have hquery := queries_lookupWalletCandidates .asciiOnly sampleIndexer
    (toBase64Url [0, 0, 0])
  have hquery' := queries_lookupWalletCandidates .asciiOnly sampleIndexer
    (toBase64Url [170, 170])
  -- both lookups ask for the text aaaa
  have hsame : normalizedCredentialId .asciiOnly (normalizedCredentialId .asciiOnly
        (normalizeCredentialIdToHex .asciiOnly (toBase64Url [0, 0, 0]))) =
      normalizedCredentialId .asciiOnly (normalizedCredentialId .asciiOnly
        (normalizeCredentialIdToHex .asciiOnly (toBase64Url [170, 170]))) := by
    decide +kernel
  have hrun := Program.run_transcript (fun _ => (.aborted : IndexerReply))
    (lookupWalletCandidates .asciiOnly (some sampleIndexer) (toBase64Url [0, 0, 0]))
  have hrun' := Program.run_transcript (fun _ => (.aborted : IndexerReply))
    (lookupWalletCandidates .asciiOnly (some sampleIndexer) (toBase64Url [170, 170]))
  exact h.1 _ _ _ _ hrun hrun' ((hquery.same_requests hquery' hrun hrun').mpr hsame)

end SmartAccountKit
