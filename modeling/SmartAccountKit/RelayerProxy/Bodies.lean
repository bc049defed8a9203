import SmartAccountKit.Lib.JsonText
import SmartAccountKit.RelayerProxy.Submissions

/-!
# The bodies that the relayer proxy accepts

A body is accepted exactly if it is a JSON object with the fields of one of the two
modes and no other, and the value that is submitted later is the one in those fields.
-/

namespace SmartAccountKit.RelayerProxy
open Lib

/-- The fields of a body in the mode with a host function. -/
structure FuncFields (fields : List (String × JsonValue)) (func : String) (auth : List String) :
    Prop where
  keys : ∀ key ∈ fields.map Prod.fst, key = "func" ∨ key = "auth"
  atMost : auth.length ≤ MAX_AUTH_ENTRIES
  func : (JsonValue.object fields).field "func" = some (.string func) ∧ func ≠ ""
  auth : (JsonValue.object fields).field "auth" = some (.array (auth.map .string)) ∧ auth ≠ [] ∧
    ∀ entry ∈ auth, entry ≠ ""

theorem nonEmptyText?_eq_some {value : Option JsonValue} {text : String} :
    nonEmptyText? value = some text ↔ value = some (.string text) ∧ text ≠ "" := by
  unfold nonEmptyText?
  split
  · rename_i text'
    split_ifs with hempty
    · simp only [Option.some.injEq, JsonValue.string.injEq, ne_eq, false_iff, not_and,
        not_not]
      intro hsame
      rw [← hsame, hempty]
    · simp only [Option.some.injEq, JsonValue.string.injEq, ne_eq]
      constructor
      · intro hsame
        rw [← hsame]
        exact ⟨rfl, hempty⟩
      · exact fun h => h.1
  · rename_i hother
    exact iff_of_false (by simp) fun h => hother text h.1

theorem nonEmptyTexts?_eq_some {value : Option JsonValue} {texts : List String} :
    nonEmptyTexts? value = some texts ↔
      value = some (.array (texts.map .string)) ∧ texts ≠ [] ∧ ∀ text ∈ texts, text ≠ "" := by
  -- the items are texts that are not empty exactly if each of them is one
  have hitems : ∀ (items : List JsonValue) (texts : List String),
      (items.mapM fun item => nonEmptyText? (some item)) = some texts ↔
        items = texts.map .string ∧ ∀ text ∈ texts, text ≠ "" := by
    intro items
    induction items with
    | nil =>
      intro texts
      rw [List.mapM_nil]
      cases texts with
      | nil => simp
      | cons text texts => simp
    | cons item items ih =>
      intro texts
      rw [List.mapM_cons]
      cases texts with
      | nil => simp [Option.bind_eq_some_iff]
      | cons text texts =>
        simp only [Option.bind_eq_bind, Option.bind_eq_some_iff, Option.pure_def, Option.some.injEq,
          List.cons.injEq, nonEmptyText?_eq_some, List.map_cons, List.forall_mem_cons]
        constructor
        · intro ⟨first, ⟨hitem, hfirst⟩, rest, hrest, hfirst', hrest'⟩
          obtain ⟨hsame, hall⟩ := (ih rest).mp hrest
          rw [← hfirst', ← hrest']
          exact ⟨⟨hitem, hsame⟩, hfirst, hall⟩
        · intro ⟨⟨hitem, hsame⟩, hfirst, hall⟩
          exact ⟨text, ⟨hitem, hfirst⟩, texts, (ih texts).mpr ⟨hsame, hall⟩, rfl, rfl⟩
  unfold nonEmptyTexts?
  split
  · rename_i items
    split_ifs with hempty
    · simp only [Option.some.injEq, JsonValue.array.injEq, ne_eq, false_iff, not_and]
      intro hsame hne
      rw [List.isEmpty_iff.mp hempty] at hsame
      exact absurd (List.map_eq_nil_iff.mp hsame.symm) hne
    · rw [hitems]
      simp only [Option.some.injEq, JsonValue.array.injEq]
      constructor
      · intro ⟨hsame, hall⟩
        refine ⟨hsame, fun hnil => hempty ?_, hall⟩
        rw [hsame, hnil]
        rfl
      · intro ⟨hsame, _, hall⟩
        exact ⟨hsame, hall⟩
  · rename_i hother
    exact iff_of_false (by simp) fun h => hother _ h.1

section fields

variable {fields : List (String × JsonValue)}

/-- A field that is there is among the keys. -/
theorem mem_keys_of_field {name : String} {value : JsonValue}
    (h : (JsonValue.object fields).field name = some value) : name ∈ fields.map Prod.fst := by
  obtain ⟨e, hfind, -⟩ := Option.map_eq_some_iff.mp h
  have hname : e.1 = name := by simpa using List.find?_some hfind
  have hmem : e ∈ fields := List.mem_reverse.mp (List.mem_of_find?_eq_some hfind)
  rw [← hname]
  exact List.mem_map_of_mem hmem

/-- Where only some keys are allowed, the field of another key is missing. -/
theorem nonEmptyText?_missing {name : String} (h : name ∉ fields.map Prod.fst) :
    nonEmptyText? ((JsonValue.object fields).field name) = none := by
  cases hfield : nonEmptyText? ((JsonValue.object fields).field name) with
  | none => rfl
  | some text => exact absurd (mem_keys_of_field (nonEmptyText?_eq_some.mp hfield).1) h

end fields

/-- A body in the mode with a host function is accepted exactly with these fields. -/
theorem parseSubmissionBody_func_iff {text func : String} {auth : List String} :
    parseSubmissionBody text = .ok (.func func auth) ↔
      ∃ fields, parseJson text = some (.object fields) ∧ FuncFields fields func auth := by
  constructor
  · intro h
    unfold parseSubmissionBody at h
    split at h
    · exact absurd h (by simp)
    · rename_i fields hparse
      dsimp only at h
      split at h
      · exact absurd h (by simp)
      · split_ifs at h
        exact absurd h (by simp)
      · rename_i func' auth' hxdr hfunc hauth
        split_ifs at h with hkeys hlength
        obtain ⟨rfl, rfl⟩ := SubmissionBody.func.inj (Except.ok.inj h)
        refine ⟨fields, hparse, ?_, by omega, nonEmptyText?_eq_some.mp hfunc,
          nonEmptyTexts?_eq_some.mp hauth⟩
        intro key hkey
        by_contra hnot
        rw [not_or] at hnot
        apply hkeys
        rw [List.any_eq_true]
        exact ⟨key, hkey, by simpa using hnot⟩
      · exact absurd h (by simp)
    · exact absurd h (by simp)
  · intro ⟨fields, hparse, hfields⟩
    have hxdr : nonEmptyText? ((JsonValue.object fields).field "xdr") = none := by
      apply nonEmptyText?_missing
      intro hmem
      exact (hfields.keys "xdr" hmem).elim (by decide) (by decide)
    have hkeys : ¬(fields.map Prod.fst).any (fun key => key ≠ "func" && key ≠ "auth") = true := by
      rw [List.any_eq_true]
      intro ⟨key, hkey, hnot⟩
      have hnot : key ≠ "func" ∧ key ≠ "auth" := by simpa using hnot
      exact (hfields.keys key hkey).elim hnot.1 hnot.2
    have hlength : ¬auth.length > MAX_AUTH_ENTRIES := by
      have := hfields.atMost
      omega
    unfold parseSubmissionBody
    rw [hparse]
    dsimp only
    rw [hxdr, nonEmptyText?_eq_some.mpr hfields.func, nonEmptyTexts?_eq_some.mpr hfields.auth]
    dsimp only
    rw [if_neg hkeys, if_neg hlength]

/-! ## The bodies of the client -/

/-- `JSON.stringify({ func, auth })`. -/
def funcBodyText (func : String) (auth : List String) : String :=
  stringifyJson (.object [("func", .string func), ("auth", .array (auth.map .string))])

theorem wellFormed_texts (texts : List String) : (JsonValue.array (texts.map .string)).WellFormed := by
  apply JsonValue.WellFormed.array
  intro item hitem
  obtain ⟨text, -, rfl⟩ := List.mem_map.mp hitem
  exact .string text

/-- A host function and its entries are read back from the body that they are sent in. -/
theorem parseSubmissionBody_funcBodyText {func : String} {auth : List String} (hfunc : func ≠ "")
    (hauth : auth ≠ []) (hentries : ∀ entry ∈ auth, entry ≠ "")
    (hlength : auth.length ≤ MAX_AUTH_ENTRIES) :
    parseSubmissionBody (funcBodyText func auth) = .ok (.func func auth) := by
  have hparse : parseJson (funcBodyText func auth) =
      some (.object [("func", .string func), ("auth", .array (auth.map .string))]) := by
    apply parseJson_stringifyJson
    apply JsonValue.WellFormed.object
    simp only [List.forall_mem_cons]
    exact ⟨.string func, wellFormed_texts auth, fun e he => absurd he List.not_mem_nil⟩
  refine parseSubmissionBody_func_iff.mpr ⟨_, hparse, ?_, hlength, ⟨rfl, hfunc⟩, rfl, hauth,
    hentries⟩
  simp

end SmartAccountKit.RelayerProxy
