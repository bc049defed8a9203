import Mathlib.Data.List.Induction
import Mathlib.Data.List.Nodup
import Mathlib.Order.Nat

/-!
# Maps in the order of insertion

A JavaScript `Map` with its operations, and what is read after each of them.
-/

namespace SmartAccountKit.Lib

variable {κ α : Type}

/-- A map. The entries stand in the order in which their keys were first set. -/
structure JsMap (κ α : Type) where
  entries : List (κ × α)
  distinct : (entries.map Prod.fst).Nodup

namespace JsMap

def empty : JsMap κ α where
  entries := []
  distinct := List.nodup_nil

def values (m : JsMap κ α) : List α := m.entries.map Prod.snd

theorem distinct_append {m : JsMap κ α} {key : κ} {value : α}
    (h : key ∉ m.entries.map Prod.fst) : ((m.entries ++ [(key, value)]).map Prod.fst).Nodup := by
  rw [List.map_append]
  apply m.distinct.append (List.nodup_singleton key)
  intro k hk hkey
  rw [List.mem_singleton.mp hkey] at hk
  exact h hk

variable [DecidableEq κ]

def get (m : JsMap κ α) (key : κ) : Option α :=
  (m.entries.find? fun e => e.1 = key).map Prod.snd

/-- The entry of a key with another value. -/
def replaced (key : κ) (value : α) (e : κ × α) : κ × α := if e.1 = key then (key, value) else e

theorem map_fst_replaced (key : κ) (value : α) (entries : List (κ × α)) :
    (entries.map (replaced key value)).map Prod.fst = entries.map Prod.fst := by
  rw [List.map_map]
  apply List.map_congr_left
  intro e _
  show (replaced key value e).1 = e.1
  rw [replaced]
  split_ifs with h
  · exact h.symm
  · rfl

/-- A key that is there keeps its place. -/
def set (m : JsMap κ α) (key : κ) (value : α) : JsMap κ α :=
  if h : key ∈ m.entries.map Prod.fst then
    { entries := m.entries.map (replaced key value)
      distinct := by
        rw [map_fst_replaced]
        exact m.distinct }
  else { entries := m.entries ++ [(key, value)], distinct := distinct_append h }

def delete (m : JsMap κ α) (key : κ) : JsMap κ α where
  entries := m.entries.filter fun e => e.1 ≠ key
  distinct := m.distinct.sublist (List.filter_sublist.map Prod.fst)

/-! ## Reading -/

theorem get_eq_some_iff {m : JsMap κ α} {key : κ} {value : α} :
    m.get key = some value ↔ (key, value) ∈ m.entries := by
  rw [get, Option.map_eq_some_iff]
  constructor
  · rintro ⟨e, hfind, rfl⟩
    have hkey : e.1 = key := by simpa using List.find?_some hfind
    have hmem := List.mem_of_find?_eq_some hfind
    rw [← hkey]
    exact hmem
  · intro hmem
    cases hfind : m.entries.find? fun e => e.1 = key with
    | none =>
      have hnone := List.find?_eq_none.mp hfind (key, value) hmem
      simp at hnone
    | some e =>
      have hkey : e.1 = key := by simpa using List.find?_some hfind
      have hsame : e = (key, value) :=
        List.inj_on_of_nodup_map m.distinct (List.mem_of_find?_eq_some hfind) hmem hkey
      exact ⟨e, rfl, by rw [hsame]⟩

theorem mem_entries_set {m : JsMap κ α} {key k : κ} {value v : α} :
    (k, v) ∈ (m.set key value).entries ↔
      if k = key then v = value else (k, v) ∈ m.entries := by
  unfold set
  split_ifs with hkeys hk hk
  · -- the key is there
    obtain ⟨e, he, hekey⟩ := List.mem_map.mp hkeys
    rw [List.mem_map]
    constructor
    · rintro ⟨e', -, heq⟩
      unfold replaced at heq
      split_ifs at heq with hkey
      · exact (Prod.mk.inj heq).2.symm
      · rw [heq] at hkey
        exact absurd hk hkey
    · rintro rfl
      exact ⟨e, he, by rw [replaced, if_pos hekey, hk]⟩
  · rw [List.mem_map]
    constructor
    · rintro ⟨e', he', heq⟩
      unfold replaced at heq
      split_ifs at heq with hkey
      · exact absurd (Prod.mk.inj heq).1.symm hk
      · rw [← heq]
        exact he'
    · intro hmem
      exact ⟨(k, v), hmem, if_neg hk⟩
  · rw [List.mem_append, List.mem_singleton]
    constructor
    · rintro (hmem | heq)
      · rw [hk] at hmem
        exact absurd (List.mem_map.mpr ⟨_, hmem, rfl⟩) hkeys
      · exact (Prod.mk.inj heq).2
    · rintro rfl
      exact Or.inr (by rw [hk])
  · rw [List.mem_append, List.mem_singleton]
    constructor
    · rintro (hmem | heq)
      · exact hmem
      · exact absurd (Prod.mk.inj heq).1 hk
    · exact Or.inl

@[simp] theorem get_empty (key : κ) : (empty : JsMap κ α).get key = none := rfl

theorem get_set (m : JsMap κ α) (key k : κ) (value : α) :
    (m.set key value).get k = if k = key then some value else m.get k := by
  ext v
  rw [get_eq_some_iff, mem_entries_set]
  split_ifs
  · rw [Option.some.injEq, eq_comm]
  · rw [get_eq_some_iff]

theorem get_delete (m : JsMap κ α) (key k : κ) :
    (m.delete key).get k = if k = key then none else m.get k := by
  ext v
  rw [get_eq_some_iff, delete, List.mem_filter]
  split_ifs with hk
  · simp [hk]
  · simp [hk, get_eq_some_iff]

/-- Setting a key to the value that it has changes nothing, and only that. -/
theorem set_eq_self_iff {m : JsMap κ α} {key : κ} {value : α} :
    m.set key value = m ↔ m.get key = some value := by
  constructor
  · intro h
    rw [← h, get_set, if_pos rfl]
  · intro h
    have hmem := get_eq_some_iff.mp h
    have hkeys : key ∈ m.entries.map Prod.fst := List.mem_map.mpr ⟨_, hmem, rfl⟩
    -- the only entry of the key has the value already
    have hentries : m.entries.map (replaced key value) = m.entries := by
      have hself : m.entries.map (replaced key value) = m.entries.map id := by
        apply List.map_congr_left
        intro e he
        rw [replaced]
        split_ifs with hkey
        · exact List.inj_on_of_nodup_map m.distinct hmem he hkey.symm
        · rfl
      rw [hself, List.map_id]
    cases m with
    | mk entries distinct =>
      unfold set
      rw [dif_pos hkeys]
      congr

theorem mem_values_iff {m : JsMap κ α} {value : α} :
    value ∈ m.values ↔ ∃ key, m.get key = some value := by
  rw [values, List.mem_map]
  constructor
  · rintro ⟨e, he, rfl⟩
    exact ⟨e.1, get_eq_some_iff.mpr he⟩
  · rintro ⟨key, hget⟩
    exact ⟨_, get_eq_some_iff.mp hget, rfl⟩

/-! ## Many entries -/

/-- Setting some entries one after the other. -/
def setAll (m : JsMap κ α) (entries : List (κ × α)) : JsMap κ α :=
  entries.foldl (fun m e => m.set e.1 e.2) m

/-- The map of some entries. -/
def ofEntries (entries : List (κ × α)) : JsMap κ α := empty.setAll entries

theorem get_congr {m n : JsMap κ α} (h : m.entries.Perm n.entries) (key : κ) :
    m.get key = n.get key := by
  ext value
  rw [get_eq_some_iff, get_eq_some_iff, h.mem_iff]

/-- What an entry of the second map does not give is read in the first. -/
theorem get_setAll (m n : JsMap κ α) (key : κ) :
    (m.setAll n.entries).get key = (n.get key).or (m.get key) := by
  obtain ⟨entries, distinct⟩ := n
  show (m.setAll entries).get key = _
  induction entries using List.reverseRecOn with
  | nil => rfl
  | append_singleton entries last ih =>
    have hnodup : (entries.map Prod.fst).Nodup :=
      distinct.sublist ((List.sublist_append_left entries [last]).map Prod.fst)
    have hsplit : m.setAll (entries ++ [last]) = (m.setAll entries).set last.1 last.2 :=
      List.foldl_append
    have hfind : (⟨entries ++ [last], distinct⟩ : JsMap κ α).get key =
        if key = last.1 then some last.2 else (⟨entries, hnodup⟩ : JsMap κ α).get key := by
      ext value
      rw [get_eq_some_iff]
      show (key, value) ∈ entries ++ [last] ↔ _
      rw [List.mem_append, List.mem_singleton]
      split_ifs with hkey
      · have hnew : (key, value) ∉ entries := by
          intro hmem
          rw [List.map_append] at distinct
          have hdisjoint := List.disjoint_of_nodup_append distinct
          exact hdisjoint (List.mem_map_of_mem hmem) (List.mem_singleton.mpr hkey)
        rw [Option.some.injEq]
        constructor
        · rintro (hmem | hlast)
          · exact absurd hmem hnew
          · rw [← hlast]
        · rintro rfl
          exact Or.inr (by rw [hkey])
      · rw [get_eq_some_iff]
        constructor
        · rintro (hmem | hlast)
          · exact hmem
          · exact absurd (congrArg Prod.fst hlast) hkey
        · exact Or.inl
    rw [hsplit, get_set, hfind, ih hnodup]
    split_ifs <;> rfl

/-- Entries with distinct keys are the entries of their map. -/
theorem get_ofEntries (m : JsMap κ α) (key : κ) : (ofEntries m.entries).get key = m.get key := by
  rw [ofEntries, get_setAll, get_empty, Option.or_none]

end JsMap

end SmartAccountKit.Lib
