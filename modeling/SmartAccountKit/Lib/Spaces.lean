import Mathlib.Data.List.DropRight
import SmartAccountKit.Lib.Search

/-!
# White space around a text

What `text.trim()` leaves of a text with more white space around it, of a text that
has been trimmed, and of a text whose first and last characters are no white space.
-/

namespace SmartAccountKit.Lib

theorem toList_trim (text : String) :
    (trim text).toList = (text.toList.dropWhile isSpace).rdropWhile isSpace :=
  String.toList_ofList

theorem length_trim_le (text : String) : (trim text).toList.length ≤ text.toList.length := by
  have hprefix := (List.rdropWhile_prefix isSpace (l := text.toList.dropWhile isSpace)).length_le
  have hsuffix := (List.dropWhile_suffix isSpace (l := text.toList)).length_le
  rw [toList_trim]
  omega

/-- White space after a list is dropped first. -/
theorem rdropWhile_append_spaces (cs : List Char) {after : List Char}
    (h : ∀ c ∈ after, isSpace c = true) :
    (cs ++ after).rdropWhile isSpace = cs.rdropWhile isSpace := by
  rw [List.rdropWhile, List.reverse_append, List.dropWhile_append_of_pos]
  · rfl
  · intro c hc
    exact h c (List.mem_reverse.mp hc)

theorem trim_surrounded {text : String} {before inner after : List Char}
    (htext : text.toList = before ++ (inner ++ after)) (hbefore : ∀ c ∈ before, isSpace c = true)
    (hafter : ∀ c ∈ after, isSpace c = true) : trim text = trim (String.ofList inner) := by
  rw [← String.toList_inj, toList_trim, toList_trim, htext, String.toList_ofList,
    List.dropWhile_append_of_pos hbefore, List.dropWhile_append]
  split_ifs with hempty
  · -- the text is white space only
    have hinner : inner.dropWhile isSpace = [] := List.isEmpty_iff.mp hempty
    have hall : after.dropWhile isSpace = [] := List.dropWhile_eq_nil_iff.mpr hafter
    rw [hinner, hall]
  · exact rdropWhile_append_spaces _ hafter

/-- A text that neither starts nor ends with white space is not changed. -/
theorem trim_eq_self_of_ends {text : String}
    (hfirst : ∀ c ∈ text.toList.head?, isSpace c = false)
    (hlast : ∀ c ∈ text.toList.getLast?, isSpace c = false) : trim text = text := by
  have hleft : text.toList.dropWhile isSpace = text.toList := by
    apply List.dropWhile_eq_self_iff.mpr
    intro hpos hspace
    have hhead := hfirst (text.toList[0])
      (by rw [List.head?_eq_getElem?, List.getElem?_eq_getElem hpos]; rfl)
    rw [hhead] at hspace
    exact absurd hspace Bool.false_ne_true
  have hright : text.toList.rdropWhile isSpace = text.toList := by
    apply List.rdropWhile_eq_self_iff.mpr
    intro hne hspace
    have hend := hlast _ (List.getLast?_eq_some_getLast hne)
    rw [hend] at hspace
    exact absurd hspace Bool.false_ne_true
  rw [← String.toList_inj, toList_trim, hleft, hright]

theorem trim_trim (text : String) : trim (trim text) = trim text := by
  set cs := text.toList.dropWhile isSpace with hcs
  have hlist : (trim text).toList = cs.rdropWhile isSpace := toList_trim text
  have hidempotent : cs.dropWhile isSpace = cs := List.dropWhile_idempotent isSpace text.toList
  apply trim_eq_self_of_ends
  · -- what is left starts as the text without its leading white space does
    intro c hc
    rw [hlist] at hc
    obtain ⟨rest, hrest⟩ := List.rdropWhile_prefix isSpace (l := cs)
    have hhead : cs.head? = some c := by
      rw [← hrest, List.head?_append, hc]
      rfl
    obtain ⟨tail, htail⟩ := List.head?_eq_some_iff.mp hhead
    rw [htail, List.dropWhile_cons] at hidempotent
    cases hspace : isSpace c with
    | false => rfl
    | true =>
      rw [hspace, if_pos rfl] at hidempotent
      have hlength := (List.dropWhile_suffix isSpace (l := tail)).length_le
      rw [hidempotent, List.length_cons] at hlength
      omega
  · intro c hc
    rw [hlist] at hc
    have hne : cs.rdropWhile isSpace ≠ [] := by
      intro hnil
      rw [hnil] at hc
      exact absurd hc (by simp)
    have hlast := List.rdropWhile_last_not isSpace cs hne
    rw [List.getLast?_eq_some_getLast hne] at hc
    rw [Option.some.inj hc] at hlast
    exact Bool.eq_false_iff.mpr hlast

end SmartAccountKit.Lib
