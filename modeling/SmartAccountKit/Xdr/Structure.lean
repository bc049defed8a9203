import SmartAccountKit.Xdr.Values

/-!
# Induction on Stellar values and invocation trees

The values directly inside a value, the nodes of an invocation tree, and the
induction principles over both.
-/

namespace SmartAccountKit
open Lib

/-- The keys and values of a map's entries. -/
def entryValues (es : List (ScVal × ScVal)) : List ScVal :=
  es.flatMap fun e => [e.1, e.2]

/-- The values directly inside a value. -/
def ScVal.children : ScVal → List ScVal
  | vec (some items) => items
  | map (some entries) => entryValues entries
  | contractInstance _ (some storage) => entryValues storage
  | _ => []

theorem mem_entryValues {es : List (ScVal × ScVal)} {v : ScVal} :
    v ∈ entryValues es ↔ ∃ e ∈ es, v = e.1 ∨ v = e.2 := by
  simp [entryValues]

theorem sizeOf_lt_of_mem_entryValues {es : List (ScVal × ScVal)} {v : ScVal}
    (h : v ∈ entryValues es) : sizeOf v < sizeOf es := by
  obtain ⟨⟨k, w⟩, he, hv⟩ := mem_entryValues.mp h
  have hlt := List.sizeOf_lt_of_mem he
  rw [Prod.mk.sizeOf_spec] at hlt
  rcases hv with hv | hv <;> subst hv <;> omega

theorem ScVal.sizeOf_lt_of_mem_children {v c : ScVal} (h : c ∈ v.children) :
    sizeOf c < sizeOf v := by
  unfold ScVal.children at h
  split at h
  · have := List.sizeOf_lt_of_mem h
    simp only [ScVal.vec.sizeOf_spec, Option.some.sizeOf_spec]
    omega
  · have := sizeOf_lt_of_mem_entryValues h
    simp only [ScVal.map.sizeOf_spec, Option.some.sizeOf_spec]
    omega
  · have := sizeOf_lt_of_mem_entryValues h
    simp only [ScVal.contractInstance.sizeOf_spec, Option.some.sizeOf_spec]
    omega
  · simp at h

/-- Induction on a value from the values directly inside it. -/
theorem ScVal.childInduction {motive : ScVal → Prop}
    (step : ∀ v, (∀ c ∈ v.children, motive c) → motive v) (v : ScVal) : motive v :=
  step v fun c hc =>
    have := ScVal.sizeOf_lt_of_mem_children hc
    ScVal.childInduction step c
termination_by sizeOf v

/-! ## Invocation trees -/

namespace SorobanAuthorizedInvocation

theorem sizeOf_lt_of_mem_subInvocations {i c : SorobanAuthorizedInvocation}
    (h : c ∈ i.subInvocations) : sizeOf c < sizeOf i := by
  cases i with
  | node function subs =>
    have := List.sizeOf_lt_of_mem (show c ∈ subs from h)
    simp only [node.sizeOf_spec]
    omega

/-- Induction on an invocation tree from the trees directly below its root. -/
theorem subInduction {motive : SorobanAuthorizedInvocation → Prop}
    (step : ∀ i, (∀ c ∈ i.subInvocations, motive c) → motive i)
    (i : SorobanAuthorizedInvocation) : motive i :=
  step i fun c hc =>
    have := sizeOf_lt_of_mem_subInvocations hc
    subInduction step c
termination_by sizeOf i

mutual

/-- The nodes of an invocation tree, each before the trees below it. -/
def nodes : SorobanAuthorizedInvocation → List SorobanAuthorizedInvocation
  | .node function subs => .node function subs :: nodesOfAll subs

/-- The nodes of a list of trees. -/
def nodesOfAll : List SorobanAuthorizedInvocation → List SorobanAuthorizedInvocation
  | [] => []
  | i :: is => i.nodes ++ nodesOfAll is

end

end SorobanAuthorizedInvocation

end SmartAccountKit
