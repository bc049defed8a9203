import SmartAccountKit.Events
import Mathlib.Algebra.Order.BigOperators.Group.Finset

/-!
# What an emit guarantees

An emit returns and calls each listener once exactly if the error handler does not
throw, listeners are not added without end and none is registered again after its
turn and still there when the emit comes to it.
-/

namespace SmartAccountKit
open Lib

/-! ## What a call does to the sets -/

namespace SmartAccountEventEmitter

variable {e : SmartAccountEventEmitter}

theorem updateSet_extends (e : SmartAccountEventEmitter) {ref : ℕ}
    {f : LiveSet Listener → LiveSet Listener} (hf : ∀ s : LiveSet Listener, s.Extends (f s)) (r : ℕ) :
    (e.set r).Extends ((e.updateSet ref f).set r) := by
  unfold set updateSet
  rw [List.getElem?_modify]
  cases hset : e.sets[r]? with
  | none => exact LiveSet.Extends.refl _
  | some s =>
    by_cases hr : ref = r
    · simpa [hr] using hf s
    · simpa [hr] using LiveSet.Extends.refl s

theorem ensureSet_extends (e : SmartAccountEventEmitter) (event : SmartAccountEvent) (r : ℕ) :
    (e.set r).Extends ((e.ensureSet event).1.set r) := by
  unfold ensureSet
  split
  · exact LiveSet.Extends.refl _
  · unfold set
    by_cases hr : r < e.sets.length
    · rw [List.getElem?_append_left hr]
      exact LiveSet.Extends.refl _
    · rw [List.getElem?_eq_none_iff.mpr (not_lt.mp hr)]
      exact LiveSet.empty_extends _

theorem perform_extends (action : ListenerAction) (r : ℕ) :
    (e.set r).Extends ((action.perform e).set r) := by
  cases action with
  | on event listener =>
    exact (e.ensureSet_extends event r).trans
      (updateSet_extends _ (fun s => s.extends_add _) r)
  | once event listener =>
    exact (e.ensureSet_extends event r).trans
      (updateSet_extends { (e.ensureSet event).1 with closures := _ }
        (fun s => s.extends_add _) r)
  | off event listener =>
    rw [ListenerAction.perform, off]
    split
    · exact updateSet_extends e (fun s => s.extends_delete _) r
    · exact LiveSet.Extends.refl _
  | unsubscribe ref listener => exact updateSet_extends e (fun s => s.extends_delete _) r

theorem performAll_extends (actions : List ListenerAction) (r : ℕ) :
    (e.set r).Extends ((e.performAll actions).set r) := by
  induction actions generalizing e with
  | nil => exact LiveSet.Extends.refl _
  | cons action actions ih =>
    have hfirst : (e.set r).Extends ((action.perform e).set r) := perform_extends action r
    exact hfirst.trans ih

theorem callListener_extends (listener : Listener) (turn : ListenerTurn) (r : ℕ) :
    (e.set r).Extends ((e.callListener listener turn).set r) := by
  cases listener with
  | plain function => exact performAll_extends turn.actions r
  | onceWrapper closure ref function =>
    have hself : (e.set r).Extends ((e.unsubscribe ref (.onceWrapper closure ref function)).set r) :=
      updateSet_extends e (fun s => s.extends_delete _) r
    exact hself.trans (performAll_extends turn.actions r)

theorem perform_errorHandler (action : ListenerAction) :
    (action.perform e).errorHandler = e.errorHandler := by
  cases action with
  | on event listener =>
    show (e.ensureSet event).1.errorHandler = _
    unfold ensureSet
    split <;> rfl
  | once event listener =>
    show (e.ensureSet event).1.errorHandler = _
    unfold ensureSet
    split <;> rfl
  | off event listener =>
    rw [ListenerAction.perform, off]
    split <;> rfl
  | unsubscribe ref listener => rfl

theorem performAll_errorHandler (actions : List ListenerAction) :
    (e.performAll actions).errorHandler = e.errorHandler := by
  induction actions generalizing e with
  | nil => rfl
  | cons action actions ih => exact ih.trans (perform_errorHandler action)

theorem callListener_errorHandler (listener : Listener) (turn : ListenerTurn) :
    (e.callListener listener turn).errorHandler = e.errorHandler := by
  cases listener with
  | plain function => exact performAll_errorHandler turn.actions
  | onceWrapper closure ref function => exact performAll_errorHandler turn.actions

end SmartAccountEventEmitter

/-! ## Turns -/

section emit

variable {e : SmartAccountEventEmitter} {event : SmartAccountEvent} {turns : ℕ → ListenerTurn}

variable (e event turns) in
/-- What one turn of an emit does: it calls the next listener, it returns, or the emit is over. -/
theorem emit_succ (k : ℕ) :
    (∃ listener i, emitTurn e event turns k = some (listener, i) ∧
      (emit e event turns k).status = .running ∧
      (emit e event turns (k + 1)).index = i + 1 ∧
      (emit e event turns (k + 1)).calls = (emit e event turns k).calls ++ [listener] ∧
      (emit e event turns (k + 1)).emitter.errorHandler =
        (emit e event turns k).emitter.errorHandler ∧
      (emit e event turns (k + 1)).status =
        if (turns k).throws && (emit e event turns k).emitter.errorHandler &&
          (turns k).handlerThrows then .threw else .running) ∨
    (emitTurn e event turns k = none ∧
      emit e event turns (k + 1) = { emit e event turns k with
        status := if (emit e event turns k).status = .running then .returned
          else (emit e event turns k).status }) := by
  rw [emit, emitStep, emitTurn]
  cases hstatus : (emit e event turns k).status with
  | running =>
    dsimp only
    rw [if_pos rfl]
    cases hnext : ((emit e event turns k).emitter.set ((e.listeners event).getD 0)).next
        (emit e event turns k).index with
    | none => exact Or.inr ⟨rfl, by rw [if_pos rfl]⟩
    | some call =>
      obtain ⟨listener, i⟩ := call
      have hhandler := SmartAccountEventEmitter.callListener_errorHandler
        (e := (emit e event turns k).emitter) listener (turns k)
      dsimp only
      refine Or.inl ⟨listener, i, rfl, rfl, ?_⟩
      rw [hhandler]
      cases hthrows : ((turns k).throws && (emit e event turns k).emitter.errorHandler) with
      | true =>
        rw [if_pos rfl, Bool.true_and]
        refine ⟨rfl, rfl, ?_, rfl⟩
        exact (SmartAccountEventEmitter.performAll_errorHandler _).trans hhandler
      | false =>
        rw [if_neg Bool.false_ne_true, Bool.false_and, if_neg Bool.false_ne_true]
        exact ⟨rfl, rfl, hhandler, rfl⟩
  | returned =>
    refine Or.inr ⟨rfl, ?_⟩
    show emit e event turns k = _
    rw [if_neg (show ¬EmitStatus.returned = .running by decide), ← hstatus]
  | threw =>
    refine Or.inr ⟨rfl, ?_⟩
    show emit e event turns k = _
    rw [if_neg (show ¬EmitStatus.threw = .running by decide), ← hstatus]

theorem emit_extends (k r : ℕ) :
    ((emit e event turns k).emitter.set r).Extends ((emit e event turns (k + 1)).emitter.set r) := by
  rw [emit, emitStep]
  split
  · split
    · exact LiveSet.Extends.refl _
    · rename_i listener i _
      have hcall := SmartAccountEventEmitter.callListener_extends
        (e := (emit e event turns k).emitter) listener (turns k) r
      dsimp only
      split_ifs
      · exact hcall.trans (SmartAccountEventEmitter.performAll_extends _ r)
      · exact hcall.trans (SmartAccountEventEmitter.performAll_extends _ r)
      · exact hcall
  · exact LiveSet.Extends.refl _

theorem emit_errorHandler (k : ℕ) :
    (emit e event turns k).emitter.errorHandler = e.errorHandler := by
  induction k with
  | zero => rfl
  | succ k ih =>
    rcases emit_succ e event turns k with
      ⟨_, _, -, -, -, -, hhandler, -⟩ | ⟨-, hsame⟩
    · exact hhandler.trans ih
    · rw [hsame]
      exact ih

theorem emitTurn_eq_some {k : ℕ} {listener : Listener} {i : ℕ}
    (h : emitTurn e event turns k = some (listener, i)) :
    (emit e event turns k).index ≤ i ∧ (emit e event turns (k + 1)).index = i + 1 ∧
      (emitEntries e event turns k)[i]? = some (some listener) ∧
      i < (emitEntries e event turns k).length ∧
      ∀ j, (emit e event turns k).index ≤ j → j < i →
        (emitEntries e event turns k)[j]? = some none := by
  have hindex : (emit e event turns (k + 1)).index = i + 1 := by
    rcases emit_succ e event turns k with
      ⟨_, _, hturn, -, hindex, -⟩ | ⟨hnone, -⟩
    · rw [h] at hturn
      rw [hindex, (Prod.mk.inj (Option.some.inj hturn)).2]
    · rw [h] at hnone
      exact absurd hnone (Option.some_ne_none _)
  unfold emitTurn at h
  split_ifs at h
  have hnext := LiveSet.next_eq_some.mp h
  exact ⟨hnext.1, hindex, hnext.2.1, LiveSet.next_lt_length h, hnext.2.2⟩

/-- An emit that is over stays as it is. -/
theorem emit_of_not_running {k j : ℕ} (hstatus : (emit e event turns k).status ≠ .running)
    (hle : k ≤ j) : emit e event turns j = emit e event turns k := by
  induction j, hle using Nat.le_induction with
  | base => rfl
  | succ j _ ih =>
    rcases emit_succ e event turns j with
      ⟨_, _, -, hrunning, -⟩ | ⟨-, hsame⟩
    · rw [ih] at hrunning
      exact absurd hrunning hstatus
    · rw [hsame, ih, if_neg hstatus]

theorem lt_of_emitTurn {k j : ℕ} (hstatus : (emit e event turns k).status ≠ .running)
    (hturn : (emitTurn e event turns j).isSome = true) : j < k := by
  by_contra hle
  have hsame := emit_of_not_running hstatus (not_lt.mp hle)
  rw [emitTurn, hsame, if_neg hstatus] at hturn
  exact absurd hturn Bool.false_ne_true

variable (e event turns) in
theorem emit_index_mono {j k : ℕ} (hle : j ≤ k) :
    (emit e event turns j).index ≤ (emit e event turns k).index := by
  induction k, hle using Nat.le_induction with
  | base => exact le_rfl
  | succ k _ ih =>
    rcases emit_succ e event turns k with
      ⟨listener, i, hturn, -, hindex, -⟩ | ⟨-, hsame⟩
    · have hstart := (emitTurn_eq_some hturn).1
      omega
    · rw [hsame]
      exact ih

/-- Later turns come to later positions. -/
theorem emitTurn_position_lt {j k i i' : ℕ} {listener listener' : Listener} (hlt : j < k)
    (hj : emitTurn e event turns j = some (listener, i))
    (hk : emitTurn e event turns k = some (listener', i')) : i < i' := by
  have hafter := (emitTurn_eq_some hj).2.1
  have hmono := emit_index_mono e event turns (show j + 1 ≤ k from hlt)
  have hbefore := (emitTurn_eq_some hk).1
  omega

variable (e event turns) in
theorem emitEntries_extends (k : ℕ) :
    (e.set ((e.listeners event).getD 0)).Extends
      ((emit e event turns k).emitter.set ((e.listeners event).getD 0)) := by
  induction k with
  | zero => exact LiveSet.Extends.refl _
  | succ k ih => exact ih.trans (emit_extends k _)

/-! ## Every registered listener has its turn -/

/-- A listener that is not removed stands at its entry until the emit comes to it. -/
theorem emitEntries_of_registered {p k : ℕ} {listener : Listener}
    (hregistered : RegisteredAt e event p listener)
    (hkept : ¬RemovedBeforeTurn e event turns p) (hindex : (emit e event turns k).index ≤ p) :
    (emitEntries e event turns k)[p]? = some (some listener) := by
  rcases (emitEntries_extends e event turns k).getElem? hregistered.2 with hsame | hgone
  · exact hsame
  · exact absurd ⟨k, hindex, hgone⟩ hkept

/-- As long as it has not come to a listener that is not removed, the emit is before it. -/
theorem emit_index_le_or_turn {p : ℕ} {listener : Listener}
    (hregistered : RegisteredAt e event p listener)
    (hkept : ¬RemovedBeforeTurn e event turns p) (k : ℕ) :
    (emit e event turns k).index ≤ p ∨ ∃ j < k, emitTurn e event turns j = some (listener, p) := by
  induction k with
  | zero => exact Or.inl (Nat.zero_le p)
  | succ k ih =>
    rcases ih with hindex | ⟨j, hj, hturn⟩
    · have hentry := emitEntries_of_registered hregistered hkept hindex
      rcases emit_succ e event turns k with
        ⟨listener', i, hturn, -, hnext, -⟩ | ⟨-, hsame⟩
      · obtain ⟨-, -, hcalled, -, hskipped⟩ := emitTurn_eq_some hturn
        -- the emit does not skip a full entry
        have hle : i ≤ p := by
          by_contra hlt
          have hempty := hskipped p hindex (by omega)
          rw [hentry] at hempty
          exact absurd (Option.some.inj hempty) (Option.some_ne_none _)
        by_cases hp : i = p
        · rw [hp, hentry] at hcalled
          obtain rfl := Option.some.inj (Option.some.inj hcalled)
          exact Or.inr ⟨k, Nat.lt_succ_self k, hp ▸ hturn⟩
        · exact Or.inl (by omega)
      · rw [hsame]
        exact Or.inl hindex
    · exact Or.inr ⟨j, by omega, hturn⟩

/-- An emit that has returned has nothing left to come to. -/
theorem next_of_returned {k : ℕ} (hsome : (e.listeners event).isSome = true)
    (hreturned : (emit e event turns k).status = .returned) :
    ((emit e event turns k).emitter.set ((e.listeners event).getD 0)).next
      (emit e event turns k).index = none := by
  induction k with
  | zero =>
    have hrunning : (emit e event turns 0).status = .running := if_pos hsome
    rw [hrunning] at hreturned
    exact absurd hreturned (by decide)
  | succ k ih =>
    rcases emit_succ e event turns k with
      ⟨_, _, -, -, -, -, -, hstatus⟩ | ⟨hnone, hsame⟩
    · rw [hreturned] at hstatus
      split_ifs at hstatus
    · rw [hsame] at hreturned ⊢
      by_cases hrunning : (emit e event turns k).status = .running
      · rw [emitTurn, if_pos hrunning] at hnone
        exact hnone
      · dsimp only at hreturned
        rw [if_neg hrunning] at hreturned
        exact ih hreturned

theorem exists_turn_of_registered {p k : ℕ} {listener : Listener}
    (hregistered : RegisteredAt e event p listener)
    (hkept : ¬RemovedBeforeTurn e event turns p)
    (hreturned : (emit e event turns k).status = .returned) :
    ∃ j < k, emitTurn e event turns j = some (listener, p) := by
  rcases emit_index_le_or_turn hregistered hkept k with hindex | hturn
  · have hentry := emitEntries_of_registered hregistered hkept hindex
    have hnone := LiveSet.next_eq_none.mp (next_of_returned hregistered.1 hreturned) p listener
      hindex
    exact absurd hentry hnone
  · exact hturn

/-! ## The number of calls -/

/-- The listener of a turn. -/
def turnListener (e : SmartAccountEventEmitter) (event : SmartAccountEvent)
    (turns : ℕ → ListenerTurn) (k : ℕ) : Option Listener :=
  (emitTurn e event turns k).map Prod.fst

theorem count_calls (listener : Listener) (k : ℕ) :
    (emit e event turns k).calls.count listener =
      Nat.count (fun j => turnListener e event turns j = some listener) k := by
  induction k with
  | zero => rfl
  | succ k ih =>
    rw [Nat.count_succ, ← ih, turnListener]
    rcases emit_succ e event turns k with
      ⟨listener', i, hturn, -, -, hcalls, -⟩ | ⟨hnone, hsame⟩
    · rw [hcalls, hturn, Option.map_some, List.count_append, List.count_singleton]
      by_cases hlistener : listener' = listener
      · rw [hlistener, if_pos rfl, if_pos (beq_self_eq_true listener)]
      · rw [if_neg (by simpa using hlistener), if_neg (by simpa using hlistener)]
    · rw [hsame, hnone, Option.map_none, if_neg (Option.some_ne_none _).symm, Nat.add_zero]

/-- A listener is called once if and only if one turn calls it. -/
theorem count_calls_eq_one_iff (listener : Listener) (k : ℕ) :
    (emit e event turns k).calls.count listener = 1 ↔
      ∃ j < k, turnListener e event turns j = some listener ∧
        ∀ j' < k, turnListener e event turns j' = some listener → j' = j := by
  rw [count_calls, Nat.count_eq_card_filter_range, Finset.card_eq_one]
  constructor
  · rintro ⟨j, hj⟩
    have hmem : ∀ j', j' < k ∧ turnListener e event turns j' = some listener ↔ j' = j := by
      intro j'
      have hfilter := Finset.ext_iff.mp hj j'
      rwa [Finset.mem_filter, Finset.mem_range, Finset.mem_singleton] at hfilter
    have hself := (hmem j).mpr rfl
    exact ⟨j, hself.1, hself.2, fun j' hlt hturn => (hmem j').mp ⟨hlt, hturn⟩⟩
  · rintro ⟨j, hlt, hturn, honly⟩
    refine ⟨j, ?_⟩
    ext j'
    rw [Finset.mem_filter, Finset.mem_range, Finset.mem_singleton]
    constructor
    · rintro ⟨hlt', hturn'⟩
      exact honly j' hlt' hturn'
    · rintro rfl
      exact ⟨hlt, hturn⟩

/-! ## Termination -/

theorem status_of_handlerNeverThrows (hhandler : HandlerNeverThrows e event turns) (k : ℕ) :
    (emit e event turns k).status ≠ .threw := by
  induction k with
  | zero =>
    show (if (e.listeners event).isSome then EmitStatus.running else .returned) ≠ .threw
    split_ifs <;> decide
  | succ k ih =>
    rcases emit_succ e event turns k with
      ⟨_, _, hturn, -, -, -, -, hstatus⟩ | ⟨-, hsame⟩
    · have hquiet := hhandler k (by rw [hturn]; rfl)
      rw [hstatus, emit_errorHandler]
      split_ifs with hall
      · simp only [Bool.and_eq_true] at hall
        rw [hquiet hall.1.1 hall.1.2] at hall
        exact absurd hall.2 Bool.false_ne_true
      · decide
    · rw [hsame]
      dsimp only
      split_ifs
      · decide
      · exact ih

/-- An emit returns if listeners are not added without end. -/
theorem exists_returned (hhandler : HandlerNeverThrows e event turns)
    (hadditions : AdditionsEnd e event turns) :
    ∃ k, (emit e event turns k).status = .returned := by
  by_contra hnever
  have hrunning : ∀ k, (emit e event turns k).status = .running := by
    intro k
    cases hstatus : (emit e event turns k).status with
    | running => rfl
    | returned => exact absurd ⟨k, hstatus⟩ hnever
    | threw => exact absurd hstatus (status_of_handlerNeverThrows hhandler k)
  have hturn : ∀ k, ∃ listener i, emitTurn e event turns k = some (listener, i) := by
    intro k
    rcases emit_succ e event turns k with
      ⟨listener, i, hturn, -⟩ | ⟨-, hsame⟩
    · exact ⟨listener, i, hturn⟩
    · have hreturned : (emit e event turns (k + 1)).status = .returned := by
        rw [hsame]
        exact if_pos (hrunning k)
      exact absurd ⟨k + 1, hreturned⟩ hnever
  -- every turn goes on, and the entries do not become more after some turn
  have hindex : ∀ k, k ≤ (emit e event turns k).index := by
    intro k
    induction k with
    | zero => exact Nat.zero_le _
    | succ k ih =>
      obtain ⟨listener, i, hk⟩ := hturn k
      have hstep := emitTurn_eq_some hk
      omega
  obtain ⟨n, hn⟩ := hadditions
  have hlength : ∀ m, (emitEntries e event turns (n + m)).length =
      (emitEntries e event turns n).length := by
    intro m
    induction m with
    | zero => rfl
    | succ m ih =>
      obtain ⟨listener, i, hk⟩ := hturn (n + m)
      have hsame := hn (n + m) (Nat.le_add_right n m) (by rw [hk]; rfl)
      exact hsame.trans ih
  obtain ⟨listener, i, hlast⟩ := hturn (n + (emitEntries e event turns n).length)
  have hstep := emitTurn_eq_some hlast
  have hbefore := hindex (n + (emitEntries e event turns n).length)
  have hentries := hlength (emitEntries e event turns n).length
  omega

/-! ## The guarantee -/

theorem EmitIsolates.handlerNeverThrows (h : EmitIsolates e event turns) :
    HandlerNeverThrows e event turns := by
  obtain ⟨k, hreturned, -⟩ := h
  intro j hturn hthrows herror
  by_contra hescapes
  have hlt : j < k := lt_of_emitTurn (by rw [hreturned]; decide) hturn
  rcases emit_succ e event turns j with
    ⟨_, _, -, -, -, -, -, hstatus⟩ | ⟨hnone, -⟩
  · rw [emit_errorHandler, hthrows, herror, eq_true_of_ne_false hescapes] at hstatus
    have hthrew : (emit e event turns (j + 1)).status = .threw := hstatus
    -- an emit that has thrown does not return any more
    have hstays := emit_of_not_running (j := k)
      (show (emit e event turns (j + 1)).status ≠ .running by rw [hthrew]; decide) hlt
    rw [hstays, hthrew] at hreturned
    exact absurd hreturned (by decide)
  · rw [hnone] at hturn
    exact absurd hturn Bool.false_ne_true

theorem EmitIsolates.additionsEnd (h : EmitIsolates e event turns) :
    AdditionsEnd e event turns := by
  obtain ⟨k, hreturned, -⟩ := h
  refine ⟨k, ?_⟩
  intro j hj hturn
  have hlt : j < k := lt_of_emitTurn (by rw [hreturned]; decide) hturn
  omega

theorem EmitIsolates.noneComesAgain (h : EmitIsolates e event turns) :
    NoneComesAgain e event turns := by
  obtain ⟨k, hreturned, hcalls⟩ := h
  intro j listener i p hturn hregistered hne
  by_contra hkept
  have hone := hcalls p listener hregistered hkept
  obtain ⟨j₀, -, -, honly⟩ := (count_calls_eq_one_iff listener k).mp hone
  -- the turn at its own entry and this one are the same turn
  obtain ⟨j₁, hj₁, hturn₁⟩ := exists_turn_of_registered hregistered hkept hreturned
  have hlt : j < k := lt_of_emitTurn (by rw [hreturned]; decide) (by rw [hturn]; rfl)
  have hfirst := honly j₁ hj₁ (by rw [turnListener, hturn₁]; rfl)
  have hsecond := honly j hlt (by rw [turnListener, hturn]; rfl)
  rw [hfirst, ← hsecond, hturn] at hturn₁
  exact hne (Prod.mk.inj (Option.some.inj hturn₁)).2.symm

/-- A listener that is not removed is called once by an emit that returns. -/
theorem count_calls_of_noneComesAgain (hagain : NoneComesAgain e event turns) {k p : ℕ}
    {listener : Listener} (hreturned : (emit e event turns k).status = .returned)
    (hregistered : RegisteredAt e event p listener)
    (hkept : ¬RemovedBeforeTurn e event turns p) :
    (emit e event turns k).calls.count listener = 1 := by
  obtain ⟨j, hj, hturn⟩ := exists_turn_of_registered hregistered hkept hreturned
  refine (count_calls_eq_one_iff listener k).mpr ⟨j, hj, by rw [turnListener, hturn]; rfl, ?_⟩
  intro j' _ hlistener
  obtain ⟨⟨listener', i⟩, hturn', rfl⟩ := Option.map_eq_some_iff.mp hlistener
  have hsame : p = i := by
    by_contra hne
    exact hkept (hagain j' listener' i p hturn' hregistered hne)
  -- one position has one turn
  rcases lt_trichotomy j' j with hlt | heq | hlt
  · have hposition := emitTurn_position_lt hlt hturn' hturn
    omega
  · exact heq
  · have hposition := emitTurn_position_lt hlt hturn hturn'
    omega

end emit

/-- An emit returns without throwing, after calling once each listener that was registered and not
removed before its turn, if and only if the error handler never throws, listeners are not added
without end, and none that had its turn is registered again and still there when the emit comes to
it. -/
theorem emitIsolates_iff (e : SmartAccountEventEmitter) (event : SmartAccountEvent)
    (turns : ℕ → ListenerTurn) :
    EmitIsolates e event turns ↔
      HandlerNeverThrows e event turns ∧ AdditionsEnd e event turns ∧
        NoneComesAgain e event turns := by
  constructor
  · intro h
    exact ⟨h.handlerNeverThrows, h.additionsEnd, h.noneComesAgain⟩
  · rintro ⟨hhandler, hadditions, hagain⟩
    obtain ⟨k, hreturned⟩ := exists_returned hhandler hadditions
    refine ⟨k, hreturned, ?_⟩
    intro p listener hregistered hkept
    exact count_calls_of_noneComesAgain hagain hreturned hregistered hkept

/-- An emitter with one listener of an event and an error handler. -/
def sampleEmitter : SmartAccountEventEmitter :=
  SmartAccountEventEmitter.on
    { sets := [], listeners := fun _ => none, closures := 0, errorHandler := true }
    .walletConnected 0

/-- When the listener throws and the error handler as well, the emit throws. -/
theorem emit_throws : ¬∀ e event turns, EmitIsolates e event turns := by
  intro h
  have hquiet := (h sampleEmitter .walletConnected fun _ =>
    { actions := [], throws := true, handlerActions := [], handlerThrows := true }).handlerNeverThrows
  exact absurd (hquiet 0 (by decide) rfl rfl) (by decide)

end SmartAccountKit
