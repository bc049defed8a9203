import SmartAccountKit.Lib.Program

/-!
# Carrying out requests

The requests of one interface are carried out by programs over another one. A
run of the whole is a run of the program in which every exchange is a run of
what carries it out.
-/

namespace SmartAccountKit.Lib

/-- How the requests of one interface are carried out over another one. It cannot fail: what goes
wrong with a request is one of its replies. -/
abbrev Handler (I J : Interface) := (r : I.Request) → Program J Empty (I.Reply r)

/-- The requests of two interfaces. -/
abbrev Interface.sum (I J : Interface) : Interface where
  Request := I.Request ⊕ J.Request
  Reply := Sum.elim I.Reply J.Reply

variable {I J : Interface} {ε α β : Type}

namespace Program

/-- A program that cannot fail, among programs that can. -/
def safe (p : Program J Empty α) : Program J ε α := mapError Empty.elim p

/-- A program whose requests are carried out by a handler. -/
def through (h : Handler I J) : Program I ε α → Program J ε α
  | done x => done x
  | ask r next => bind (safe (h r)) fun reply => through h (next reply)

theorem run_safe {p : Program J Empty α} {u : History J} {x : Except ε α} :
    Run (safe p) u x ↔ ∃ a, x = .ok a ∧ Run p u (.ok a) := by
  rw [safe, run_mapError]
  constructor
  · rintro ⟨y, hrun, rfl⟩
    cases y with
    | error e => exact e.elim
    | ok a => exact ⟨a, rfl, hrun⟩
  · rintro ⟨a, rfl, hrun⟩
    exact ⟨.ok a, hrun, rfl⟩

end Program

namespace Handler
open Program

variable {h : Handler I J} {t : History I} {u : History J}

/-- The exchanges `t` are carried out, one after the other, by the exchanges `u`. -/
inductive Carries (h : Handler I J) : History I → History J → Prop where
  | nil : Carries h [] []
  | cons (e : Exchange I) (v : History J) (t : History I) (u : History J)
      (hrun : Run (h e.request) v (.ok e.reply)) (hrest : Carries h t u) :
      Carries h (e :: t) (v ++ u)

/-- A run of the whole carries out a run of the program. -/
theorem run_through {p : Program I ε α} {x : Except ε α} :
    Run (through h p) u x ↔ ∃ t, Run p t x ∧ Carries h t u := by
  induction p generalizing u with
  | done y =>
    rw [through, run_done]
    constructor
    · rintro ⟨rfl, rfl⟩
      exact ⟨[], Run.done _, Carries.nil⟩
    · rintro ⟨t, hrun, hcarries⟩
      obtain ⟨rfl, rfl⟩ := run_done.mp hrun
      cases hcarries
      exact ⟨rfl, rfl⟩
  | ask r next ih =>
    rw [through]
    constructor
    · intro hrun
      rcases run_bind.mp hrun with ⟨err, hfail, -⟩ | ⟨reply, v, u', rfl, hfirst, hrest⟩
      · -- what carries out a request has no error to end with
        obtain ⟨a, ha, -⟩ := run_safe.mp hfail
        exact nomatch ha
      · obtain ⟨a, ha, hrequest⟩ := run_safe.mp hfirst
        rw [← Except.ok.inj ha] at hrequest
        obtain ⟨t, hnext, hcarries⟩ := (ih reply).mp hrest
        exact ⟨⟨r, reply⟩ :: t, Run.ask r next reply t x hnext,
          Carries.cons ⟨r, reply⟩ v t u' hrequest hcarries⟩
    · rintro ⟨t, hrun, hcarries⟩
      obtain ⟨reply, t', rfl, hnext⟩ := run_ask.mp hrun
      cases hcarries with
      | cons _ v _ u' hrequest hrest =>
        have hfirst : Run (safe (h r) : Program J ε _) v (.ok reply) :=
          run_safe.mpr ⟨reply, rfl, hrequest⟩
        have hsecond : Run (through h (next reply)) u' x := (ih reply).mpr ⟨t', hnext, hrest⟩
        exact run_bind.mpr (Or.inr ⟨reply, v, u', rfl, hfirst, hsecond⟩)

/-- Every exchange of the whole belongs to one that it carries out. -/
theorem Carries.of_mem (hcarries : Carries h t u) {e' : Exchange J} (he' : e' ∈ u) :
    ∃ e ∈ t, ∃ v, Run (h e.request) v (.ok e.reply) ∧ e' ∈ v ∧ v ⊆ u := by
  induction hcarries with
  | nil => exact absurd he' List.not_mem_nil
  | cons e v t u hrun hrest ih =>
    rcases List.mem_append.mp he' with he' | he'
    · exact ⟨e, List.mem_cons_self, v, hrun, he', List.subset_append_left v u⟩
    · obtain ⟨e₁, he₁, w, hw, hmem, hsubset⟩ := ih he'
      exact ⟨e₁, List.mem_cons_of_mem e he₁, w, hw, hmem,
        List.Subset.trans hsubset (List.subset_append_right v u)⟩

/-- Every exchange of the program is carried out. -/
theorem Carries.exists_run (hcarries : Carries h t u) {e : Exchange I} (he : e ∈ t) :
    ∃ v, Run (h e.request) v (.ok e.reply) ∧ v ⊆ u := by
  induction hcarries with
  | nil => exact absurd he List.not_mem_nil
  | cons e₁ v t u hrun hrest ih =>
    rcases List.mem_cons.mp he with rfl | he
    · exact ⟨v, hrun, List.subset_append_left v u⟩
    · obtain ⟨w, hw, hsubset⟩ := ih he
      exact ⟨w, hw, List.Subset.trans hsubset (List.subset_append_right v u)⟩

/-- What carries out the requests of a program asks for what it may, under what is assumed of
the exchanges. -/
theorem asksUnder_through {C : Exchange I → Prop} {P : I.Request → Prop} {C' : Exchange J → Prop}
    {P' : J.Request → Prop} {p : Program I ε α} (hp : AsksUnder C P p)
    (hh : ∀ e v, Run (h e.request) v (.ok e.reply) → (∀ e' ∈ v, C' e') →
      C e ∧ (P e.request → ∀ e' ∈ v, P' e'.request)) :
    AsksUnder C' P' (through h p) := by
  intro u x hrun hassumed e' he'
  obtain ⟨t, hprogram, hcarries⟩ := run_through.mp hrun
  have hasked : ∀ e ∈ t, P e.request := by
    refine hp t x hprogram fun e he => ?_
    obtain ⟨v, hv, hsubset⟩ := hcarries.exists_run he
    exact (hh e v hv fun e' he' => hassumed e' (hsubset he')).1
  obtain ⟨e, he, v, hv, hmem, hsubset⟩ := hcarries.of_mem he'
  exact (hh e v hv fun e' he' => hassumed e' (hsubset he')).2 (hasked e he) e' hmem

/-- What carries out a request may ask for what that request stands for. -/
theorem onlyAsks_through {P : I.Request → Prop} {P' : J.Request → Prop} {p : Program I ε α}
    (hp : OnlyAsks P p) (hh : ∀ r, P r → OnlyAsks P' (h r)) : OnlyAsks P' (through h p) := by
  intro u x hrun e' he'
  obtain ⟨t, hprogram, hcarries⟩ := run_through.mp hrun
  obtain ⟨e, he, v, hv, hmem, -⟩ := hcarries.of_mem he'
  have hasked : P e.request := (hp t x hprogram e he).1
  exact ⟨(hh e.request hasked v _ hv e' hmem).1, fun _ => trivial⟩

end Handler

end SmartAccountKit.Lib
