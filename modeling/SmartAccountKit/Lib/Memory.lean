import SmartAccountKit.Lib.Program

/-!
# Programs over a memory

Some requests of an interface may be served by a memory: their replies follow
from its state, and they change it. A history threads the memory from one state
to another; the other requests are left to the environment. What every write of
a program keeps, every state on the way has.
-/

namespace SmartAccountKit.Lib

/-- A memory serves some requests of an interface from its state. -/
structure Memory (I : Interface) (σ : Type) where
  serve : (r : I.Request) → σ → Option (I.Reply r × σ)

namespace Memory

variable {I : Interface} {σ ε ε' α β τ : Type} (M : Memory I σ)

/-- The state after one exchange; an exchange the memory does not serve leaves it as it is. -/
inductive Step : σ → Exchange I → σ → Prop where
  | served {s s' : σ} {r : I.Request} {reply : I.Reply r} (h : M.serve r s = some (reply, s')) :
      Step s ⟨r, reply⟩ s'
  | other {s : σ} {r : I.Request} {reply : I.Reply r} (h : M.serve r s = none) :
      Step s ⟨r, reply⟩ s

/-- A history leads the memory from one state to another. -/
inductive Threads : σ → History I → σ → Prop where
  | nil (s : σ) : Threads s [] s
  | cons {s s' s'' : σ} {e : Exchange I} {t : History I} (hstep : M.Step s e s')
      (hrest : Threads s' t s'') : Threads s (e :: t) s''

variable {M} {s s' s'' : σ} {e : Exchange I} {t t₁ t₂ : History I}

@[simp] theorem threads_nil : M.Threads s [] s' ↔ s' = s := by
  constructor
  · intro h
    cases h
    rfl
  · intro h
    rw [h]
    exact Threads.nil s

theorem threads_cons : M.Threads s (e :: t) s'' ↔ ∃ s', M.Step s e s' ∧ M.Threads s' t s'' := by
  constructor
  · intro h
    cases h with
    | cons hstep hrest => exact ⟨_, hstep, hrest⟩
  · intro ⟨s', hstep, hrest⟩
    exact Threads.cons hstep hrest

theorem threads_append :
    M.Threads s (t₁ ++ t₂) s'' ↔ ∃ s', M.Threads s t₁ s' ∧ M.Threads s' t₂ s'' := by
  induction t₁ generalizing s with
  | nil => simp
  | cons e t₁ ih =>
    simp only [List.cons_append, threads_cons, ih]
    constructor
    · intro ⟨s₁, hstep, s', hfirst, hsecond⟩
      exact ⟨s', ⟨s₁, hstep, hfirst⟩, hsecond⟩
    · intro ⟨s', ⟨s₁, hstep, hfirst⟩, hsecond⟩
      exact ⟨s₁, hstep, s', hfirst, hsecond⟩

/-- Exchanges that the memory does not serve leave it as it is. -/
theorem threads_other (h : ∀ e ∈ t, M.serve e.request s = none) : M.Threads s t s := by
  induction t with
  | nil => exact Threads.nil s
  | cons e t ih =>
    rw [List.forall_mem_cons] at h
    exact Threads.cons (Step.other h.1) (ih h.2)

/-- The reply of a request that the memory serves. -/
theorem Step.served_inv {r : I.Request} {reply reply' : I.Reply r}
    (h : M.Step s ⟨r, reply⟩ s') (hserve : M.serve r s = some (reply', s'')) :
    reply = reply' ∧ s' = s'' := by
  cases h with
  | served h =>
    rw [hserve] at h
    have h := Option.some.inj h
    exact ⟨(congrArg Prod.fst h).symm, (congrArg Prod.snd h).symm⟩
  | other h =>
    rw [hserve] at h
    exact nomatch h

/-- An exchange that the memory does not serve leaves it as it is. -/
theorem Step.other_inv (h : M.Step s e s') (hserve : M.serve e.request s = none) : s' = s := by
  cases h with
  | served h =>
    rw [h] at hserve
    exact nomatch hserve
  | other h => rfl

theorem Step.functional (h : M.Step s e s') (h' : M.Step s e s'') : s' = s'' := by
  cases h with
  | served hserve => exact (h'.served_inv hserve).2.symm
  | other hserve => exact (h'.other_inv hserve).symm

/-- A history leads the memory to one state. -/
theorem threads_functional (M : Memory I σ) (h : M.Threads s t s') (h' : M.Threads s t s'') :
    s' = s'' := by
  induction h with
  | nil s => exact (threads_nil.mp h').symm
  | cons hstep hrest ih =>
    obtain ⟨s₁, hstep', hrest'⟩ := threads_cons.mp h'
    have hsame := hstep.functional hstep'
    subst hsame
    exact ih hrest'

/-! ## Invariants of the memory -/

/-- Requests that satisfy `H` keep a property of the state. -/
def Keeps (M : Memory I σ) (H : I.Request → Prop) (P : σ → Prop) : Prop :=
  ∀ r s reply s', H r → M.serve r s = some (reply, s') → P s → P s'

variable {H : I.Request → Prop} {P : σ → Prop} {C : Exchange I → Prop}

theorem Keeps.step (hkeeps : M.Keeps H P) (h : M.Step s e s') (he : H e.request) (hs : P s) :
    P s' := by
  cases h with
  | served h => exact hkeeps _ _ _ _ he h hs
  | other h => exact hs

/-- What every request of a history keeps holds at its end. -/
theorem Keeps.threads (hkeeps : M.Keeps H P) (h : M.Threads s t s')
    (ht : ∀ e ∈ t, H e.request) (hs : P s) : P s' := by
  induction h with
  | nil s => exact hs
  | cons hstep hrest ih =>
    rw [List.forall_mem_cons] at ht
    exact ih ht.2 (hkeeps.step hstep ht.1 hs)

/-- From a state with `P`, in every run of a program whose exchanges satisfy `C`, every request
satisfies `H`. -/
def Guarded (M : Memory I σ) (C : Exchange I → Prop) (P : σ → Prop) (H : I.Request → Prop)
    (p : Program I ε α) : Prop :=
  ∀ s t x s', Program.Run p t x → M.Threads s t s' → (∀ e ∈ t, C e) → P s → ∀ e ∈ t, H e.request

/-- A program whose requests all satisfy `H`, whatever the memory holds. -/
theorem Guarded.of_exchanges {R : Exchange I → Prop} {p : Program I ε α}
    (hp : Program.Exchanges H R p) : M.Guarded C P H p :=
  fun _ t x _ hrun _ _ _ e he => (hp t x hrun e he).1

/-- A request whose reply decides how the program goes on. -/
theorem guarded_ask (hkeeps : M.Keeps H P) {r : I.Request} {next : I.Reply r → Program I ε α}
    (hr : H r)
    (hnext : ∀ reply s s', P s → M.Step s ⟨r, reply⟩ s' → C ⟨r, reply⟩ →
      M.Guarded C P H (next reply)) : M.Guarded C P H (Program.ask r next) := by
  intro s t y s' hrun hthreads ht hs e he
  obtain ⟨reply, t', rfl, hrest⟩ := Program.run_ask.mp hrun
  obtain ⟨s₁, hstep, hrestThreads⟩ := threads_cons.mp hthreads
  rw [List.forall_mem_cons] at ht
  rcases List.mem_cons.mp he with rfl | he
  · exact hr
  · exact hnext reply s s₁ hs hstep ht.1 s₁ t' y s' hrest hrestThreads ht.2
      (hkeeps.step hstep hr hs) e he

theorem guarded_bind (hkeeps : M.Keeps H P) {p : Program I ε α} {f : α → Program I ε β}
    (hp : M.Guarded C P H p)
    (hf : ∀ a t s s', Program.Run p t (.ok a) → (∀ e ∈ t, C e) → P s → M.Threads s t s' →
      M.Guarded C P H (f a)) :
    M.Guarded C P H (Program.bind p f) := by
  intro s t y s' hrun hthreads ht hs e he
  rcases Program.run_bind.mp hrun with ⟨err, hfail, -⟩ | ⟨a, t₁, t₂, rfl, hfirst, hsecond⟩
  · exact hp s t _ s' hfail hthreads ht hs e he
  · obtain ⟨s₁, hthreads₁, hthreads₂⟩ := threads_append.mp hthreads
    have ht₁ : ∀ e ∈ t₁, C e := fun e he => ht e (List.mem_append_left t₂ he)
    have ht₂ : ∀ e ∈ t₂, C e := fun e he => ht e (List.mem_append_right t₁ he)
    have hfirstKeeps := hp s t₁ _ s₁ hfirst hthreads₁ ht₁ hs
    rcases List.mem_append.mp he with he | he
    · exact hfirstKeeps e he
    · exact hf a t₁ s s₁ hfirst ht₁ hs hthreads₁ s₁ t₂ y s' hsecond hthreads₂ ht₂
        (hkeeps.threads hthreads₁ hfirstKeeps hs) e he

theorem guarded_attempt {p : Program I ε α} (hp : M.Guarded C P H p) :
    M.Guarded C P H (Program.attempt p : Program I ε' (Except ε α)) := by
  intro s t y s' hrun hthreads ht hs
  obtain ⟨x, hrun, -⟩ := Program.run_attempt.mp hrun
  exact hp s t x s' hrun hthreads ht hs

theorem guarded_forEach (hkeeps : M.Keeps H P) {body : τ → β → Program I ε τ} {xs : List β} {a : τ}
    (hbody : ∀ x ∈ xs, ∀ a, M.Guarded C P H (body a x)) :
    M.Guarded C P H (Program.forEach xs a body) := by
  induction xs generalizing a with
  | nil => exact Guarded.of_exchanges (R := fun _ => True) Program.exchanges_done
  | cons x xs ih =>
    rw [List.forall_mem_cons] at hbody
    exact guarded_bind hkeeps (hbody.1 a) fun _ _ _ _ _ _ _ _ => ih hbody.2

/-! ## What a program may come to -/

/-- A program may end with an outcome and lead the memory from one state to another. -/
def Leads (M : Memory I σ) (p : Program I ε α) (s : σ) (x : Except ε α) (s' : σ) : Prop :=
  ∃ t, Program.Run p t x ∧ M.Threads s t s'

theorem leads_bind {p : Program I ε α} {f : α → Program I ε β} {a : α} {y : Except ε β}
    (hp : M.Leads p s (.ok a) s') (hf : M.Leads (f a) s' y s'') :
    M.Leads (Program.bind p f) s y s'' := by
  obtain ⟨t₁, hrun₁, hthreads₁⟩ := hp
  obtain ⟨t₂, hrun₂, hthreads₂⟩ := hf
  exact ⟨t₁ ++ t₂, Program.run_bind.mpr (Or.inr ⟨a, t₁, t₂, rfl, hrun₁, hrun₂⟩),
    threads_append.mpr ⟨s', hthreads₁, hthreads₂⟩⟩

theorem leads_bind_error {p : Program I ε α} {f : α → Program I ε β} {e : ε}
    (hp : M.Leads p s (.error e) s') : M.Leads (Program.bind p f) s (.error e) s' := by
  obtain ⟨t, hrun, hthreads⟩ := hp
  exact ⟨t, Program.run_bind.mpr (Or.inl ⟨e, hrun, rfl⟩), hthreads⟩

theorem leads_attempt {p : Program I ε α} {x : Except ε α} (hp : M.Leads p s x s') :
    M.Leads (Program.attempt p : Program I ε' (Except ε α)) s (.ok x) s' := by
  obtain ⟨t, hrun, hthreads⟩ := hp
  exact ⟨t, Program.run_attempt.mpr ⟨x, hrun, rfl⟩, hthreads⟩

/-- A run whose requests the memory does not serve. -/
theorem leads_other {p : Program I ε α} {x : Except ε α} (hrun : Program.Run p t x)
    (h : ∀ e ∈ t, M.serve e.request s = none) : M.Leads p s x s :=
  ⟨t, hrun, threads_other h⟩

theorem leads_ofExcept {x : Except ε α} : M.Leads (Program.ofExcept x) s x s :=
  ⟨[], Program.run_ofExcept.mpr ⟨rfl, rfl⟩, Threads.nil s⟩

theorem leads_ofExcept_bind {x : Except ε α} {f : α → Program I ε β} {a : α} {y : Except ε β}
    (hx : x = .ok a) (hf : M.Leads (f a) s y s') :
    M.Leads (Program.bind (Program.ofExcept x) f) s y s' := by
  rw [hx]
  exact hf

/-- A request that the memory does not serve. -/
theorem leads_unserved {r : I.Request} {read : I.Reply r → Except ε α} (reply : I.Reply r)
    (h : M.serve r s = none) : M.Leads (Program.await r read) s (read reply) s :=
  ⟨[⟨r, reply⟩], Program.run_await.mpr ⟨reply, rfl, rfl⟩, Threads.cons (Step.other h) (Threads.nil s)⟩

/-- A request that the memory serves. -/
theorem leads_served {r : I.Request} {read : I.Reply r → Except ε α} {reply : I.Reply r}
    (h : M.serve r s = some (reply, s')) : M.Leads (Program.await r read) s (read reply) s' :=
  ⟨[⟨r, reply⟩], Program.run_await.mpr ⟨reply, rfl, rfl⟩,
    Threads.cons (Step.served h) (Threads.nil s')⟩

/-! ## Steady environments -/

/-- What a run gave: its outcome, its exchanges and the memory after it. -/
structure Outcome (I : Interface) (σ ε α : Type) where
  result : Except ε α
  history : History I
  state : σ

/-- Run a program over a memory; what the memory does not serve is answered the same way every
time. -/
def execute (M : Memory I σ) (reply : (r : I.Request) → I.Reply r) :
    Program I ε α → σ → Outcome I σ ε α
  | .done x, s => ⟨x, [], s⟩
  | .ask r next, s =>
    match M.serve r s with
    | some (served, s') =>
      let rest := execute M reply (next served) s'
      { rest with history := ⟨r, served⟩ :: rest.history }
    | none =>
      let rest := execute M reply (next (reply r)) s
      { rest with history := ⟨r, reply r⟩ :: rest.history }

/-- What is executed is a run that threads the memory. -/
theorem run_execute (reply : (r : I.Request) → I.Reply r) (p : Program I ε α) (s : σ) :
    Program.Run p (M.execute reply p s).history (M.execute reply p s).result ∧
      M.Threads s (M.execute reply p s).history (M.execute reply p s).state := by
  induction p generalizing s with
  | done x => exact ⟨Program.Run.done x, Threads.nil s⟩
  | ask r next ih =>
    rw [execute]
    cases hserve : M.serve r s with
    | some served =>
      obtain ⟨hrun, hthreads⟩ := ih served.1 served.2
      exact ⟨Program.Run.ask r next served.1 _ _ hrun, Threads.cons (Step.served hserve) hthreads⟩
    | none =>
      obtain ⟨hrun, hthreads⟩ := ih (reply r) s
      exact ⟨Program.Run.ask r next (reply r) _ _ hrun, Threads.cons (Step.other hserve) hthreads⟩

/-- What the memory does not serve was answered by the environment. -/
theorem mem_execute {reply : (r : I.Request) → I.Reply r} {p : Program I ε α}
    (he : e ∈ (M.execute reply p s).history) (hother : ∀ s, M.serve e.request s = none) :
    e.reply = reply e.request := by
  induction p generalizing s with
  | done x => exact absurd he List.not_mem_nil
  | ask r next ih =>
    rw [execute] at he
    cases hserve : M.serve r s with
    | some served =>
      rw [hserve] at he
      rcases List.mem_cons.mp he with rfl | he
      · exact absurd (hserve.symm.trans (hother s)) (by simp)
      · exact ih served.1 he
    | none =>
      rw [hserve] at he
      rcases List.mem_cons.mp he with rfl | he
      · rfl
      · exact ih (reply r) he

end Memory

end SmartAccountKit.Lib
