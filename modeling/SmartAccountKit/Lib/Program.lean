import Mathlib.Logic.Basic
import Mathlib.Data.List.Forall2

/-!
# Programs that talk to an environment

A program makes requests to an environment and continues from its replies. A
run records every exchange in order. Nothing is assumed about the environment,
so a statement about all runs holds for every behaviour of it. What a program
asks, and what a successful run of it exchanged, follow from its parts.
-/

namespace SmartAccountKit.Lib

/-- The requests a program can make and what the environment may reply to each. -/
structure Interface where
  Request : Type
  Reply : Request → Type

/-- A request together with the reply it got. -/
structure Exchange (I : Interface) where
  request : I.Request
  reply : I.Reply request

/-- The exchanges of a run, oldest first. -/
abbrev History (I : Interface) := List (Exchange I)

/-- A program that ends with a value or an error after finitely many requests. -/
inductive Program (I : Interface) (ε α : Type) : Type where
  | done (result : Except ε α)
  | ask (request : I.Request) (next : I.Reply request → Program I ε α)

namespace Program

variable {I : Interface} {ε ε' α β σ : Type}

/-- Run a program and continue with its value. -/
def bind (p : Program I ε α) (f : α → Program I ε β) : Program I ε β :=
  match p with
  | done (.ok a) => f a
  | done (.error e) => done (.error e)
  | ask r next => ask r fun reply => bind (next reply) f

instance : Monad (Program I ε) where
  pure a := done (.ok a)
  bind := bind

@[simp] theorem bind_eq (p : Program I ε α) (f : α → Program I ε β) : (p >>= f) = bind p f := rfl

/-- End with an error. -/
def throw (e : ε) : Program I ε α := done (.error e)

/-- A computation that makes no request. -/
def ofExcept (x : Except ε α) : Program I ε α := done x

/-- Rename the errors of a program. -/
def mapError (f : ε → ε') : Program I ε α → Program I ε' α
  | done (.ok a) => done (.ok a)
  | done (.error e) => done (.error (f e))
  | ask r next => ask r fun reply => mapError f (next reply)

/-- Run a program and turn its outcome into a value. -/
def attempt : Program I ε α → Program I ε' (Except ε α)
  | done x => done (.ok x)
  | ask r next => ask r fun reply => attempt (next reply)

/-- Make a request whose reply is read as a value or an error. -/
def await (r : I.Request) (read : I.Reply r → Except ε α) : Program I ε α :=
  ask r fun reply => done (read reply)

/-- Run a program on each element of a list, threading a state. -/
def forEach (xs : List β) (s : σ) (body : σ → β → Program I ε σ) : Program I ε σ :=
  match xs with
  | [] => done (.ok s)
  | x :: xs => bind (body s x) fun s' => forEach xs s' body

/-- Run a program on each element of a list and collect the values. -/
def collect (xs : List β) (body : β → Program I ε α) : Program I ε (List α) :=
  match xs with
  | [] => done (.ok [])
  | x :: xs => bind (body x) fun a => bind (collect xs body) fun as => done (.ok (a :: as))

/-- Run two programs to their ends and return both values, or the first error. -/
def both (p : Program I ε α) (q : Program I ε β) : Program I ε (α × β) :=
  bind (attempt p) fun x => bind (attempt q) fun y =>
    match x, y with
    | .ok a, .ok b => done (.ok (a, b))
    | .error e, _ => throw e
    | .ok _, .error e => throw e

/-- Run a program on every element to its end and collect the values, or the first error. -/
def collectAll (xs : List β) (body : β → Program I ε α) : Program I ε (List α) :=
  bind (collect xs fun x => attempt (body x)) fun rs => done (rs.mapM id)

/-! ## Runs -/

/-- `Run p t x`: the program `p` can make the exchanges `t`, in order, and end with `x`. -/
inductive Run : Program I ε α → History I → Except ε α → Prop where
  | done (x : Except ε α) : Run (done x) [] x
  | ask (r : I.Request) (next : I.Reply r → Program I ε α) (reply : I.Reply r)
      (t : History I) (x : Except ε α) (h : Run (next reply) t x) :
      Run (ask r next) (⟨r, reply⟩ :: t) x

section inversion

variable {t : History I}

@[simp] theorem run_done {x y : Except ε α} : Run (done x) t y ↔ t = [] ∧ y = x := by
  constructor
  · intro h
    cases h
    exact ⟨rfl, rfl⟩
  · intro ⟨ht, hy⟩
    rw [ht, hy]
    exact Run.done x

@[simp] theorem run_pure {a : α} {y : Except ε α} :
    Run (pure a : Program I ε α) t y ↔ t = [] ∧ y = .ok a := run_done

@[simp] theorem run_throw {e : ε} {y : Except ε α} :
    Run (throw e : Program I ε α) t y ↔ t = [] ∧ y = .error e := run_done

@[simp] theorem run_ofExcept {x y : Except ε α} :
    Run (ofExcept x : Program I ε α) t y ↔ t = [] ∧ y = x := run_done

@[simp] theorem run_ask {r : I.Request} {next : I.Reply r → Program I ε α} {y : Except ε α} :
    Run (ask r next) t y ↔ ∃ reply t', t = ⟨r, reply⟩ :: t' ∧ Run (next reply) t' y := by
  constructor
  · intro h
    cases h with
    | ask _ _ reply t' _ hnext => exact ⟨reply, t', rfl, hnext⟩
  · intro ⟨reply, t', ht, hnext⟩
    rw [ht]
    exact Run.ask r next reply t' y hnext

@[simp] theorem run_await {r : I.Request} {read : I.Reply r → Except ε α} {y : Except ε α} :
    Run (await r read) t y ↔ ∃ reply, t = [⟨r, reply⟩] ∧ y = read reply := by
  simp only [await, run_ask, run_done]
  exact ⟨fun ⟨reply, t', ht, ht', hy⟩ => ⟨reply, by rw [ht, ht'], hy⟩,
    fun ⟨reply, ht, hy⟩ => ⟨reply, [], ht, rfl, hy⟩⟩

/-- Of two runs of a program that begin the same history, one is the other. -/
theorem Run.eq_of_append {p : Program I ε α} {t₁ t₂ u₁ u₂ : History I} {x₁ x₂ : Except ε α}
    (h₁ : Run p t₁ x₁) (h₂ : Run p t₂ x₂) (h : t₁ ++ u₁ = t₂ ++ u₂) :
    t₁ = t₂ ∧ x₁ = x₂ ∧ u₁ = u₂ := by
  induction h₁ generalizing t₂ with
  | done x =>
    obtain ⟨rfl, rfl⟩ := run_done.mp h₂
    exact ⟨rfl, rfl, h⟩
  | ask r next reply t x _ ih =>
    obtain ⟨reply', t', rfl, hrest⟩ := run_ask.mp h₂
    rw [List.cons_append, List.cons_append, List.cons.injEq] at h
    obtain ⟨hhead, htail⟩ := h
    cases hhead
    obtain ⟨rfl, hx, hu⟩ := ih hrest htail
    exact ⟨rfl, hx, hu⟩

/-- A run of two programs in sequence fails in the first, or goes on in the second. -/
theorem run_bind {p : Program I ε α} {f : α → Program I ε β} {y : Except ε β} :
    Run (bind p f) t y ↔ (∃ e, Run p t (.error e) ∧ y = .error e) ∨
      ∃ a t₁ t₂, t = t₁ ++ t₂ ∧ Run p t₁ (.ok a) ∧ Run (f a) t₂ y := by
  induction p generalizing t with
  | done x =>
    cases x with
    | error e =>
      simp only [bind, run_done]
      constructor
      · intro ⟨ht, hy⟩
        exact Or.inl ⟨e, ⟨ht, rfl⟩, hy⟩
      · rintro (⟨e', ⟨ht, he⟩, hy⟩ | ⟨a, t₁, t₂, -, ⟨-, ha⟩, -⟩)
        · rw [hy, Except.error.inj he]
          exact ⟨ht, rfl⟩
        · exact nomatch ha
    | ok a =>
      simp only [bind, run_done]
      constructor
      · intro h
        exact Or.inr ⟨a, [], t, rfl, ⟨rfl, rfl⟩, h⟩
      · rintro (⟨e, ⟨-, he⟩, -⟩ | ⟨a', t₁, t₂, ht, ⟨ht₁, ha⟩, h⟩)
        · exact nomatch he
        · rw [ht, ht₁, ← Except.ok.inj ha]
          exact h
  | ask r next ih =>
    simp only [bind, run_ask, ih]
    constructor
    · rintro ⟨reply, t', ht, ⟨e, hrun, hy⟩ | ⟨a, t₁, t₂, ht', hrun, hf⟩⟩
      · exact Or.inl ⟨e, ⟨reply, t', ht, hrun⟩, hy⟩
      · exact Or.inr ⟨a, ⟨r, reply⟩ :: t₁, t₂, by rw [ht, ht']; rfl, ⟨reply, t₁, rfl, hrun⟩, hf⟩
    · rintro (⟨e, ⟨reply, t', ht, hrun⟩, hy⟩ | ⟨a, t₁, t₂, ht, ⟨reply, t', ht₁, hrun⟩, hf⟩)
      · exact ⟨reply, t', ht, Or.inl ⟨e, hrun, hy⟩⟩
      · exact ⟨reply, t' ++ t₂, by rw [ht, ht₁]; rfl, Or.inr ⟨a, t', t₂, rfl, hrun, hf⟩⟩

/-- A successful run of two programs in sequence. -/
theorem run_bind_ok {p : Program I ε α} {f : α → Program I ε β} {b : β} :
    Run (bind p f) t (.ok b) ↔
      ∃ a t₁ t₂, t = t₁ ++ t₂ ∧ Run p t₁ (.ok a) ∧ Run (f a) t₂ (.ok b) := by
  rw [run_bind, or_iff_right]
  intro ⟨e, _, h⟩
  exact nomatch h

/-- A check that makes no request and succeeds. -/
theorem run_ofExcept_bind_ok {x : Except ε α} {f : α → Program I ε β} {b : β} :
    Run (bind (ofExcept x) f) t (.ok b) ↔ ∃ a, x = .ok a ∧ Run (f a) t (.ok b) := by
  rw [run_bind_ok]
  constructor
  · intro ⟨a, t₁, t₂, ht, h, hf⟩
    obtain ⟨ht₁, ha⟩ := run_ofExcept.mp h
    rw [ht, ht₁]
    exact ⟨a, ha.symm, hf⟩
  · intro ⟨a, ha, hf⟩
    exact ⟨a, [], t, rfl, run_ofExcept.mpr ⟨rfl, ha.symm⟩, hf⟩

/-- A program whose value is then read without a request. -/
theorem run_bind_ofExcept {p : Program I ε α} {f : α → Except ε β} {y : Except ε β} :
    Run (bind p fun a => ofExcept (f a)) t y ↔ ∃ x, Run p t x ∧ y = x >>= f := by
  rw [run_bind]
  constructor
  · rintro (⟨e, hrun, hy⟩ | ⟨a, t₁, t₂, ht, hrun, hf⟩)
    · exact ⟨.error e, hrun, hy⟩
    · obtain ⟨ht₂, hy⟩ := run_ofExcept.mp hf
      rw [ht, ht₂, List.append_nil]
      exact ⟨.ok a, hrun, hy⟩
  · rintro ⟨x, hrun, hy⟩
    cases x with
    | error e => exact Or.inl ⟨e, hrun, hy⟩
    | ok a => exact Or.inr ⟨a, t, [], (List.append_nil t).symm, hrun, run_ofExcept.mpr ⟨rfl, hy⟩⟩

theorem run_mapError {g : ε → ε'} {p : Program I ε α} {y : Except ε' α} :
    Run (mapError g p) t y ↔ ∃ x, Run p t x ∧ y = x.mapError g := by
  induction p generalizing t with
  | done x => cases x <;> simp [mapError, Except.mapError, and_assoc]
  | ask r next ih =>
    simp only [mapError, run_ask, ih]
    constructor
    · intro ⟨reply, t', ht, x, hrun, hy⟩
      exact ⟨x, ⟨reply, t', ht, hrun⟩, hy⟩
    · intro ⟨x, ⟨reply, t', ht, hrun⟩, hy⟩
      exact ⟨reply, t', ht, x, hrun, hy⟩

theorem run_attempt {p : Program I ε α} {y : Except ε' (Except ε α)} :
    Run (attempt p) t y ↔ ∃ x, Run p t x ∧ y = .ok x := by
  induction p generalizing t with
  | done x => simp [attempt, and_assoc]
  | ask r next ih =>
    simp only [attempt, run_ask, ih]
    constructor
    · intro ⟨reply, t', ht, x, hrun, hy⟩
      exact ⟨x, ⟨reply, t', ht, hrun⟩, hy⟩
    · intro ⟨x, ⟨reply, t', ht, hrun⟩, hy⟩
      exact ⟨reply, t', ht, x, hrun, hy⟩

/-- A run of two programs that both run to their ends. -/
theorem run_both {p : Program I ε α} {q : Program I ε β} {z : Except ε (α × β)} :
    Run (both p q) t z ↔ ∃ t₁ t₂ x y, t = t₁ ++ t₂ ∧ Run p t₁ x ∧ Run q t₂ y ∧ z = (do
      let a ← x
      let b ← y
      return (a, b)) := by
  have hboth : both p q = bind (attempt p) fun x => bind (attempt q) fun y => done (do
      let a ← x
      let b ← y
      return (a, b)) := by
    refine congrArg _ (funext fun x => congrArg _ (funext fun y => ?_))
    cases x <;> cases y <;> rfl
  rw [hboth]
  constructor
  · intro h
    rcases run_bind.mp h with ⟨e, hfail, -⟩ | ⟨x, t₁, t', rfl, hp, h⟩
    · obtain ⟨_, -, hx⟩ := run_attempt.mp hfail
      exact nomatch hx
    rcases run_bind.mp h with ⟨e, hfail, -⟩ | ⟨y, t₂, t₃, rfl, hq, h⟩
    · obtain ⟨_, -, hy⟩ := run_attempt.mp hfail
      exact nomatch hy
    obtain ⟨_, hp, hx⟩ := run_attempt.mp hp
    obtain ⟨_, hq, hy⟩ := run_attempt.mp hq
    obtain ⟨rfl, hz⟩ := run_done.mp h
    rw [← Except.ok.inj hx] at hp
    rw [← Except.ok.inj hy] at hq
    exact ⟨t₁, t₂, x, y, by rw [List.append_nil], hp, hq, hz⟩
  · rintro ⟨t₁, t₂, x, y, rfl, hp, hq, rfl⟩
    refine run_bind.mpr (Or.inr ⟨x, t₁, t₂, rfl, run_attempt.mpr ⟨x, hp, rfl⟩, ?_⟩)
    exact run_bind.mpr (Or.inr ⟨y, t₂, [], (List.append_nil t₂).symm,
      run_attempt.mpr ⟨y, hq, rfl⟩, run_done.mpr ⟨rfl, rfl⟩⟩)

theorem run_both_ok {p : Program I ε α} {q : Program I ε β} {c : α × β}
    (h : Run (both p q) t (.ok c)) :
    ∃ t₁ t₂, t = t₁ ++ t₂ ∧ Run p t₁ (.ok c.1) ∧ Run q t₂ (.ok c.2) := by
  obtain ⟨t₁, t₂, x, y, ht, hp, hq, hc⟩ := run_both.mp h
  cases x with
  | error e => exact nomatch hc
  | ok a =>
    cases y with
    | error e => exact nomatch hc
    | ok b =>
      rw [Except.ok.inj hc]
      exact ⟨t₁, t₂, ht, hp, hq⟩

/-- The loop rule: what holds at the start and is kept by every successful round holds at the end
of a successful loop. -/
theorem run_forEach {body : σ → β → Program I ε σ} (Inv : List β → History I → σ → Prop)
    {xs : List β} {s s' : σ} (hstart : Inv [] [] s)
    (hround : ∀ done x t₁ s₁ t₂ s₂, x ∈ xs → Inv done t₁ s₁ → Run (body s₁ x) t₂ (.ok s₂) →
      Inv (done ++ [x]) (t₁ ++ t₂) s₂)
    (hrun : Run (forEach xs s body) t (.ok s')) : Inv xs t s' := by
  have hloop : ∀ (rest before : List β) (h : History I) (s : σ) (t : History I),
      before ++ rest = xs → Inv before h s → Run (forEach rest s body) t (.ok s') →
      Inv xs (h ++ t) s' := by
    intro rest
    induction rest with
    | nil =>
      intro before h s t hxs hinv hrun
      obtain ⟨rfl, hs⟩ := run_done.mp hrun
      rw [List.append_nil] at hxs ⊢
      rwa [← hxs, Except.ok.inj hs]
    | cons x rest ih =>
      intro before h s t hxs hinv hrun
      obtain ⟨s₁, t₁, t₂, rfl, hbody, hrest⟩ := run_bind_ok.mp hrun
      rw [← List.append_assoc]
      have hx : x ∈ xs := by simp [← hxs]
      exact ih (before ++ [x]) (h ++ t₁) s₁ t₂ (by rw [← hxs]; simp)
        (hround before x h s t₁ s₁ hx hinv hbody) hrest
  simpa using hloop xs [] [] s t rfl hstart hrun

/-- Every value that a successful loop collects comes from a round of it. -/
theorem run_collect {body : β → Program I ε α} {xs : List β} {as : List α}
    (hrun : Run (collect xs body) t (.ok as)) :
    List.Forall₂ (fun x a => ∃ t', t' <:+: t ∧ Run (body x) t' (.ok a)) xs as := by
  induction xs generalizing t as with
  | nil =>
    obtain ⟨-, has⟩ := run_done.mp hrun
    rw [Except.ok.inj has]
    exact List.Forall₂.nil
  | cons x xs ih =>
    obtain ⟨a, t₁, t₂, rfl, hbody, hrest⟩ := run_bind_ok.mp hrun
    obtain ⟨as', t₃, t₄, rfl, hcollect, hlast⟩ := run_bind_ok.mp hrest
    obtain ⟨rfl, has⟩ := run_done.mp hlast
    rw [Except.ok.inj has]
    refine List.Forall₂.cons ⟨t₁, (List.prefix_append _ _).isInfix, hbody⟩ ?_
    refine List.Forall₂.imp (fun y b ⟨t', ht', hbody'⟩ => ⟨t', ?_, hbody'⟩) (ih hcollect)
    rw [List.append_nil]
    exact ht'.trans (List.suffix_append _ _).isInfix

/-- Every value of a loop whose rounds all run to their ends comes from a round of it. -/
theorem run_collectAll {body : β → Program I ε α} {xs : List β} {as : List α}
    (hrun : Run (collectAll xs body) t (.ok as)) :
    List.Forall₂ (fun x a => ∃ t', t' <:+: t ∧ Run (body x) t' (.ok a)) xs as := by
  obtain ⟨rs, t₁, t₂, rfl, hcollect, hlast⟩ := run_bind_ok.mp hrun
  obtain ⟨rfl, has⟩ := run_done.mp hlast
  rw [List.append_nil]
  have hrounds := run_collect hcollect
  clear hcollect hrun hlast
  induction hrounds generalizing as with
  | nil =>
    rw [List.mapM_nil] at has
    rw [Except.ok.inj has]
    exact List.Forall₂.nil
  | @cons x r xs rs hround _ ih =>
    obtain ⟨t', ht', hattempt⟩ := hround
    obtain ⟨y, hbody, hr⟩ := run_attempt.mp hattempt
    rw [← Except.ok.inj hr] at hbody
    rw [List.mapM_cons] at has
    cases r with
    | error e => cases has
    | ok a =>
      cases hrest : rs.mapM id with
      | error e =>
        rw [hrest] at has
        cases has
      | ok as' =>
        rw [hrest] at has
        rw [Except.ok.inj has]
        exact List.Forall₂.cons ⟨t', ht', hbody⟩ (ih hrest.symm)

/-- An exchange of two programs in sequence is one of the first, or one of the second after the
first has succeeded. -/
theorem mem_bind {p : Program I ε α} {f : α → Program I ε β} {y : Except ε β} {e : Exchange I}
    (hrun : Run (bind p f) t y) (he : e ∈ t) :
    (∃ t₁ x, t₁ <:+: t ∧ Run p t₁ x ∧ e ∈ t₁) ∨
      ∃ a t₁ t₂, t = t₁ ++ t₂ ∧ Run p t₁ (.ok a) ∧ Run (f a) t₂ y ∧ e ∈ t₂ := by
  rcases run_bind.mp hrun with ⟨err, hfail, -⟩ | ⟨a, t₁, t₂, rfl, hfirst, hsecond⟩
  · exact Or.inl ⟨t, _, List.infix_rfl, hfail, he⟩
  · rcases List.mem_append.mp he with he | he
    · exact Or.inl ⟨t₁, _, (List.prefix_append _ _).isInfix, hfirst, he⟩
    · exact Or.inr ⟨a, t₁, t₂, rfl, hfirst, hsecond, he⟩

/-- An exchange of a loop is one of a round. -/
theorem mem_forEach {body : σ → β → Program I ε σ} {xs : List β} {s : σ} {y : Except ε σ}
    {e : Exchange I} (hrun : Run (forEach xs s body) t y) (he : e ∈ t) :
    ∃ x ∈ xs, ∃ s' t' y', t' <:+: t ∧ Run (body s' x) t' y' ∧ e ∈ t' := by
  induction xs generalizing s t with
  | nil =>
    rw [(run_done.mp hrun).1] at he
    exact absurd he List.not_mem_nil
  | cons x xs ih =>
    rcases mem_bind hrun he with ⟨t₁, y₁, ht₁, hbody, he⟩ | ⟨s', t₁, t₂, rfl, -, hrest, he⟩
    · exact ⟨x, List.mem_cons_self, s, t₁, y₁, ht₁, hbody, he⟩
    · obtain ⟨x', hx', s₁, t', y', ht', hbody, he⟩ := ih hrest he
      exact ⟨x', List.mem_cons_of_mem x hx', s₁, t', y',
        ht'.trans (List.suffix_append _ _).isInfix, hbody, he⟩

end inversion

/-! ## What a program exchanges -/

/-- In every run of a program every request satisfies `P`, and in every successful run every
exchange satisfies `R`. -/
def Exchanges (P : I.Request → Prop) (R : Exchange I → Prop) (p : Program I ε α) : Prop :=
  ∀ t x, Run p t x → ∀ e ∈ t, P e.request ∧ (x.isOk = true → R e)

section exchanges

variable {P : I.Request → Prop} {R : Exchange I → Prop}

theorem Exchanges.mono {Q : I.Request → Prop} {p : Program I ε α} (hp : Exchanges P R p)
    (h : ∀ r, P r → Q r) : Exchanges Q R p :=
  fun t x hrun e he => (hp t x hrun e he).imp_left (h e.request)

theorem isOk_of_bind {x : Except ε α} {f : α → Except ε β} (h : (x >>= f).isOk = true) :
    x.isOk = true := by
  cases x with
  | error e => exact nomatch h
  | ok a => rfl

theorem exchanges_done {x : Except ε α} : Exchanges P R (done x : Program I ε α) := by
  intro t y h e he
  rw [(run_done.mp h).1] at he
  exact absurd he List.not_mem_nil

theorem exchanges_await {r : I.Request} {read : I.Reply r → Except ε α} (hasks : P r)
    (hreply : ∀ reply, (read reply).isOk = true → R ⟨r, reply⟩) :
    Exchanges P R (await r read) := by
  intro t y hrun e he
  obtain ⟨reply, rfl, rfl⟩ := run_await.mp hrun
  rw [List.mem_singleton.mp he]
  exact ⟨hasks, hreply reply⟩

theorem exchanges_bind {p : Program I ε α} {f : α → Program I ε β} (hp : Exchanges P R p)
    (hf : ∀ a t, Run p t (.ok a) → Exchanges P R (f a)) : Exchanges P R (bind p f) := by
  intro t y hrun e he
  rcases run_bind.mp hrun with ⟨err, hfail, rfl⟩ | ⟨a, t₁, t₂, rfl, hfirst, hsecond⟩
  · exact ⟨(hp t _ hfail e he).1, fun h => nomatch h⟩
  · rcases List.mem_append.mp he with he | he
    · exact ⟨(hp t₁ _ hfirst e he).1, fun _ => (hp t₁ _ hfirst e he).2 rfl⟩
    · exact hf a t₁ hfirst t₂ y hsecond e he

/-- An exchange that the first of two programs never makes is made by the second one, after the
first has succeeded. -/
theorem run_bind_at {p : Program I ε α} {f : α → Program I ε β} {y : Except ε β}
    {before after : History I} {e : Exchange I} (hp : Exchanges P R p) (he : ¬P e.request)
    (hrun : Run (bind p f) (before ++ e :: after) y) :
    ∃ a t₁ t₂, before = t₁ ++ t₂ ∧ Run p t₁ (.ok a) ∧ Run (f a) (t₂ ++ e :: after) y := by
  rcases run_bind.mp hrun with ⟨err, hfail, -⟩ | ⟨a, t₁, t, ht, hfirst, hsecond⟩
  · exact absurd (hp _ _ hfail e (by simp)).1 he
  · have hnotin : e ∉ t₁ := fun hmem => he (hp _ _ hfirst e hmem).1
    rcases List.append_eq_append_iff.mp ht with ⟨rest, ht₁, hrest⟩ | ⟨t₂, hbefore, rfl⟩
    · cases rest with
      | nil =>
        rw [List.append_nil] at ht₁
        rw [List.nil_append] at hrest
        exact ⟨a, t₁, [], by simp [ht₁], hfirst, by rwa [List.nil_append, hrest]⟩
      | cons e' rest =>
        rw [List.cons_append, List.cons.injEq] at hrest
        exact absurd (by rw [ht₁, hrest.1]; simp) hnotin
    · exact ⟨a, t₁, t₂, hbefore, hfirst, hsecond⟩

/-- A request whose reply decides how the program goes on. -/
theorem exchanges_ask {r : I.Request} {next : I.Reply r → Program I ε α} (hasks : P r)
    (hnext : ∀ reply, Exchanges P R (next reply))
    (hreply : ∀ reply t a, Run (next reply) t (.ok a) → R ⟨r, reply⟩) :
    Exchanges P R (ask r next) := by
  intro t y hrun e he
  obtain ⟨reply, t', rfl, hrest⟩ := run_ask.mp hrun
  rcases List.mem_cons.mp he with rfl | he
  · refine ⟨hasks, fun hok => ?_⟩
    cases y with
    | error err => exact nomatch hok
    | ok a => exact hreply reply t' a hrest
  · exact hnext reply t' y hrest e he

/-- A check that makes no request, and the rest of the program where it succeeds. -/
theorem exchanges_ofExcept_bind {x : Except ε α} {f : α → Program I ε β}
    (hf : ∀ a, x = .ok a → Exchanges P R (f a)) : Exchanges P R (bind (ofExcept x) f) :=
  exchanges_bind exchanges_done fun a _ h => hf a (run_ofExcept.mp h).2.symm

theorem exchanges_attempt {p : Program I ε α} (hp : Exchanges P (fun _ => True) p) :
    Exchanges P (fun _ => True) (attempt p : Program I ε' (Except ε α)) := by
  intro t y hrun e he
  obtain ⟨x, hrun', -⟩ := run_attempt.mp hrun
  exact ⟨(hp t x hrun' e he).1, fun _ => trivial⟩

theorem exchanges_mapError {g : ε → ε'} {p : Program I ε α} (hp : Exchanges P R p) :
    Exchanges P R (mapError g p) := by
  intro t y hrun e he
  obtain ⟨x, hrun', rfl⟩ := run_mapError.mp hrun
  cases x <;> exact hp t _ hrun' e he

theorem exchanges_both {p : Program I ε α} {q : Program I ε β} (hp : Exchanges P R p)
    (hq : Exchanges P R q) : Exchanges P R (both p q) := by
  intro t y hrun e he
  obtain ⟨t₁, t₂, x₁, x₂, rfl, hfirst, hsecond, rfl⟩ := run_both.mp hrun
  rcases List.mem_append.mp he with he | he
  · exact ⟨(hp t₁ x₁ hfirst e he).1, fun hok => (hp t₁ x₁ hfirst e he).2 (isOk_of_bind hok)⟩
  · refine ⟨(hq t₂ x₂ hsecond e he).1, fun hok => (hq t₂ x₂ hsecond e he).2 ?_⟩
    cases x₁ with
    | error err => exact nomatch hok
    | ok a => exact isOk_of_bind hok

/-- A loop whose rounds keep an invariant of the elements done and the state. -/
theorem exchanges_forEach {body : σ → β → Program I ε σ} (Inv : List β → σ → Prop)
    {xs : List β} {s : σ} (hstart : Inv [] s)
    (hbody : ∀ done x s, x ∈ xs → Inv done s → Exchanges P R (body s x))
    (hround : ∀ done x s t s', x ∈ xs → Inv done s → Run (body s x) t (.ok s') →
      Inv (done ++ [x]) s') :
    Exchanges P R (forEach xs s body) := by
  have hloop : ∀ (rest before : List β) (s : σ), before ++ rest = xs → Inv before s →
      Exchanges P R (forEach rest s body) := by
    intro rest
    induction rest with
    | nil => exact fun _ _ _ _ => exchanges_done
    | cons x rest ih =>
      intro before s hxs hinv
      have hx : x ∈ xs := by simp [← hxs]
      refine exchanges_bind (hbody before x s hx hinv) fun s' t hrun => ?_
      exact ih (before ++ [x]) s' (by rw [← hxs]; simp) (hround before x s t s' hx hinv hrun)
  exact hloop xs [] s rfl hstart

/-- A loop whose rounds need no invariant. -/
theorem exchanges_forEach_of_body {body : σ → β → Program I ε σ} {xs : List β} {s : σ}
    (hbody : ∀ x ∈ xs, ∀ s, Exchanges P R (body s x)) : Exchanges P R (forEach xs s body) :=
  exchanges_forEach (fun _ _ => True) trivial (fun _ x s hx _ => hbody x hx s)
    fun _ _ _ _ _ _ _ _ => trivial

theorem exchanges_collect {body : β → Program I ε α} {xs : List β}
    (hbody : ∀ x ∈ xs, Exchanges P R (body x)) : Exchanges P R (collect xs body) := by
  induction xs with
  | nil => exact exchanges_done
  | cons x xs ih =>
    rw [List.forall_mem_cons] at hbody
    exact exchanges_bind hbody.1 fun _ _ _ => exchanges_bind (ih hbody.2) fun _ _ _ => exchanges_done

theorem exchanges_collectAll {body : β → Program I ε α} {xs : List β}
    (hbody : ∀ x ∈ xs, Exchanges P R (body x)) : Exchanges P R (collectAll xs body) := by
  have hcollect : ∀ xs : List β, (∀ x ∈ xs, Exchanges P R (body x)) → ∀ t (y : Except ε _),
      Run (collect xs fun x => attempt (body x)) t y → ∃ rs, y = .ok rs ∧
        ∀ e ∈ t, P e.request ∧ ((rs.mapM id).isOk = true → R e) := by
    intro xs
    induction xs with
    | nil =>
      intro _ t y hrun
      obtain ⟨rfl, rfl⟩ := run_done.mp hrun
      exact ⟨[], rfl, fun e he => absurd he List.not_mem_nil⟩
    | cons x xs ih =>
      intro hbody t y hrun
      rw [List.forall_mem_cons] at hbody
      rcases run_bind.mp hrun with ⟨err, hfail, -⟩ | ⟨r, t₁, t₂, rfl, hfirst, hrest⟩
      · obtain ⟨_, -, h⟩ := run_attempt.mp hfail
        exact nomatch h
      obtain ⟨_, hbodyrun, h⟩ := run_attempt.mp hfirst
      rw [← Except.ok.inj h] at hbodyrun
      rcases run_bind.mp hrest with ⟨err, hfail, -⟩ | ⟨rs, t₃, t₄, rfl, hcollect, hlast⟩
      · obtain ⟨_, herr, -⟩ := ih hbody.2 _ _ hfail
        exact nomatch herr
      obtain ⟨rfl, rfl⟩ := run_done.mp hlast
      obtain ⟨_, hrs, hmem⟩ := ih hbody.2 _ _ hcollect
      rw [← Except.ok.inj hrs] at hmem
      refine ⟨r :: rs, rfl, fun e he => ?_⟩
      rw [List.append_nil] at he
      rw [List.mapM_cons]
      rcases List.mem_append.mp he with he | he
      · have := hbody.1 t₁ r hbodyrun e he
        exact ⟨this.1, fun hok => this.2 (isOk_of_bind hok)⟩
      · refine ⟨(hmem e he).1, fun hok => (hmem e he).2 ?_⟩
        cases r with
        | error err => exact nomatch hok
        | ok a => exact isOk_of_bind hok
  intro t y hrun e he
  rcases run_bind.mp hrun with ⟨err, hfail, -⟩ | ⟨rs, t₁, t₂, rfl, hfirst, hlast⟩
  · obtain ⟨_, herr, -⟩ := hcollect xs hbody _ _ hfail
    exact nomatch herr
  obtain ⟨rfl, rfl⟩ := run_done.mp hlast
  obtain ⟨_, hrs, hmem⟩ := hcollect xs hbody _ _ hfirst
  rw [← Except.ok.inj hrs] at hmem
  rw [List.append_nil] at he
  exact hmem e he

end exchanges

/-! ## What a program asks for -/

/-- In every run of a program every request satisfies `P`. -/
abbrev OnlyAsks (P : I.Request → Prop) (p : Program I ε α) : Prop :=
  Exchanges P (fun _ => True) p

section asks

variable {P : I.Request → Prop}

theorem onlyAsks_await {r : I.Request} {read : I.Reply r → Except ε α} (hasks : P r) :
    OnlyAsks P (await r read) :=
  exchanges_await hasks fun _ _ => trivial

theorem OnlyAsks.bind {p : Program I ε α} {f : α → Program I ε β} (hp : OnlyAsks P p)
    (hf : ∀ a, OnlyAsks P (f a)) : OnlyAsks P (bind p f) :=
  exchanges_bind hp fun a _ _ => hf a

/-- A check that makes no request, before the rest of the program. -/
theorem onlyAsks_ofExcept_bind {x : Except ε α} {f : α → Program I ε β}
    (hf : ∀ a, x = .ok a → OnlyAsks P (f a)) : OnlyAsks P (bind (ofExcept x) f) :=
  exchanges_ofExcept_bind hf

end asks

/-! ## What a program asks for, under an assumption -/

/-- In every run whose exchanges satisfy `C`, every request satisfies `P`. -/
def AsksUnder (C : Exchange I → Prop) (P : I.Request → Prop) (p : Program I ε α) : Prop :=
  ∀ t x, Run p t x → (∀ e ∈ t, C e) → ∀ e ∈ t, P e.request

section asksUnder

variable {C : Exchange I → Prop} {P : I.Request → Prop}

theorem OnlyAsks.asksUnder {p : Program I ε α} (hp : OnlyAsks P p) : AsksUnder C P p :=
  fun t x hrun _ e he => (hp t x hrun e he).1

theorem AsksUnder.bind {p : Program I ε α} {f : α → Program I ε β} (hp : AsksUnder C P p)
    (hf : ∀ a t, Run p t (.ok a) → (∀ e ∈ t, C e) → AsksUnder C P (f a)) :
    AsksUnder C P (bind p f) := by
  intro t x hrun hassumed e he
  rcases run_bind.mp hrun with ⟨err, hfail, -⟩ | ⟨a, t₁, t₂, rfl, hfirst, hsecond⟩
  · exact hp t _ hfail hassumed e he
  · rw [List.forall_mem_append] at hassumed
    rcases List.mem_append.mp he with he | he
    · exact hp t₁ _ hfirst hassumed.1 e he
    · exact hf a t₁ hfirst hassumed.1 t₂ x hsecond hassumed.2 e he

theorem AsksUnder.attempt {p : Program I ε α} (hp : AsksUnder C P p) :
    AsksUnder C P (attempt p : Program I ε' (Except ε α)) := by
  intro t y hrun hassumed e he
  obtain ⟨x, hattempted, -⟩ := run_attempt.mp hrun
  exact hp t x hattempted hassumed e he

/-- Renaming the value of a program changes none of its requests. -/
theorem AsksUnder.map {p : Program I ε α} (hp : AsksUnder C P p) (g : α → β) :
    AsksUnder C P (Program.bind p fun a => pure (g a)) :=
  hp.bind fun _ _ _ _ => OnlyAsks.asksUnder exchanges_done

end asksUnder

/-! ## Steady environments -/

/-- The outcome of a program in an environment that answers a request the same way every time. -/
def answer (reply : (r : I.Request) → I.Reply r) : Program I ε α → Except ε α
  | done x => x
  | ask r next => answer reply (next (reply r))

/-- The exchanges of a program in an environment that answers a request the same way every time. -/
def transcript (reply : (r : I.Request) → I.Reply r) : Program I ε α → History I
  | done _ => []
  | ask r next => ⟨r, reply r⟩ :: transcript reply (next (reply r))

/-- What a steady environment makes of a program is one of its runs. -/
theorem run_transcript (reply : (r : I.Request) → I.Reply r) (p : Program I ε α) :
    Run p (transcript reply p) (answer reply p) := by
  induction p with
  | done x => exact Run.done x
  | ask r next ih => exact Run.ask r next (reply r) _ _ (ih (reply r))

/-- Every reply of a transcript is the steady one. -/
theorem mem_transcript {reply : (r : I.Request) → I.Reply r} {p : Program I ε α} {e : Exchange I}
    (he : e ∈ transcript reply p) : e.reply = reply e.request := by
  induction p with
  | done x => exact absurd he List.not_mem_nil
  | ask r next ih =>
    rcases List.mem_cons.mp he with rfl | he
    · rfl
    · exact ih (reply r) he

/-- A steady environment that leads a program to a value gives a successful run. -/
theorem exists_run_of_isOk {reply : (r : I.Request) → I.Reply r} {p : Program I ε α}
    (h : (answer reply p).isOk = true) : ∃ t a, Run p t (.ok a) := by
  have hrun := run_transcript reply p
  cases hx : answer reply p with
  | error e => rw [hx] at h; exact nomatch h
  | ok a => exact ⟨_, a, hx ▸ hrun⟩

section answer

variable {reply : (r : I.Request) → I.Reply r}

theorem answer_bind {p : Program I ε α} {f : α → Program I ε β} :
    answer reply (bind p f) = answer reply p >>= fun a => answer reply (f a) := by
  induction p with
  | done x => cases x <;> rfl
  | ask r next ih => exact ih (reply r)

@[simp] theorem answer_pure {a : α} : answer reply (pure a : Program I ε α) = .ok a := rfl

@[simp] theorem answer_ofExcept {x : Except ε α} : answer reply (ofExcept x) = x := rfl

@[simp] theorem answer_await {r : I.Request} {read : I.Reply r → Except ε α} :
    answer reply (await r read) = read (reply r) := rfl

@[simp] theorem answer_throw {e : ε} : answer reply (throw e : Program I ε α) = .error e := rfl

@[simp] theorem answer_attempt {p : Program I ε α} :
    answer reply (attempt p : Program I ε' (Except ε α)) = .ok (answer reply p) := by
  induction p with
  | done x => rfl
  | ask r next ih => exact ih (reply r)

/-- Running a program on every element to its end maps the computations over the list. -/
theorem answer_collectAll {xs : List β} {body : β → Program I ε α} :
    answer reply (collectAll xs body) = xs.mapM fun x => answer reply (body x) := by
  have hcollect : ∀ xs : List β,
      answer reply (collect xs fun x => (attempt (body x) : Program I ε (Except ε α))) =
        .ok (xs.map fun x => answer reply (body x)) := by
    intro xs
    induction xs with
    | nil => rfl
    | cons x xs ih =>
      rw [collect, answer_bind, answer_attempt]
      show answer reply (bind _ _) = _
      rw [answer_bind, ih]
      rfl
  rw [collectAll, answer_bind, hcollect]
  show (xs.map fun x => answer reply (body x)).mapM id = _
  rw [List.mapM_map]
  rfl

/-- A loop whose rounds are computations is the fold of those computations. -/
theorem answer_forEach {xs : List β} {s : σ} {body : σ → β → Program I ε σ} :
    answer reply (forEach xs s body) = xs.foldlM (fun s x => answer reply (body s x)) s := by
  induction xs generalizing s with
  | nil => rfl
  | cons x xs ih =>
    rw [forEach, answer_bind, List.foldlM_cons]
    exact congrArg _ (funext fun s' => ih)

end answer

end Program

end SmartAccountKit.Lib
