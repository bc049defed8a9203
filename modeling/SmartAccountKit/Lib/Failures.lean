import SmartAccountKit.Lib.Handler

/-!
# Programs that fail exactly where an exchange has failed

Some exchanges of an interface are failures. A program fails exactly there if
each of its runs ends with a value where it made none of them, and with an error
where it made one. The rules follow the ways a program is built.
-/

namespace SmartAccountKit.Lib.Program

variable {I J : Interface} {ε ε' α β : Type} {B : Exchange I → Prop}

/-- Each run ends with a value where it has no bad exchange, and with an error where it has one. -/
def FailsExactly (B : Exchange I → Prop) (p : Program I ε α) : Prop :=
  ∀ t x, Run p t x → (x.isOk = true ↔ ∀ e ∈ t, ¬B e)

theorem failsExactly_pure (a : α) : FailsExactly B (pure a : Program I ε α) := by
  intro t x hrun
  obtain ⟨rfl, rfl⟩ := run_pure.mp hrun
  exact iff_of_true rfl fun e he => absurd he List.not_mem_nil

theorem failsExactly_await {r : I.Request} {read : I.Reply r → Except ε α}
    (h : ∀ reply, (read reply).isOk = true ↔ ¬B ⟨r, reply⟩) : FailsExactly B (await r read) := by
  intro t x hrun
  obtain ⟨reply, rfl, rfl⟩ := run_await.mp hrun
  rw [h, List.forall_mem_singleton]

theorem FailsExactly.bind {p : Program I ε α} {f : α → Program I ε β} (hp : FailsExactly B p)
    (hf : ∀ a, FailsExactly B (f a)) : FailsExactly B (bind p f) := by
  intro t x hrun
  rcases run_bind.mp hrun with ⟨err, hfail, rfl⟩ | ⟨a, t₁, t₂, rfl, hfirst, hsecond⟩
  · exact hp t _ hfail
  · have hbefore : ∀ e ∈ t₁, ¬B e := (hp t₁ _ hfirst).mp rfl
    rw [hf a t₂ x hsecond, List.forall_mem_append]
    exact (and_iff_right hbefore).symm

/-- What catches its errors may fail, if it makes no bad exchange. -/
theorem failsExactly_attempt {P : I.Request → Prop} {p : Program I ε α} (hp : OnlyAsks P p)
    (h : ∀ r reply, P r → ¬B ⟨r, reply⟩) :
    FailsExactly B (attempt p : Program I ε' (Except ε α)) := by
  intro t x hrun
  obtain ⟨y, hattempted, rfl⟩ := run_attempt.mp hrun
  exact iff_of_true rfl fun e he => h e.request e.reply (hp t y hattempted e he).1

/-- Each run ends with an error of one kind where it has a bad exchange, and without one where it
has none. -/
def ThrowsExactly (F : ε → Prop) (B : Exchange I → Prop) (p : Program I ε α) : Prop :=
  ∀ t x, Run p t x → ((∃ err, x = .error err ∧ F err) ↔ ∃ e ∈ t, B e)

section throws

variable {F : ε → Prop}

theorem throwsExactly_pure (a : α) : ThrowsExactly F B (pure a : Program I ε α) := by
  intro t x hrun
  obtain ⟨rfl, rfl⟩ := run_pure.mp hrun
  exact iff_of_false (by simp) (by simp)

theorem throwsExactly_await {r : I.Request} {read : I.Reply r → Except ε α}
    (h : ∀ reply, (∃ err, read reply = .error err ∧ F err) ↔ B ⟨r, reply⟩) :
    ThrowsExactly F B (await r read) := by
  intro t x hrun
  obtain ⟨reply, rfl, rfl⟩ := run_await.mp hrun
  rw [h]
  simp

theorem ThrowsExactly.bind {p : Program I ε α} {f : α → Program I ε β}
    (hp : ThrowsExactly F B p) (hf : ∀ a, ThrowsExactly F B (f a)) :
    ThrowsExactly F B (bind p f) := by
  intro t x hrun
  rcases run_bind.mp hrun with ⟨err, hfail, rfl⟩ | ⟨a, t₁, t₂, rfl, hfirst, hsecond⟩
  · rw [← hp t _ hfail]
    simp
  · have hbefore : ¬∃ e ∈ t₁, B e := by
      rw [← hp t₁ _ hfirst]
      simp
    rw [hf a t₂ x hsecond]
    constructor
    · intro ⟨e, he, hbad⟩
      exact ⟨e, List.mem_append_right t₁ he, hbad⟩
    · intro ⟨e, he, hbad⟩
      exact ⟨e, (List.mem_append.mp he).resolve_left fun he => hbefore ⟨e, he, hbad⟩, hbad⟩

theorem throwsExactly_forEach {body : α → β → Program I ε α} (xs : List β) (s : α)
    (h : ∀ s x, ThrowsExactly F B (body s x)) : ThrowsExactly F B (forEach xs s body) := by
  induction xs generalizing s with
  | nil => exact throwsExactly_pure s
  | cons x xs ih => exact (h s x).bind fun s' => ih s'

/-- A program that fails exactly where an exchange has failed, with its errors made errors of the
kind. -/
theorem FailsExactly.throws {g : ε' → ε} {p : Program I ε' α} (hp : FailsExactly B p)
    (hg : ∀ err, F (g err)) : ThrowsExactly F B (mapError g p) := by
  intro t x hrun
  obtain ⟨y, hfirst, rfl⟩ := run_mapError.mp hrun
  have hfails := not_congr (hp t y hfirst)
  rw [not_forall₂] at hfails
  simp only [not_not, exists_prop] at hfails
  rw [← hfails]
  cases y with
  | ok a => exact iff_of_false (by simp [Except.mapError]) (by simp [Except.isOk, Except.toBool])
  | error err => exact iff_of_true ⟨g err, rfl, hg err⟩ (by simp [Except.isOk, Except.toBool])

/-- What catches the errors of a program may throw those of one kind again, and goes on after the
others. -/
theorem ThrowsExactly.attempt_bind {p : Program I ε α} {f : Except ε α → Program I ε' β}
    (hp : ThrowsExactly F B p) (hok : ∀ a, FailsExactly B (f (.ok a)))
    (hother : ∀ err, ¬F err → FailsExactly B (f (.error err)))
    (hthrow : ∀ err, F err → ∀ t x, Run (f (.error err)) t x → x.isOk = false) :
    FailsExactly B (Program.bind (attempt p) f) := by
  intro t x hrun
  rcases run_bind.mp hrun with ⟨err, hfail, -⟩ | ⟨y, t₁, t₂, rfl, hfirst, hsecond⟩
  · obtain ⟨_, -, hvalue⟩ := run_attempt.mp hfail
    exact absurd hvalue (by simp)
  · obtain ⟨y', hfirst, hvalue⟩ := run_attempt.mp hfirst
    obtain rfl := Except.ok.inj hvalue
    have hthrows := hp t₁ y hfirst
    rw [List.forall_mem_append]
    by_cases hbad : ∃ e ∈ t₁, B e
    · obtain ⟨err, rfl, hkind⟩ := hthrows.mpr hbad
      rw [hthrow err hkind t₂ x hsecond]
      obtain ⟨e, he, hbad⟩ := hbad
      exact iff_of_false (by simp) fun hgood => hgood.1 e he hbad
    · have hbefore : ∀ e ∈ t₁, ¬B e := fun e he hbad' => hbad ⟨e, he, hbad'⟩
      rw [and_iff_right hbefore]
      cases y with
      | ok a => exact hok a t₂ x hsecond
      | error err =>
        have hkind : ¬F err := fun hkind => hbad (hthrows.mp ⟨err, rfl, hkind⟩)
        exact hother err hkind t₂ x hsecond

end throws

/-- Bad exchanges are carried out by bad exchanges, and others by others. -/
theorem FailsExactly.through {B' : Exchange J → Prop} {h : Handler I J} {p : Program I ε α}
    (hp : FailsExactly B p)
    (hh : ∀ e u, Run (h e.request) u (.ok e.reply) → (¬B e ↔ ∀ e' ∈ u, ¬B' e')) :
    FailsExactly B' (through h p) := by
  intro u x hrun
  obtain ⟨t, hprogram, hcarries⟩ := Handler.run_through.mp hrun
  rw [hp t x hprogram]
  constructor
  · intro hgood e' he'
    obtain ⟨e, he, v, hv, hmem, -⟩ := hcarries.of_mem he'
    exact (hh e v hv).mp (hgood e he) e' hmem
  · intro hgood e he
    obtain ⟨v, hv, hsubset⟩ := hcarries.exists_run he
    exact (hh e v hv).mpr fun e' he' => hgood e' (hsubset he')

end SmartAccountKit.Lib.Program
