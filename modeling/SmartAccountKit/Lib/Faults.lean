import SmartAccountKit.Lib.Program

/-!
# Requests that may be rejected

Some requests of an interface may be rejected instead of answered. A rejection
that a program does not handle ends it with the error of the rejection, so a run
is one of the program without rejections, or the beginning of one.
-/

namespace SmartAccountKit.Lib

/-- The interface in which the marked requests may be rejected. -/
abbrev Interface.withFaults (I : Interface) (ε : Type) (fallible : I.Request → Bool) :
    Interface where
  Request := I.Request
  Reply r := { x : Except ε (I.Reply r) // fallible r = false → x.isOk = true }

variable {I : Interface} {ε α β : Type} {fallible : I.Request → Bool}

/-- The exchange without its chance of a rejection, if the request was answered. -/
def Exchange.answered? (e : Exchange (I.withFaults ε fallible)) : Option (Exchange I) :=
  match e.reply.1 with
  | .ok reply => some ⟨e.request, reply⟩
  | .error _ => none

/-- The request was rejected. -/
def Exchange.Rejected (e : Exchange (I.withFaults ε fallible)) : Prop :=
  ∃ error, e.reply.1 = .error error

/-- Only a marked request can be rejected. -/
theorem fallible_of_error {r : I.Request} {error : ε}
    (h : fallible r = false → (Except.error error : Except ε (I.Reply r)).isOk = true) :
    fallible r = true := by
  cases hr : fallible r with
  | true => rfl
  | false => exact nomatch h hr

theorem Exchange.fallible_of_rejected {e : Exchange (I.withFaults ε fallible)} (h : e.Rejected) :
    fallible e.request = true := by
  obtain ⟨error, herror⟩ := h
  have hok := e.reply.2
  rw [herror] at hok
  cases hf : fallible e.request with
  | true => rfl
  | false => exact absurd (hok hf) Bool.false_ne_true

/-- An exchange in which the request was answered. -/
def Exchange.accept (e : Exchange I) : Exchange (I.withFaults ε fallible) :=
  ⟨e.request, ⟨.ok e.reply, fun _ => rfl⟩⟩

/-- An exchange in which a fallible request was rejected. -/
def Exchange.reject (r : I.Request) (h : fallible r = true) (error : ε) :
    Exchange (I.withFaults ε fallible) :=
  ⟨r, ⟨.error error, fun hf => by rw [h] at hf; exact nomatch hf⟩⟩

/-- The answered exchanges of a history. -/
def History.answered (t : History (I.withFaults ε fallible)) : History I :=
  t.filterMap Exchange.answered?

@[simp] theorem Exchange.answered?_accept (e : Exchange I) :
    (e.accept : Exchange (I.withFaults ε fallible)).answered? = some e := rfl

@[simp] theorem answered_map_accept (t : History I) :
    History.answered (t.map Exchange.accept : History (I.withFaults ε fallible)) = t := by
  rw [History.answered, List.filterMap_map]
  exact List.filterMap_some

/-- The answered exchanges are those that were accepted. -/
theorem mem_answered {t : History (I.withFaults ε fallible)} {e : Exchange I} :
    e ∈ t.answered ↔ e.accept ∈ t := by
  rw [History.answered, List.mem_filterMap]
  constructor
  · rintro ⟨⟨r, reply, hreply⟩, hmem, hanswered⟩
    cases reply with
    | ok a =>
      obtain rfl := Option.some.inj hanswered
      exact hmem
    | error error => exact absurd hanswered (by simp [Exchange.answered?])
  · intro hmem
    exact ⟨e.accept, hmem, Exchange.answered?_accept e⟩

theorem answered_append (t₁ t₂ : History (I.withFaults ε fallible)) :
    History.answered (t₁ ++ t₂) = t₁.answered ++ t₂.answered :=
  List.filterMap_append

/-- A rejection is no answered exchange. -/
theorem answered_reject (t : History I) {r : I.Request} (h : fallible r = true) (error : ε) :
    History.answered (t.map Exchange.accept ++ [Exchange.reject r h error]) = t := by
  rw [answered_append, answered_map_accept]
  exact List.append_nil t

/-- An answered exchange is one in which the request was answered. -/
theorem Exchange.eq_accept {e : Exchange (I.withFaults ε fallible)} (h : ¬e.Rejected) :
    ∃ e' : Exchange I, e = e'.accept := by
  cases e with
  | mk r reply =>
    cases reply with
    | mk x hx =>
      cases x with
      | ok a => exact ⟨⟨r, a⟩, rfl⟩
      | error error => exact absurd ⟨error, rfl⟩ h

namespace Program

/-- Go on with a value, or end with an error. -/
def orReject (x : Except ε α) (next : α → Program I ε β) : Program I ε β :=
  match x with
  | .ok a => next a
  | .error error => done (.error error)

/-- The program in an environment that may reject its marked requests. -/
def withFaults (fallible : I.Request → Bool) :
    Program I ε α → Program (I.withFaults ε fallible) ε α
  | done x => done x
  | ask r next => ask r fun reply => orReject reply.1 fun a => withFaults fallible (next a)

theorem withFaults_ask (r : I.Request) (next : I.Reply r → Program I ε α) :
    withFaults fallible (ask r next) = ask (I := I.withFaults ε fallible) r
      (fun reply => orReject reply.1 fun a => withFaults fallible (next a)) := by
  rw [withFaults]

/-- After the exchanges `t` the program can make the request `r`. -/
def Reaches (p : Program I ε α) (t : History I) (r : I.Request) : Prop :=
  ∃ reply t' x, Run p (t ++ ⟨r, reply⟩ :: t') x

/-- A program has a run if every request can be answered. -/
theorem exists_run [hreply : ∀ r, Nonempty (I.Reply r)] (p : Program I ε α) :
    ∃ t x, Run p t x := by
  induction p with
  | done x => exact ⟨[], x, Run.done x⟩
  | ask r next ih =>
    obtain ⟨reply⟩ := hreply r
    obtain ⟨t, x, hrun⟩ := ih reply
    exact ⟨_, x, Run.ask r next reply t x hrun⟩

/-- A run without rejections is a run of the program. -/
theorem run_withFaults_accept {p : Program I ε α} {t : History I} {x : Except ε α} :
    Run (withFaults fallible p) (t.map Exchange.accept) x ↔ Run p t x := by
  induction p generalizing t with
  | done y => simp [withFaults]
  | ask r next ih =>
    rw [withFaults_ask, run_ask, run_ask]
    constructor
    · rintro ⟨reply, t', ht, hrest⟩
      cases t with
      | nil => exact nomatch ht
      | cons e t =>
        rw [List.map_cons, List.cons.injEq] at ht
        cases e with
        | mk r' reply' =>
          obtain ⟨hhead, rfl⟩ := ht
          cases hhead
          exact ⟨reply', t, rfl, (ih reply').mp hrest⟩
    · rintro ⟨reply, t', rfl, hrest⟩
      exact ⟨⟨.ok reply, fun _ => rfl⟩, _, rfl, (ih reply).mpr hrest⟩

/-- A rejected request ends the program with the error of the rejection. -/
theorem run_withFaults_reject {p : Program I ε α} {t : History I} {r : I.Request}
    (h : Reaches p t r) (hr : fallible r = true) (error : ε) :
    Run (withFaults fallible p) (t.map Exchange.accept ++ [Exchange.reject r hr error])
      (.error error) := by
  obtain ⟨reply, t', x, hrun⟩ := h
  induction p generalizing t with
  | done y =>
    have hnil := (run_done.mp hrun).1
    cases t <;> exact nomatch hnil
  | ask r' next ih =>
    obtain ⟨reply', t'', ht, hrest⟩ := run_ask.mp hrun
    rw [withFaults_ask, run_ask]
    cases t with
    | nil =>
      cases ht
      exact ⟨_, [], rfl, Run.done _⟩
    | cons e t =>
      rw [List.cons_append, List.cons.injEq] at ht
      obtain ⟨rfl, rfl⟩ := ht
      exact ⟨⟨.ok reply', fun _ => rfl⟩, _, rfl, ih reply' hrest⟩

/-- A run is one without rejections, or it is cut off by a rejection. -/
theorem run_withFaults [∀ r, Nonempty (I.Reply r)] {p : Program I ε α}
    {t : History (I.withFaults ε fallible)} {x : Except ε α}
    (hrun : Run (withFaults fallible p) t x) :
    (∃ t₀ : History I, t = t₀.map Exchange.accept ∧ Run p t₀ x) ∨
      ∃ (t₀ : History I) (r : I.Request) (hr : fallible r = true) (error : ε),
        t = t₀.map Exchange.accept ++ [Exchange.reject r hr error] ∧ x = .error error ∧
        Reaches p t₀ r := by
  induction p generalizing t with
  | done y =>
    obtain ⟨rfl, rfl⟩ := run_done.mp hrun
    exact Or.inl ⟨[], rfl, Run.done _⟩
  | ask r next ih =>
    rw [withFaults_ask, run_ask] at hrun
    obtain ⟨⟨reply, hreply⟩, t', rfl, hrest⟩ := hrun
    cases reply with
    | ok a =>
      rcases ih a hrest with ⟨t₀, rfl, h⟩ | ⟨t₀, r', hr', error, rfl, hx, reply', t'', y, h⟩
      · exact Or.inl ⟨⟨r, a⟩ :: t₀, rfl, Run.ask r next a t₀ x h⟩
      · exact Or.inr ⟨⟨r, a⟩ :: t₀, r', hr', error, rfl, hx, reply', t'', y,
          Run.ask r next a _ y h⟩
    | error error =>
      obtain ⟨rfl, rfl⟩ := run_done.mp hrest
      have hr : fallible r = true := fallible_of_error hreply
      obtain ⟨t₀, y, h⟩ := exists_run (ask r next)
      obtain ⟨a, t₁, ht, hnext⟩ := run_ask.mp h
      exact Or.inr ⟨[], r, hr, error, rfl, rfl, a, t₁, y, Run.ask r next a t₁ y hnext⟩

/-- Rejections add no requests. -/
theorem Exchanges.withFaults [∀ r, Nonempty (I.Reply r)] {P : I.Request → Prop}
    {p : Program I ε α} (hp : Exchanges P (fun _ => True) p) :
    Exchanges (I := I.withFaults ε fallible) P (fun _ => True) (withFaults fallible p) := by
  have haccepted : ∀ {t₀ : History I}, (∀ e ∈ t₀, P e.request) →
      ∀ e ∈ (t₀.map Exchange.accept : History (I.withFaults ε fallible)), P e.request := by
    intro t₀ ht e he
    obtain ⟨e₀, he₀, rfl⟩ := List.mem_map.mp he
    exact ht e₀ he₀
  intro t x hrun e he
  refine ⟨?_, fun _ => trivial⟩
  rcases run_withFaults hrun with ⟨t₀, rfl, hrun₀⟩ | ⟨t₀, r, hr, error, rfl, rfl, reply, t', y, hrun₀⟩
  · exact haccepted (fun e₀ he₀ => (hp t₀ x hrun₀ e₀ he₀).1) e he
  · have ht : ∀ e₀ ∈ t₀ ++ ⟨r, reply⟩ :: t', P e₀.request :=
      fun e₀ he₀ => (hp _ y hrun₀ e₀ he₀).1
    rw [List.forall_mem_append, List.forall_mem_cons] at ht
    rcases List.mem_append.mp he with he | he
    · exact haccepted ht.1 e he
    · rw [List.mem_singleton.mp he]
      exact ht.2.1

/-- A request over an interface with rejections is answered, or its rejection is the outcome. -/
theorem run_withFaults_await {r : I.Request} {read : I.Reply r → Except ε α}
    {t : History (I.withFaults ε fallible)} {x : Except ε α} :
    Run (withFaults fallible (await r read)) t x ↔
      (∃ reply, t = [Exchange.accept ⟨r, reply⟩] ∧ x = read reply) ∨
      ∃ (h : fallible r = true) (error : ε), t = [Exchange.reject r h error] ∧
        x = .error error := by
  constructor
  · intro hrun
    rw [await, withFaults_ask, run_ask] at hrun
    obtain ⟨⟨reply, hreply⟩, t', rfl, hrest⟩ := hrun
    cases reply with
    | ok a =>
      obtain ⟨rfl, rfl⟩ := run_done.mp hrest
      exact Or.inl ⟨a, rfl, rfl⟩
    | error error =>
      obtain ⟨rfl, rfl⟩ := run_done.mp hrest
      exact Or.inr ⟨fallible_of_error hreply, error, rfl, rfl⟩
  · rintro (⟨reply, rfl, rfl⟩ | ⟨h, error, rfl, rfl⟩)
    · exact run_ask.mpr ⟨⟨.ok reply, fun _ => rfl⟩, [], rfl, Run.done _⟩
    · exact run_ask.mpr ⟨⟨.error error, _⟩, [], rfl, Run.done _⟩

end Program

end SmartAccountKit.Lib
