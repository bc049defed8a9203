import SmartAccountKit.Lib.Handler
import SmartAccountKit.Lib.Memory

/-!
# Programs over a store of objects

A program makes requests to an environment and creates, reads and changes the
objects of a store. An object that a program does not change is what it was,
whatever the environment replies.
-/

namespace SmartAccountKit.Lib

/-- What a program does with objects. -/
inductive ObjectRequest (V : Type) where
  | create (value : V)
  | read (ref : ℕ)
  | write (ref : ℕ) (value : V)

def ObjectRequest.Reply {V : Type} : ObjectRequest V → Type
  | create _ => ℕ
  | read _ => Option V
  | write _ _ => Unit

/-- The requests to a store of objects with values in `V`. -/
abbrev Objects (V : Type) : Interface where
  Request := ObjectRequest V
  Reply := ObjectRequest.Reply

variable {I : Interface} {V ε α β : Type}

/-- A store of objects: a new object stands behind the others, so that its reference is new. -/
def objectMemory (I : Interface) (V : Type) : Memory (I.sum (Objects V)) (List V) where
  serve
    | .inl _, _ => none
    | .inr (.create value), objects => some (objects.length, objects ++ [value])
    | .inr (.read ref), objects => some (objects[ref]?, objects)
    | .inr (.write ref value), objects => some ((), objects.set ref value)

namespace Program

/-- A program that uses no objects. -/
def withObjects : Program I ε α → Program (I.sum (Objects V)) ε α
  | done x => done x
  | ask r next => ask (.inl r) fun reply => withObjects (next reply)

def newObject (value : V) : Program (I.sum (Objects V)) ε ℕ :=
  await (.inr (.create value)) fun ref : ℕ => .ok ref

/-- Read an object; `missing` is the error when there is none. -/
def getObject (missing : ε) (ref : ℕ) : Program (I.sum (Objects V)) ε V :=
  await (.inr (.read ref)) fun found : Option V => found.elim (.error missing) .ok

def setObject (ref : ℕ) (value : V) : Program (I.sum (Objects V)) ε Unit :=
  await (.inr (.write ref value)) fun _ => .ok ()

theorem bind_assoc {γ : Type} (p : Program I ε α) (f : α → Program I ε β)
    (g : β → Program I ε γ) : bind (bind p f) g = bind p fun a => bind (f a) g := by
  induction p with
  | done x => cases x <;> rfl
  | ask r next ih => exact congrArg (ask r) (funext ih)

/-- What a program may write: its requests change no object but those that `W` holds of. -/
def WritesOnly (W : ℕ → Prop) (p : Program (I.sum (Objects V)) ε α) : Prop :=
  Exchanges (fun request : I.Request ⊕ ObjectRequest V =>
    ∀ ref value, request = .inr (.write ref value) → W ref) (fun _ => True) p

section writes

variable {W : ℕ → Prop}

theorem writesOnly_done {x : Except ε α} :
    WritesOnly W (done x : Program (I.sum (Objects V)) ε α) :=
  exchanges_done

theorem writesOnly_bind {p : Program (I.sum (Objects V)) ε α}
    {f : α → Program (I.sum (Objects V)) ε β} (hp : WritesOnly W p)
    (hf : ∀ a, WritesOnly W (f a)) : WritesOnly W (bind p f) :=
  exchanges_bind hp fun a _ _ => hf a

theorem writesOnly_ofExcept_bind {x : Except ε α} {f : α → Program (I.sum (Objects V)) ε β}
    (hf : ∀ a, x = .ok a → WritesOnly W (f a)) : WritesOnly W (bind (ofExcept x) f) := by
  cases x with
  | error e => exact exchanges_done
  | ok a => exact hf a rfl

theorem writesOnly_getObject (missing : ε) (ref : ℕ) :
    WritesOnly W (getObject missing ref : Program (I.sum (Objects V)) ε V) :=
  exchanges_await (fun _ _ h => by cases h) fun _ _ => trivial

theorem writesOnly_setObject {ref : ℕ} (h : W ref) (value : V) :
    WritesOnly W (setObject ref value : Program (I.sum (Objects V)) ε Unit) := by
  refine exchanges_await (fun ref' value' hsame => ?_) fun _ _ => trivial
  cases hsame
  exact h

theorem writesOnly_withObjects (p : Program I ε α) :
    WritesOnly W (withObjects p : Program (I.sum (Objects V)) ε α) := by
  induction p with
  | done x => exact exchanges_done
  | ask r next ih =>
    exact exchanges_ask (fun _ _ h => by cases h) ih fun _ _ _ _ => trivial

end writes

end Program

/-! ## Objects that stay as they are -/

namespace Memory
open Program

variable {ref : ℕ} {value : V}

/-- Requests that write to other objects leave an object as it is. -/
theorem objectMemory_keeps (ref : ℕ) (value : V) :
    (objectMemory I V).Keeps (fun request : I.Request ⊕ ObjectRequest V =>
      ∀ value', request ≠ .inr (.write ref value')) fun objects => objects[ref]? = some value := by
  intro r objects reply objects' hr hserve hold
  rcases r with r | r
  · cases hserve
  cases r with
  | create v =>
    obtain ⟨-, rfl⟩ := Prod.mk.inj (Option.some.inj hserve)
    have hlt : ref < objects.length := (List.getElem?_eq_some_iff.mp hold).1
    rw [List.getElem?_append_left hlt]
    exact hold
  | read ref' =>
    obtain ⟨-, rfl⟩ := Prod.mk.inj (Option.some.inj hserve)
    exact hold
  | write ref' v =>
    obtain ⟨-, rfl⟩ := Prod.mk.inj (Option.some.inj hserve)
    have hne : ref' ≠ ref := by
      intro hsame
      rw [hsame] at hr
      exact hr v rfl
    rw [List.getElem?_set_ne hne]
    exact hold

/-- In every run of a program the object that `ref` stands for stays as it is. -/
def LeavesObject (ref : ℕ) (value : V) (p : Program (I.sum (Objects V)) ε α) : Prop :=
  (objectMemory I V).Guarded (fun _ => True) (fun objects => objects[ref]? = some value)
    (fun request : I.Request ⊕ ObjectRequest V => ∀ value', request ≠ .inr (.write ref value')) p

theorem LeavesObject.threads {p : Program (I.sum (Objects V)) ε α} (hp : LeavesObject ref value p)
    {objects objects' : List V} {t : History (I.sum (Objects V))} {x : Except ε α}
    (hrun : Run p t x) (hthreads : (objectMemory I V).Threads objects t objects')
    (hold : objects[ref]? = some value) : objects'[ref]? = some value :=
  (objectMemory_keeps ref value).threads hthreads
    (hp objects t x objects' hrun hthreads (fun _ _ => trivial) hold) hold

theorem LeavesObject.of_writesOnly {W : ℕ → Prop} {p : Program (I.sum (Objects V)) ε α}
    (hp : WritesOnly W p) (hW : ¬W ref) : LeavesObject ref value p :=
  Guarded.of_exchanges (hp.mono fun _ h value' hsame => hW (h ref value' hsame))

theorem leavesObject_bind {p : Program (I.sum (Objects V)) ε α}
    {f : α → Program (I.sum (Objects V)) ε β} (hp : LeavesObject ref value p)
    (hf : ∀ a, LeavesObject ref value (f a)) : LeavesObject ref value (Program.bind p f) :=
  guarded_bind (objectMemory_keeps ref value) hp fun a _ _ _ _ _ _ _ => hf a

/-- A program may change the objects that it has created. -/
theorem leavesObject_newObject_bind (value' : V) {f : ℕ → Program (I.sum (Objects V)) ε β}
    (hf : ∀ ref', ref' ≠ ref → LeavesObject ref value (f ref')) :
    LeavesObject ref value (Program.bind (newObject value') f) := by
  have hwrites : ∀ w, (Sum.inr (.create value') : I.Request ⊕ ObjectRequest V) ≠
      .inr (.write ref w) := fun w h => by cases h
  refine guarded_ask (objectMemory_keeps ref value) hwrites
    fun reply objects objects' hold hstep _ => ?_
  have hnew := (hstep.served_inv (M := objectMemory I V) rfl).1
  have hlt : ref < objects.length := (List.getElem?_eq_some_iff.mp hold).1
  have hreply : reply = objects.length := hnew
  refine hf reply ?_
  rw [hreply]
  exact fun hsame => absurd hlt (by rw [hsame]; exact Nat.lt_irrefl ref)

/-! ## What a program comes to -/

section eval

variable {reply : (r : I.Request) → I.Reply r} {objects objects' : List V}

/-- The outcome of a program whose environment answers the same way every time, and the objects
after it. -/
def eval (reply : (r : I.Request) → I.Reply r) :
    Program (I.sum (Objects V)) ε α → List V → Except ε α × List V
  | .done x, objects => (x, objects)
  | .ask (.inl r) next, objects => eval reply (next (reply r)) objects
  | .ask (.inr (.create value)) next, objects =>
    eval reply (next objects.length) (objects ++ [value])
  | .ask (.inr (.read ref)) next, objects => eval reply (next objects[ref]?) objects
  | .ask (.inr (.write ref value)) next, objects => eval reply (next ()) (objects.set ref value)

@[simp] theorem eval_ofExcept {x : Except ε α} :
    eval reply (ofExcept x : Program (I.sum (Objects V)) ε α) objects = (x, objects) := rfl

theorem eval_bind_ok {p : Program (I.sum (Objects V)) ε α}
    {f : α → Program (I.sum (Objects V)) ε β} {a : α}
    (h : eval reply p objects = (.ok a, objects')) :
    eval reply (Program.bind p f) objects = eval reply (f a) objects' := by
  induction p generalizing objects with
  | done x =>
    obtain ⟨rfl, rfl⟩ := Prod.mk.inj h
    rfl
  | ask r next ih =>
    rcases r with r | r
    · exact ih _ h
    cases r with
    | create value => exact ih _ h
    | read ref => exact ih _ h
    | write ref value => exact ih _ h

theorem eval_bind_error {p : Program (I.sum (Objects V)) ε α}
    {f : α → Program (I.sum (Objects V)) ε β} {e : ε}
    (h : eval reply p objects = (.error e, objects')) :
    eval reply (Program.bind p f) objects = (.error e, objects') := by
  induction p generalizing objects with
  | done x =>
    obtain ⟨rfl, rfl⟩ := Prod.mk.inj h
    rfl
  | ask r next ih =>
    rcases r with r | r
    · exact ih _ h
    cases r with
    | create value => exact ih _ h
    | read ref => exact ih _ h
    | write ref value => exact ih _ h

theorem eval_getObject {missing : ε} {ref : ℕ} {value : V} (h : objects[ref]? = some value) :
    eval reply (getObject missing ref : Program (I.sum (Objects V)) ε V) objects =
      (.ok value, objects) := by
  show ((objects[ref]?).elim (.error missing) Except.ok, objects) = _
  rw [h]
  rfl

@[simp] theorem eval_setObject (ref : ℕ) (value : V) :
    eval reply (setObject ref value : Program (I.sum (Objects V)) ε Unit) objects =
      (.ok (), objects.set ref value) := rfl

/-- A program that uses no objects comes to what it comes to without them. -/
theorem eval_withObjects (p : Program I ε α) :
    eval reply (withObjects p : Program (I.sum (Objects V)) ε α) objects =
      (answer reply p, objects) := by
  induction p with
  | done x => rfl
  | ask r next ih => exact ih (reply r)

end eval

end Memory

end SmartAccountKit.Lib
