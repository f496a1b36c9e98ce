import Mathlib.Logic.Function.Basic

/-!
# Programs of atomic statements

A handler that talks to a database, a queue and a provider is a tree of *statements*.
A statement is what the outside sees in one piece: it reads the store, changes it and
answers, all at once, and between two statements of one handler any number of
statements of other handlers may run. What is not a statement is local: plain
computation costs nothing, and a *silent* step draws on the store (a fresh name, the
clock) without the outside noticing and without any way to fail.

A statement may go wrong. It then takes its `refused` branch, and the handler reads
that as an exception. Whether the store was changed all the same is decided by who
runs the program (`MailRuntime.Interaction.Schedule`), not by the program.

## What is proved

`Prog` is a lawful monad with exceptions, `tryCatch` being the source's `try … catch`.
`run` is the program run alone with nothing going wrong; it goes through `bind`,
`tryCatch` and `perform` by simp. `Each` says that every statement of a program has a
property, and is what a frame lemma about a program is stated with.
-/

namespace MailRuntime.Interaction

/-- Programs over stores `σ`, whose statements carry labels `Λ`, that answer an `α` or
throw an `ε`. A statement's label is computed from the store it finds. -/
inductive Prog (σ Λ ε α : Type) where
  /-- The program is over, with an answer. -/
  | ret (a : α)
  /-- The program is over, with an exception. -/
  | throw (e : ε)
  /-- A silent step, which cannot fail. -/
  | tau (run : σ → σ) (next : σ → Prog σ Λ ε α)
  /-- A statement; `next` is given the store it found. -/
  | stmt (name : σ → Λ) (run : σ → σ) (next : σ → Prog σ Λ ε α) (refused : Prog σ Λ ε α)

namespace Prog

variable {σ Λ ε ε' α β γ : Type}

/-- `p`, then `f` of its answer. -/
def bind : Prog σ Λ ε α → (α → Prog σ Λ ε β) → Prog σ Λ ε β
  | ret a, f => f a
  | throw e, _ => throw e
  | tau run next, f => tau run fun s => (next s).bind f
  | stmt name run next refused, f =>
    stmt name run (fun s => (next s).bind f) (refused.bind f)

/-- `try p catch e => h e`; the exceptions of `h` need not be of the type of those of `p`. -/
def tryCatch : Prog σ Λ ε α → (ε → Prog σ Λ ε' α) → Prog σ Λ ε' α
  | ret a, _ => ret a
  | throw e, h => h e
  | tau run next, h => tau run fun s => (next s).tryCatch h
  | stmt name run next refused, h =>
    stmt name run (fun s => (next s).tryCatch h) (refused.tryCatch h)

instance : Monad (Prog σ Λ ε) where
  pure := ret
  bind := bind

instance : MonadExceptOf ε (Prog σ Λ ε) where
  throw := throw
  tryCatch := tryCatch

@[simp] theorem pure_eq (a : α) : (pure a : Prog σ Λ ε α) = ret a := rfl

@[simp] theorem throw_eq (e : ε) : (MonadExcept.throw e : Prog σ Λ ε α) = throw e := rfl

@[simp] theorem tryCatch_eq (p : Prog σ Λ ε α) (h : ε → Prog σ Λ ε α) :
    MonadExcept.tryCatch p h = p.tryCatch h := rfl

theorem bind_eq (p : Prog σ Λ ε α) (f : α → Prog σ Λ ε β) : p >>= f = p.bind f := rfl

theorem bind_ret (p : Prog σ Λ ε α) : p.bind ret = p := by
  induction p with
  | ret a => rfl
  | throw e => rfl
  | tau run next ih => simp only [bind, ih]
  | stmt name run next refused ihn ihr => simp only [bind, ihn, ihr]

theorem bind_assoc (p : Prog σ Λ ε α) (f : α → Prog σ Λ ε β) (g : β → Prog σ Λ ε γ) :
    (p.bind f).bind g = p.bind fun a => (f a).bind g := by
  induction p with
  | ret a => rfl
  | throw e => rfl
  | tau run next ih => simp only [bind, ih]
  | stmt name run next refused ihn ihr => simp only [bind, ihn, ihr]

instance : LawfulMonad (Prog σ Λ ε) :=
  LawfulMonad.mk' (Prog σ Λ ε) (fun p => bind_ret p) (fun _ _ => rfl)
    (fun p f g => bind_assoc p f g)

/-- The statement that answers and stores what `f` says, and throws `e` when refused. -/
def perform (name : σ → Λ) (f : σ → α × σ) (e : ε) : Prog σ Λ ε α :=
  stmt name (fun s => (f s).2) (fun s => ret (f s).1) (throw e)

/-- The silent step that answers and stores what `f` says. -/
def draw (f : σ → α × σ) : Prog σ Λ ε α := tau (fun s => (f s).2) fun s => ret (f s).1

/-- The program is over. -/
def ended : Prog σ Λ ε α → Bool
  | ret _ | throw _ => true
  | tau _ _ | stmt _ _ _ _ => false

theorem ended_cases {p : Prog σ Λ ε α} (h : p.ended = true) :
    (∃ a, p = ret a) ∨ ∃ e, p = throw e := by
  cases p with
  | ret a => exact .inl ⟨a, rfl⟩
  | throw e => exact .inr ⟨e, rfl⟩
  | tau run next => cases h
  | stmt name run next refused => cases h

/-- The answer of a program that is over. -/
def answer : Prog σ Λ ε α → Option α
  | ret a => some a
  | throw _ | tau _ _ | stmt _ _ _ _ => none

theorem answer_eq_some {p : Prog σ Λ ε α} {a : α} : p.answer = some a ↔ p = ret a := by
  cases p <;> simp [answer]

/-! ### Running alone -/

/-- The program run alone, every statement carried out: its answer or exception, and
the store it leaves. -/
def run : Prog σ Λ ε α → σ → Except ε α × σ
  | ret a, s => (.ok a, s)
  | throw e, s => (.error e, s)
  | tau run next, s => (next s).run (run s)
  | stmt _ run next _, s => (next s).run (run s)

@[simp] theorem run_ret (a : α) (s : σ) : (ret a : Prog σ Λ ε α).run s = (.ok a, s) := rfl

@[simp] theorem run_throw (e : ε) (s : σ) : (throw e : Prog σ Λ ε α).run s = (.error e, s) := rfl

@[simp] theorem run_perform (name : σ → Λ) (f : σ → α × σ) (e : ε) (s : σ) :
    (perform name f e).run s = (.ok (f s).1, (f s).2) := rfl

@[simp] theorem run_draw (f : σ → α × σ) (s : σ) :
    (draw f : Prog σ Λ ε α).run s = (.ok (f s).1, (f s).2) := rfl

/-- What a run goes on with after `p`. -/
def andThen (r : Except ε α × σ) (f : α → Prog σ Λ ε β) : Except ε β × σ :=
  match r with
  | (.ok a, s) => (f a).run s
  | (.error e, s) => (.error e, s)

/-- What a run goes on with after a guarded `p`. -/
def orElse (r : Except ε α × σ) (h : ε → Prog σ Λ ε' α) : Except ε' α × σ :=
  match r with
  | (.ok a, s) => (.ok a, s)
  | (.error e, s) => (h e).run s

@[simp] theorem andThen_ok (a : α) (s : σ) (f : α → Prog σ Λ ε β) :
    andThen (.ok a, s) f = (f a).run s := rfl

@[simp] theorem andThen_error (e : ε) (s : σ) (f : α → Prog σ Λ ε β) :
    andThen (.error e, s) f = (.error e, s) := rfl

@[simp] theorem orElse_ok (a : α) (s : σ) (h : ε → Prog σ Λ ε' α) :
    orElse (.ok a, s) h = (.ok a, s) := rfl

@[simp] theorem orElse_error (e : ε) (s : σ) (h : ε → Prog σ Λ ε' α) :
    orElse (.error e, s) h = (h e).run s := rfl

theorem run_bind' (p : Prog σ Λ ε α) (f : α → Prog σ Λ ε β) (s : σ) :
    (p.bind f).run s = andThen (p.run s) f := by
  induction p generalizing s with
  | ret a => rfl
  | throw e => rfl
  | tau run next ih => exact ih s _
  | stmt name run next refused ih _ => exact ih s _

@[simp] theorem run_bind (p : Prog σ Λ ε α) (f : α → Prog σ Λ ε β) (s : σ) :
    (p >>= f).run s = andThen (p.run s) f := run_bind' p f s

/-- A run that answers went through an answer of its first part. -/
theorem run_bind_ok {p : Prog σ Λ ε α} {f : α → Prog σ Λ ε β} {s s' : σ} {b : β}
    (h : (p >>= f).run s = (.ok b, s')) :
    ∃ a s₁, p.run s = (.ok a, s₁) ∧ (f a).run s₁ = (.ok b, s') := by
  rw [run_bind] at h
  rcases hp : p.run s with ⟨_ | a, s₁⟩
  · rw [hp, andThen_error] at h
    cases h
  · rw [hp, andThen_ok] at h
    exact ⟨a, s₁, rfl, h⟩

@[simp] theorem run_map (p : Prog σ Λ ε α) (f : α → β) (s : σ) :
    (f <$> p).run s = andThen (p.run s) fun a => (ret (f a) : Prog σ Λ ε β) := run_bind' p _ s

@[simp] theorem run_tryCatch (p : Prog σ Λ ε α) (h : ε → Prog σ Λ ε' α) (s : σ) :
    (p.tryCatch h).run s = orElse (p.run s) h := by
  induction p generalizing s with
  | ret a => rfl
  | throw e => rfl
  | tau run next ih => exact ih s _
  | stmt name run next refused ih _ => exact ih s _

/-! ### Every statement of a program -/

/-- Every silent step of the program is in `T` and every statement in `S`, along every
branch. -/
def Each (T : (σ → σ) → Prop) (S : (σ → Λ) → (σ → σ) → Prop) : Prog σ Λ ε α → Prop
  | ret _ | throw _ => True
  | tau run next => T run ∧ ∀ s, (next s).Each T S
  | stmt name run next refused => S name run ∧ (∀ s, (next s).Each T S) ∧ refused.Each T S

variable {T T' : (σ → σ) → Prop} {S S' : (σ → Λ) → (σ → σ) → Prop}

@[simp] theorem each_ret (a : α) : (ret a : Prog σ Λ ε α).Each T S := trivial

@[simp] theorem each_throw (e : ε) : (throw e : Prog σ Λ ε α).Each T S := trivial

@[simp] theorem each_perform {name : σ → Λ} {f : σ → α × σ} {e : ε} :
    (perform name f e).Each T S ↔ S name fun s => (f s).2 := by
  simp [perform, Each]

@[simp] theorem each_draw {f : σ → α × σ} :
    (draw f : Prog σ Λ ε α).Each T S ↔ T fun s => (f s).2 := by
  simp [draw, Each]

theorem Each.bind {p : Prog σ Λ ε α} {f : α → Prog σ Λ ε β} (hp : p.Each T S)
    (hf : ∀ a, (f a).Each T S) : (p >>= f).Each T S := by
  induction p with
  | ret a => exact hf a
  | throw e => trivial
  | tau run next ih => exact ⟨hp.1, fun s => ih s (hp.2 s)⟩
  | stmt name run next refused ihn ihr =>
    exact ⟨hp.1, fun s => ihn s (hp.2.1 s), ihr hp.2.2⟩

theorem Each.map {p : Prog σ Λ ε α} {f : α → β} (hp : p.Each T S) : (f <$> p).Each T S :=
  Each.bind hp fun a => each_ret (f a)

theorem Each.tryCatch {p : Prog σ Λ ε α} {h : ε → Prog σ Λ ε' α} (hp : p.Each T S)
    (hh : ∀ e, (h e).Each T S) : (p.tryCatch h).Each T S := by
  induction p with
  | ret a => trivial
  | throw e => exact hh e
  | tau run next ih => exact ⟨hp.1, fun s => ih s (hp.2 s)⟩
  | stmt name run next refused ihn ihr =>
    exact ⟨hp.1, fun s => ihn s (hp.2.1 s), ihr hp.2.2⟩

theorem Each.mono {p : Prog σ Λ ε α} (hp : p.Each T S) (hT : ∀ r, T r → T' r)
    (hS : ∀ n r, S n r → S' n r) : p.Each T' S' := by
  induction p with
  | ret a => trivial
  | throw e => trivial
  | tau run next ih => exact ⟨hT _ hp.1, fun s => ih s (hp.2 s)⟩
  | stmt name run next refused ihn ihr =>
    exact ⟨hS _ _ hp.1, fun s => ihn s (hp.2.1 s), ihr hp.2.2⟩

theorem Each.and {p : Prog σ Λ ε α} (hp : p.Each T S) (hp' : p.Each T' S') :
    p.Each (fun r => T r ∧ T' r) fun n r => S n r ∧ S' n r := by
  induction p with
  | ret a => trivial
  | throw e => trivial
  | tau run next ih => exact ⟨⟨hp.1, hp'.1⟩, fun s => ih s (hp.2 s) (hp'.2 s)⟩
  | stmt name run next refused ihn ihr =>
    exact ⟨⟨hp.1, hp'.1⟩, fun s => ihn s (hp.2.1 s) (hp'.2.1 s), ihr hp.2.2 hp'.2.2⟩

/-- The store that a statement found is known to what comes after it. -/
theorem Each.bind_perform {name : σ → Λ} {f : σ → α × σ} {e : ε} {g : α → Prog σ Λ ε β}
    (hf : S name fun s => (f s).2) (hg : ∀ s, (g (f s).1).Each T S) :
    (perform name f e >>= g).Each T S := ⟨hf, hg, trivial⟩

/-- **Frame rule**: what every silent step and every statement preserves, a run does. -/
theorem Each.run {R : σ → σ → Prop} (hrefl : ∀ s, R s s)
    (htrans : ∀ s t u, R s t → R t u → R s u) {p : Prog σ Λ ε α}
    (hp : p.Each (fun r => ∀ s, R s (r s)) fun _ r => ∀ s, R s (r s)) (s : σ) :
    R s (p.run s).2 := by
  induction p generalizing s with
  | ret a => exact hrefl s
  | throw e => exact hrefl s
  | tau run next ih => exact htrans _ _ _ (hp.1 s) (ih s (hp.2 s) _)
  | stmt name run next refused ih _ => exact htrans _ _ _ (hp.1 s) (ih s (hp.2.1 s) _)

/-! ### Exceptions -/

/-- Every exception the program throws is in `B`. -/
def Throws (B : ε → Prop) : Prog σ Λ ε α → Prop
  | ret _ => True
  | throw e => B e
  | tau _ next => ∀ s, (next s).Throws B
  | stmt _ _ next refused => (∀ s, (next s).Throws B) ∧ refused.Throws B

theorem throws_perform {B : ε → Prop} {name : σ → Λ} {f : σ → α × σ} {e : ε} (h : B e) :
    (perform name f e).Throws B := ⟨fun _ => trivial, h⟩

theorem throws_draw {B : ε → Prop} {f : σ → α × σ} : (draw f : Prog σ Λ ε α).Throws B :=
  fun _ => trivial

theorem Throws.bind {B : ε → Prop} {p : Prog σ Λ ε α} {f : α → Prog σ Λ ε β} (hp : p.Throws B)
    (hf : ∀ a, (f a).Throws B) : (p >>= f).Throws B := by
  induction p with
  | ret a => exact hf a
  | throw e => exact hp
  | tau run next ih => exact fun s => ih s (hp s)
  | stmt name run next refused ihn ihr => exact ⟨fun s => ihn s (hp.1 s), ihr hp.2⟩

/-! ### Answers -/

/-- Every answer of the program is in `B`. -/
def Returns (B : α → Prop) : Prog σ Λ ε α → Prop
  | ret a => B a
  | throw _ => True
  | tau _ next => ∀ s, (next s).Returns B
  | stmt _ _ next refused => (∀ s, (next s).Returns B) ∧ refused.Returns B

theorem Returns.bind {B : α → Prop} {C : β → Prop} {p : Prog σ Λ ε α} {f : α → Prog σ Λ ε β}
    (hp : p.Returns B) (hf : ∀ a, B a → (f a).Returns C) : (p >>= f).Returns C := by
  induction p with
  | ret a => exact hf a hp
  | throw e => trivial
  | tau run next ih => exact fun s => ih s (hp s)
  | stmt name run next refused ihn ihr => exact ⟨fun s => ihn s (hp.1 s), ihr hp.2⟩

theorem returns_true (p : Prog σ Λ ε α) : p.Returns fun _ => True := by
  induction p with
  | ret a => trivial
  | throw e => trivial
  | tau run next ih => exact ih
  | stmt name run next refused ihn ihr => exact ⟨ihn, ihr⟩

/-- What comes after a program need only be considered for the answers it gives. -/
theorem Each.bind_returns {B : α → Prop} {p : Prog σ Λ ε α} {f : α → Prog σ Λ ε β}
    (hp : p.Each T S) (hB : p.Returns B) (hf : ∀ a, B a → (f a).Each T S) : (p >>= f).Each T S := by
  induction p with
  | ret a => exact hf a hB
  | throw e => trivial
  | tau run next ih => exact ⟨hp.1, fun s => ih s (hp.2 s) (hB s)⟩
  | stmt name run next refused ihn ihr =>
    exact ⟨hp.1, fun s => ihn s (hp.2.1 s) (hB.1 s), ihr hp.2.2 hB.2⟩

/-! ### Programs that only read -/

/-- The program takes no silent step and changes nothing, and no exception is handled. -/
def Reads : Prog σ Λ ε α → Prop
  | ret _ | throw _ => True
  | tau _ _ => False
  | stmt _ run next refused => run = id ∧ (∃ e, refused = throw e) ∧ ∀ s, (next s).Reads

@[simp] theorem reads_ret (a : α) : (ret a : Prog σ Λ ε α).Reads := trivial

@[simp] theorem reads_throw (e : ε) : (throw e : Prog σ Λ ε α).Reads := trivial

theorem Reads.bind {p : Prog σ Λ ε α} {f : α → Prog σ Λ ε β} (hp : p.Reads)
    (hf : ∀ a, (f a).Reads) : (p >>= f).Reads := by
  induction p with
  | ret a => exact hf a
  | throw e => trivial
  | tau run next _ => exact hp.elim
  | stmt name run next refused ih _ =>
    obtain ⟨hrun, ⟨e, rfl⟩, hnext⟩ := hp
    exact ⟨hrun, ⟨e, rfl⟩, fun s => ih s (hnext s)⟩

theorem Reads.run_snd {p : Prog σ Λ ε α} (hp : p.Reads) (s : σ) : (p.run s).2 = s := by
  induction p generalizing s with
  | ret a => rfl
  | throw e => rfl
  | tau run next _ => exact hp.elim
  | stmt name run next refused ih _ =>
    obtain ⟨rfl, -, hnext⟩ := hp
    exact ih s (hnext s) s

/-- A run that answers went through an answer of its first part, which left the store alone. -/
theorem Reads.run_bind_ok {p : Prog σ Λ ε α} {f : α → Prog σ Λ ε β} (hp : p.Reads) {s s' : σ}
    {b : β} (h : (p >>= f).run s = (.ok b, s')) :
    ∃ a, p.run s = (.ok a, s) ∧ (f a).run s = (.ok b, s') := by
  obtain ⟨a, s₁, hfirst, hrest⟩ := Prog.run_bind_ok h
  have hstore := hp.run_snd s
  rw [hfirst] at hstore
  obtain rfl : s₁ = s := hstore
  exact ⟨a, hfirst, hrest⟩

section ReadsOnly

variable {τ : Type} {view : σ → τ}

/-- The program only reads, and what it does depends on nothing but a view of the store. -/
def ReadsOnly (view : σ → τ) : Prog σ Λ ε α → Prop
  | ret _ | throw _ => True
  | tau _ _ => False
  | stmt _ run next refused => run = id ∧ (∃ e, refused = throw e) ∧
      (∀ s s', view s = view s' → next s = next s') ∧ ∀ s, (next s).ReadsOnly view

@[simp] theorem readsOnly_ret (a : α) : (ret a : Prog σ Λ ε α).ReadsOnly view := trivial

@[simp] theorem readsOnly_throw (e : ε) : (throw e : Prog σ Λ ε α).ReadsOnly view := trivial

theorem ReadsOnly.bind {p : Prog σ Λ ε α} {f : α → Prog σ Λ ε β} (hp : p.ReadsOnly view)
    (hf : ∀ a, (f a).ReadsOnly view) : (p >>= f).ReadsOnly view := by
  induction p with
  | ret a => exact hf a
  | throw e => trivial
  | tau run next _ => exact hp.elim
  | stmt name run next refused ih _ =>
    obtain ⟨hrun, ⟨e, rfl⟩, hview, hnext⟩ := hp
    refine ⟨hrun, ⟨e, rfl⟩, fun s s' h => ?_, fun s => ih s (hnext s)⟩
    change (next s).bind f = (next s').bind f
    rw [hview s s' h]

theorem ReadsOnly.reads {p : Prog σ Λ ε α} (hp : p.ReadsOnly view) : p.Reads := by
  induction p with
  | ret a => trivial
  | throw e => trivial
  | tau run next _ => exact hp.elim
  | stmt name run next refused ih _ => exact ⟨hp.1, hp.2.1, fun s => ih s (hp.2.2.2 s)⟩

/-- **Frame rule**: stores that look alike give one answer. -/
theorem ReadsOnly.run_fst {p : Prog σ Λ ε α} (hp : p.ReadsOnly view) {s s' : σ}
    (h : view s = view s') : (p.run s).1 = (p.run s').1 := by
  induction p with
  | ret a => rfl
  | throw e => rfl
  | tau run next _ => exact hp.elim
  | stmt name run next refused ih _ =>
    obtain ⟨rfl, -, hview, hnext⟩ := hp
    simp only [run, id, hview s s' h]
    exact ih s' (hnext s')

/-- An answer found in one store is found in every store that looks like it. -/
theorem ReadsOnly.run_of_run {p : Prog σ Λ ε α} (hp : p.ReadsOnly view) {s s' : σ} {a : α}
    (h : view s = view s') (hrun : p.run s = (.ok a, s)) : p.run s' = (.ok a, s') := by
  have hanswer := hp.run_fst h
  rw [hrun] at hanswer
  exact Prod.ext hanswer.symm (hp.reads.run_snd s')

end ReadsOnly

end Prog

end MailRuntime.Interaction
