import MailRuntime.Interaction.Prog
import Mathlib.Data.Fintype.Basic

/-!
# Interleaving

Several programs run on one store. A schedule says, step by step, whose turn it is and
what becomes of the statement it is at: it is carried out and answers (`done`), it is
refused with the store untouched (`refused`), or it is carried out and its answer is
lost (`lost`), which its program cannot tell from a refusal. A program whose turn never
comes again has crashed.

The world keeps, beside the store, the trace of all statements so far, newest first.
Nothing in a program reads the trace; it is what statements about runs speak of, and
what a condition on the environment is stated with: `Meets` says that every statement
of a run was allowed, in the world it found, to end as it did.
-/

namespace MailRuntime.Interaction

/-- What becomes of a statement. -/
inductive Outcome where
  /-- Carried out, and answered. -/
  | done
  /-- Not carried out, and answered by an exception. -/
  | refused
  /-- Carried out, and answered by an exception all the same. -/
  | lost
deriving DecidableEq, Repr

/-- The statement had its effect on the store. -/
def Outcome.effective : Outcome → Bool
  | done | lost => true
  | refused => false

/-- A statement of a run: whose it was, what it was and what became of it. -/
structure Event (ι Λ : Type) where
  thread : ι
  label : Λ
  outcome : Outcome
deriving DecidableEq, Repr

/-- So many steps of `i`, all carried out. -/
def turns {ι : Type} (i : ι) (n : Nat) : List (ι × Outcome) := List.replicate n (i, .done)

/-- The store, and the trace of the run so far, newest first. -/
structure World (ι σ Λ : Type) where
  store : σ
  trace : List (Event ι Λ)

namespace World

variable {ι σ Λ : Type}

/-- The world after a silent step. -/
def silent (w : World ι σ Λ) (run : σ → σ) : World ι σ Λ := { w with store := run w.store }

/-- The world after `i`'s statement. -/
def after (w : World ι σ Λ) (i : ι) (name : σ → Λ) (run : σ → σ) (o : Outcome) : World ι σ Λ where
  store := if o.effective then run w.store else w.store
  trace := ⟨i, name w.store, o⟩ :: w.trace

variable (w : World ι σ Λ) (i : ι) (name : σ → Λ) (run : σ → σ)

@[simp] theorem silent_store : (w.silent run).store = run w.store := rfl

@[simp] theorem silent_trace : (w.silent run).trace = w.trace := rfl

@[simp] theorem after_trace (o : Outcome) :
    (w.after i name run o).trace = ⟨i, name w.store, o⟩ :: w.trace := rfl

@[simp] theorem after_done_store : (w.after i name run .done).store = run w.store := rfl

@[simp] theorem after_lost_store : (w.after i name run .lost).store = run w.store := rfl

@[simp] theorem after_refused_store : (w.after i name run .refused).store = w.store := rfl

theorem after_store (o : Outcome) :
    (w.after i name run o).store = if o.effective then run w.store else w.store := rfl

/-- A statement that changes nothing. -/
theorem after_id_store (o : Outcome) : (w.after i name id o).store = w.store := by
  rw [after_store]
  exact ite_self _

/-- A world that differs by nothing but statements that keep a property of the store
keeps it, whatever became of them. -/
theorem after_store_of {p : σ → Prop} {o : Outcome} (h : p w.store) (hrun : p (run w.store)) :
    p (w.after i name run o).store := by
  cases o <;> simpa

end World

/-- What the newest statement says, of those with `news`; `false` if none does. -/
def latest {ι Λ : Type} (news : Event ι Λ → Option Bool) : List (Event ι Λ) → Bool
  | [] => false
  | e :: rest => (news e).getD (latest news rest)

@[simp] theorem latest_nil {ι Λ : Type} (news : Event ι Λ → Option Bool) :
    latest news [] = false := rfl

theorem latest_cons {ι Λ : Type} (news : Event ι Λ → Option Bool) (e : Event ι Λ)
    (rest : List (Event ι Λ)) :
    latest news (e :: rest) = (news e).getD (latest news rest) := rfl

theorem latest_cons_none {ι Λ : Type} {news : Event ι Λ → Option Bool} {e : Event ι Λ}
    (h : news e = none) (rest : List (Event ι Λ)) :
    latest news (e :: rest) = latest news rest := by rw [latest_cons, h, Option.getD_none]

theorem latest_cons_some {ι Λ : Type} {news : Event ι Λ → Option Bool} {e : Event ι Λ} {b : Bool}
    (h : news e = some b) (rest : List (Event ι Λ)) : latest news (e :: rest) = b := by
  rw [latest_cons, h, Option.getD_some]

/-- A world, and what is left of each thread's program. -/
structure Config (ι σ Λ ε ρ : Type) where
  world : World ι σ Λ
  threads : ι → Prog σ Λ ε ρ

namespace Config

variable {ι σ Λ ε ρ : Type} [DecidableEq ι]

/-- `i`'s next step, its statement ending with `o`. A thread that is over takes none. -/
def step (c : Config ι σ Λ ε ρ) (i : ι) (o : Outcome) : Config ι σ Λ ε ρ :=
  match c.threads i with
  | .ret _ | .throw _ => c
  | .tau run next => ⟨c.world.silent run, Function.update c.threads i (next c.world.store)⟩
  | .stmt name run next refused =>
    ⟨c.world.after i name run o,
      Function.update c.threads i (match o with
        | .done => next c.world.store
        | .refused | .lost => refused)⟩

/-- The run of a schedule. -/
def exec (c : Config ι σ Λ ε ρ) : List (ι × Outcome) → Config ι σ Λ ε ρ
  | [] => c
  | (i, o) :: rest => (c.step i o).exec rest

@[simp] theorem exec_nil (c : Config ι σ Λ ε ρ) : c.exec [] = c := rfl

@[simp] theorem exec_cons (c : Config ι σ Λ ε ρ) (i : ι) (o : Outcome)
    (rest : List (ι × Outcome)) : c.exec ((i, o) :: rest) = (c.step i o).exec rest := rfl

theorem exec_append (c : Config ι σ Λ ε ρ) (l l' : List (ι × Outcome)) :
    c.exec (l ++ l') = (c.exec l).exec l' := by
  induction l generalizing c with
  | nil => rfl
  | cons t rest ih => exact ih _

/-- If `i`'s next step is a statement, `allow` lets it end with `o` in this world. -/
def Allows (allow : ι → World ι σ Λ → Λ → Outcome → Prop) (c : Config ι σ Λ ε ρ) (i : ι)
    (o : Outcome) : Prop :=
  match c.threads i with
  | .stmt name _ _ _ => allow i c.world (name c.world.store) o
  | .ret _ | .throw _ | .tau _ _ => True

/-- Every statement of the run is allowed to end as the schedule has it end. -/
def Meets (allow : ι → World ι σ Λ → Λ → Outcome → Prop) :
    Config ι σ Λ ε ρ → List (ι × Outcome) → Prop
  | _, [] => True
  | c, (i, o) :: rest => c.Allows allow i o ∧ (c.step i o).Meets allow rest

instance decidableAllows (allow : ι → World ι σ Λ → Λ → Outcome → Prop)
    [∀ i w l o, Decidable (allow i w l o)] (c : Config ι σ Λ ε ρ) (i : ι) (o : Outcome) :
    Decidable (c.Allows allow i o) := by
  unfold Allows
  cases c.threads i <;> infer_instance

instance decidableMeets (allow : ι → World ι σ Λ → Λ → Outcome → Prop)
    [∀ i w l o, Decidable (allow i w l o)] :
    ∀ (l : List (ι × Outcome)) (c : Config ι σ Λ ε ρ), Decidable (c.Meets allow l)
  | [], _ => isTrue trivial
  | (i, o) :: rest, c =>
    have := decidableMeets allow rest (c.step i o)
    inferInstanceAs (Decidable (_ ∧ _))

/-- A run that meets a condition meets a weaker one. -/
theorem Meets.mono {allow allow' : ι → World ι σ Λ → Λ → Outcome → Prop}
    (h : ∀ i w l o, allow i w l o → allow' i w l o) {schedule : List (ι × Outcome)}
    {c : Config ι σ Λ ε ρ} (hc : c.Meets allow schedule) : c.Meets allow' schedule := by
  induction schedule generalizing c with
  | nil => trivial
  | cons t rest ih =>
    refine ⟨?_, ih hc.2⟩
    have hstep := hc.1
    rw [Allows] at hstep ⊢
    split
    · next hthread =>
      simp only [hthread] at hstep
      exact h _ _ _ _ hstep
    · trivial
    · trivial
    · trivial

/-- A run that meets two conditions meets both at once. -/
theorem Meets.and {allow allow' : ι → World ι σ Λ → Λ → Outcome → Prop}
    {schedule : List (ι × Outcome)} {c : Config ι σ Λ ε ρ} (hc : c.Meets allow schedule)
    (hc' : c.Meets allow' schedule) :
    c.Meets (fun i w l o => allow i w l o ∧ allow' i w l o) schedule := by
  induction schedule generalizing c with
  | nil => trivial
  | cons t rest ih =>
    refine ⟨?_, ih hc.2 hc'.2⟩
    have hstep := hc.1
    have hstep' := hc'.1
    rw [Allows] at hstep hstep' ⊢
    split
    · next hthread =>
      simp only [hthread] at hstep hstep'
      exact ⟨hstep, hstep'⟩
    · trivial
    · trivial
    · trivial

theorem meets_append {allow : ι → World ι σ Λ → Λ → Outcome → Prop} (l l' : List (ι × Outcome))
    (c : Config ι σ Λ ε ρ) :
    c.Meets allow (l ++ l') ↔ c.Meets allow l ∧ (c.exec l).Meets allow l' := by
  induction l generalizing c with
  | nil => exact (and_iff_right trivial).symm
  | cons t rest ih => exact (and_congr_right fun _ => ih _).trans and_assoc.symm

/-- A condition that everything meets. -/
theorem meets_of_all {allow : ι → World ι σ Λ → Λ → Outcome → Prop} (h : ∀ i w l o, allow i w l o)
    (schedule : List (ι × Outcome)) (c : Config ι σ Λ ε ρ) : c.Meets allow schedule := by
  induction schedule generalizing c with
  | nil => trivial
  | cons t rest ih =>
    refine ⟨?_, ih _⟩
    rw [Allows]
    split
    · exact h _ _ _ _
    · trivial
    · trivial
    · trivial

/-- **Invariant rule**: what every step of every thread keeps, where its outcome is allowed,
holds after any allowed schedule. -/
theorem Meets.keep {T : (σ → σ) → Prop} {S : (σ → Λ) → (σ → σ) → Prop}
    {allow : ι → World ι σ Λ → Λ → Outcome → Prop} {A : World ι σ Λ → Prop}
    (hT : ∀ run, T run → ∀ w, A w → A (w.silent run))
    (hS : ∀ name run, S name run → ∀ i w o, allow i w (name w.store) o → A w →
      A (w.after i name run o))
    {schedule : List (ι × Outcome)} {c : Config ι σ Λ ε ρ}
    (hthreads : ∀ i, (c.threads i).Each T S) (hc : A c.world) (hmeets : c.Meets allow schedule) :
    A (c.exec schedule).world := by
  induction schedule generalizing c with
  | nil => exact hc
  | cons turn rest ih =>
    obtain ⟨i, o⟩ := turn
    obtain ⟨hallow, hrest⟩ := hmeets
    have hother : ∀ p : Prog σ Λ ε ρ, p.Each T S →
        ∀ k, (Function.update c.threads i p k).Each T S := by
      intro p hp k
      by_cases hk : k = i
      · subst hk
        rwa [Function.update_self]
      · rw [Function.update_of_ne hk]
        exact hthreads k
    have hi := hthreads i
    rw [exec_cons]
    refine ih ?_ ?_ hrest
    · rw [step]
      split
      · exact hthreads
      · exact hthreads
      · next hthread =>
        rw [hthread] at hi
        exact hother _ (hi.2 _)
      · next hthread =>
        rw [hthread] at hi
        cases o with
        | done => exact hother _ (hi.2.1 _)
        | refused => exact hother _ hi.2.2
        | lost => exact hother _ hi.2.2
    · rw [Allows] at hallow
      rw [step]
      split
      · exact hc
      · exact hc
      · next hthread =>
        rw [hthread] at hi
        exact hT _ hi.1 _ hc
      · next hthread =>
        rw [hthread] at hi
        simp only [hthread] at hallow
        exact hS _ _ hi.1 i _ o hallow hc

/-- The threads are all over. -/
def Finished (c : Config ι σ Λ ε ρ) : Prop := ∀ i, (c.threads i).ended = true

instance [Fintype ι] (c : Config ι σ Λ ε ρ) : Decidable c.Finished := by
  unfold Finished
  infer_instance

end Config

end MailRuntime.Interaction
