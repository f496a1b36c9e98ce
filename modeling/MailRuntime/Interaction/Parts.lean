import MailRuntime.Interaction.RelyGuarantee
import Mathlib.Data.Set.Insert

/-!
# Programs on a part of the store

A store may have a part that some programs are about and a rest that they know nothing of.
`Prog.zoom` makes a program on the part one on the whole. It labels every statement with the
part as the statement found it, so that the trace of a run remembers what each thread was
looking at when it was answered.

## What is proved

`Prog.Sees` says what an answer tells about the stores that were found on the way to it, whoever
changed the store in between; it goes through `bind` and `tryCatch` and has a rule for each kind
of step. What an answer tells of itself is that the program comes to it with those stores
(`Prog.sees_answers`). In a run of any threads, any statement of which may fail, what an answer tells
is true of stores that the run came through (`Config.sees_answer`); and an invariant that is
indifferent to the part and to a longer trace is kept by a zoomed program, and what an answer tells
is true of the parts that the thread found (`Protocol.safe_zoom`).
-/

namespace MailRuntime.Interaction

variable {ι σ τ Λ ε α β : Type}

namespace Prog

/-- The program on the whole store, each statement labelled with the part it found. -/
def zoom (get : τ → σ) (put : σ → τ → τ) : Prog σ Λ ε α → Prog τ σ ε α
  | ret a => ret a
  | throw e => throw e
  | tau run next =>
    tau (fun t => put (run (get t)) t) fun t => (next (get t)).zoom get put
  | stmt _ run next refused =>
    stmt get (fun t => put (run (get t)) t) (fun t => (next (get t)).zoom get put)
      (refused.zoom get put)

/-- Having found the parts in `seen`, the program comes to answers in `Q` only, with all that it
has found by then. -/
def Sees (Q : α → Set σ → Prop) : Prog σ Λ ε α → Set σ → Prop
  | ret a, seen => Q a seen
  | throw _, _ => True
  | tau _ next, seen => ∀ s, (next s).Sees Q seen
  | stmt _ _ next refused, seen =>
    (∀ s, (next s).Sees Q (insert s seen)) ∧ refused.Sees Q seen

variable {Q Q' : α → Set σ → Prop} {R : β → Set σ → Prop} {seen : Set σ}

@[simp] theorem sees_ret {a : α} : (ret a : Prog σ Λ ε α).Sees Q seen ↔ Q a seen := Iff.rfl

@[simp] theorem sees_throw {e : ε} : (throw e : Prog σ Λ ε α).Sees Q seen := trivial

theorem Sees.bind {p : Prog σ Λ ε α} {f : α → Prog σ Λ ε β} (hp : p.Sees Q seen)
    (hf : ∀ a seen, Q a seen → (f a).Sees R seen) : (p >>= f).Sees R seen := by
  induction p generalizing seen with
  | ret a => exact hf a seen hp
  | throw e => trivial
  | tau run next ih => exact fun s => ih s (hp s)
  | stmt name run next refused ihn ihr => exact ⟨fun s => ihn s (hp.1 s), ihr hp.2⟩

theorem Sees.mono {p : Prog σ Λ ε α} (hp : p.Sees Q seen) (h : ∀ a seen, Q a seen → Q' a seen) :
    p.Sees Q' seen := by
  induction p generalizing seen with
  | ret a => exact h a seen hp
  | throw e => trivial
  | tau run next ih => exact fun s => ih s (hp s)
  | stmt name run next refused ihn ihr => exact ⟨fun s => ihn s (hp.1 s), ihr hp.2⟩

/-- What was true of the parts found so far, and is of any more of them, stays so. -/
theorem Sees.keep {A : Set σ → Prop} (hA : ∀ s seen, A seen → A (insert s seen))
    {p : Prog σ Λ ε α} (hp : p.Sees Q seen) (ha : A seen) :
    p.Sees (fun a seen => Q a seen ∧ A seen) seen := by
  induction p generalizing seen with
  | ret a => exact ⟨hp, ha⟩
  | throw e => trivial
  | tau run next ih => exact fun s => ih s (hp s) ha
  | stmt name run next refused ihn ihr =>
    exact ⟨fun s => ihn s (hp.1 s) (hA s seen ha), ihr hp.2 ha⟩

/-- Nothing need be known of the answers. -/
theorem sees_any (p : Prog σ Λ ε α) (seen : Set σ) : p.Sees (fun _ _ => True) seen := by
  induction p generalizing seen with
  | ret a => trivial
  | throw e => trivial
  | tau run next ih => exact fun s => ih s seen
  | stmt name run next refused ihn ihr => exact ⟨fun s => ihn s _, ihr seen⟩

/-- What comes after a program whose answer tells nothing. -/
theorem Sees.after {p : Prog σ Λ ε α} {f : α → Prog σ Λ ε β}
    (h : ∀ a seen, (f a).Sees R seen) : (p >>= f).Sees R seen :=
  (sees_any p seen).bind fun a seen _ => h a seen

/-- What was found is not lost. -/
theorem Sees.kept {A : Set σ → Prop} (hA : ∀ s seen, A seen → A (insert s seen))
    (p : Prog σ Λ ε α) (ha : A seen) : p.Sees (fun _ => A) seen :=
  ((sees_any p seen).keep hA ha).mono fun _ _ h => h.2

theorem Sees.tryCatch {ε' : Type} {p : Prog σ Λ ε α} {h : ε → Prog σ Λ ε' α} (hp : p.Sees Q seen)
    (hh : ∀ e seen, (h e).Sees Q seen) : (p.tryCatch h).Sees Q seen := by
  induction p generalizing seen with
  | ret a => exact hp
  | throw e => exact hh e seen
  | tau run next ih => exact fun s => ih s (hp s)
  | stmt name run next refused ihn ihr => exact ⟨fun s => ihn s (hp.1 s), ihr hp.2⟩

/-- The program may come to the answer where its statements find stores in `seen`. -/
def Answers (a : α) (seen : Set σ) : Prog σ Λ ε α → Prop
  | ret b => b = a
  | throw _ => False
  | tau _ next => ∃ s, (next s).Answers a seen
  | stmt _ _ next refused => (∃ s ∈ seen, (next s).Answers a seen) ∨ refused.Answers a seen

theorem Answers.mono {a : α} {seen seen' : Set σ} (hsub : seen ⊆ seen') {p : Prog σ Λ ε α}
    (h : p.Answers a seen) : p.Answers a seen' := by
  induction p with
  | ret b => exact h
  | throw e => exact h
  | tau run next ih =>
    obtain ⟨s, h⟩ := h
    exact ⟨s, ih s h⟩
  | stmt name run next refused ihn ihr =>
    obtain ⟨s, hs, h⟩ | h := h
    · exact .inl ⟨s, hsub hs, ihn s h⟩
    · exact .inr (ihr h)

/-- The program comes to its answers with what it has found. -/
theorem sees_answers (p : Prog σ Λ ε α) (seen : Set σ) :
    p.Sees (fun a seen => p.Answers a seen) seen := by
  induction p generalizing seen with
  | ret a => exact rfl
  | throw e => trivial
  | tau run next ih => exact fun s => (ih s seen).mono fun a seen h => ⟨s, h⟩
  | stmt name run next refused ihn ihr =>
    refine ⟨fun s => ?_, (ihr seen).mono fun a seen h => .inr h⟩
    have hfound : (next s).Sees (fun a seen => (next s).Answers a seen ∧ s ∈ seen)
        (insert s seen) :=
      (ihn s _).keep (fun t seen h => Set.mem_insert_of_mem t h) (Set.mem_insert s seen)
    exact hfound.mono fun a seen h => .inl ⟨s, h.2, h.1⟩

end Prog

/-! ### The stores of a run -/

namespace Config

variable {ρ : Type} [DecidableEq ι] {c : Config ι σ Λ ε ρ} {i : ι} {Q : ρ → Set σ → Prop}
  {seen : Set σ}

/-- The stores that a run comes through. -/
def passed (c : Config ι σ Λ ε ρ) (schedule : List (ι × Outcome)) : Set σ :=
  {s | ∃ l, l <+: schedule ∧ (c.exec l).world.store = s}

theorem store_mem_passed (schedule : List (ι × Outcome)) :
    c.world.store ∈ c.passed schedule := ⟨[], List.nil_prefix, rfl⟩

theorem passed_step_subset (k : ι) (o : Outcome) (schedule : List (ι × Outcome)) :
    (c.step k o).passed schedule ⊆ c.passed ((k, o) :: schedule) := by
  rintro s ⟨l, hl, rfl⟩
  exact ⟨(k, o) :: l, List.cons_prefix_cons.2 ⟨rfl, hl⟩, rfl⟩

/-- A step, of whatever thread, adds the store before it to what a thread has found, or nothing. -/
theorem sees_step (h : (c.threads i).Sees Q seen) (k : ι) (o : Outcome) :
    ∃ seen' ⊆ insert c.world.store seen, ((c.step k o).threads i).Sees Q seen' := by
  have hold : seen ⊆ insert c.world.store seen := Set.subset_insert _ _
  rw [step]
  split
  · exact ⟨seen, hold, h⟩
  · exact ⟨seen, hold, h⟩
  · next hthread =>
    by_cases hk : i = k
    · subst hk
      rw [hthread] at h
      exact ⟨seen, hold, by simpa using h c.world.store⟩
    · exact ⟨seen, hold, by simpa [hk] using h⟩
  · next hthread =>
    by_cases hk : i = k
    · subst hk
      rw [hthread] at h
      cases o with
      | done => exact ⟨_, subset_rfl, by simpa using h.1 c.world.store⟩
      | refused => exact ⟨seen, hold, by simpa using h.2⟩
      | lost => exact ⟨seen, hold, by simpa using h.2⟩
    · exact ⟨seen, hold, by simpa [hk] using h⟩

theorem sees_exec (h : (c.threads i).Sees Q seen) (schedule : List (ι × Outcome)) :
    ∃ seen' ⊆ seen ∪ c.passed schedule, ((c.exec schedule).threads i).Sees Q seen' := by
  induction schedule generalizing c seen with
  | nil => exact ⟨seen, Set.subset_union_left, h⟩
  | cons turn rest ih =>
    obtain ⟨k, o⟩ := turn
    obtain ⟨seen₁, hseen₁, h⟩ := sees_step h k o
    obtain ⟨seen₂, hseen₂, h⟩ := ih h
    refine ⟨seen₂, hseen₂.trans (Set.union_subset (hseen₁.trans ?_) ?_), h⟩
    · exact Set.insert_subset (.inr (store_mem_passed _)) Set.subset_union_left
    · exact (passed_step_subset k o rest).trans Set.subset_union_right

/-- **What an answer tells** is true of stores that the run came through, whatever the other threads
did and whatever became of the statements. -/
theorem sees_answer (h : (c.threads i).Sees Q ∅) {schedule : List (ι × Outcome)} {a : ρ}
    (ha : ((c.exec schedule).threads i).answer = some a) :
    ∃ seen ⊆ c.passed schedule, Q a seen := by
  obtain ⟨seen, hseen, h⟩ := sees_exec h schedule
  rw [Prog.answer_eq_some.1 ha] at h
  exact ⟨seen, by rwa [Set.empty_union] at hseen, h⟩

end Config

/-! ### The threads of a part -/

/-- The parts that the answered statements of `i` found. -/
def World.found (w : World ι τ σ) (i : ι) : Set σ :=
  {s | ∃ e ∈ w.trace, e.thread = i ∧ e.outcome = .done ∧ e.label = s}

/-- What was found stays found. -/
theorem World.found_mono {w w' : World ι τ σ} {i : ι} (h : ∃ l, w'.trace = l ++ w.trace) :
    w.found i ⊆ w'.found i := by
  obtain ⟨l, hl⟩ := h
  rintro s ⟨e, he, hthread, hdone, hlabel⟩
  refine ⟨e, ?_, hthread, hdone, hlabel⟩
  rw [hl]
  exact List.mem_append_right l he

/-- The trace has grown, and so has a log that the store keeps, newest first. -/
structure World.Grown (log : τ → List β) (w w' : World ι τ σ) : Prop where
  trace : ∃ l, w'.trace = l ++ w.trace
  log : log w.store <:+ log w'.store

theorem World.Grown.refl (log : τ → List β) (w : World ι τ σ) : w.Grown log w :=
  ⟨⟨[], rfl⟩, List.suffix_refl _⟩

theorem World.Grown.trans {log : τ → List β} {w w' w'' : World ι τ σ} (h : w.Grown log w')
    (h' : w'.Grown log w'') : w.Grown log w'' := by
  obtain ⟨⟨l, hl⟩, hlog⟩ := h
  obtain ⟨⟨l', hl'⟩, hlog'⟩ := h'
  exact ⟨⟨l' ++ l, by rw [hl', hl, List.append_assoc]⟩, hlog.trans hlog'⟩

namespace Protocol

/-- An invariant in a run of any threads, of which nothing is known but that the trace grows and
that a log does. Any statement may fail. -/
def growing (log : τ → List β) (inv : World ι τ σ → Prop) : Protocol ι τ σ where
  inv := inv
  keeps := World.Grown log
  rely _ _ _ := True
  allow _ _ _ _ := True
  keeps_refl := World.Grown.refl log
  keeps_trans _ _ _ := World.Grown.trans
  rely_refl _ _ := trivial
  rely_trans _ _ _ _ _ _ := trivial

section

variable {log : τ → List β} {inv : World ι τ σ → Prop} {i : ι} {w w' : World ι τ σ}

theorem good_growing (hinv : inv w') (h : w.Grown log w') : (growing log inv).Good i w w' :=
  ⟨hinv, h, fun _ _ => trivial⟩

/-- The log is not in the part, and the invariant says nothing about the part and is not broken by
a longer trace. -/
structure Indifferent (log : τ → List β) (put : σ → τ → τ) (inv : World ι τ σ → Prop) : Prop where
  unlogged : ∀ s t, log (put s t) = log t
  kept : ∀ w w' : World ι τ σ, w.Grown log w' →
    w'.store = w.store ∨ (∃ s, w'.store = put s w.store) → inv w → inv w'

variable {get : τ → σ} {put : σ → τ → τ} {Q : α → Set σ → Prop} {seen : Set σ}

/-- What is done to the part leaves the log alone. -/
theorem Indifferent.grown (h : Indifferent log put inv) (htrace : ∃ l, w'.trace = l ++ w.trace)
    (hstore : w'.store = w.store ∨ ∃ s, w'.store = put s w.store) : w.Grown log w' := by
  refine ⟨htrace, ?_⟩
  obtain hstore | ⟨s, hstore⟩ := hstore
  · rw [hstore]
  · rw [hstore, h.unlogged]

/-- **A zoomed program** keeps the invariant, and what its answer tells is true of what it found,
whatever the other threads do. -/
theorem safe_zoom (hinv : Indifferent log put inv) {p : Prog σ Λ ε α} (hp : p.Sees Q seen)
    (hw : inv w) (hseen : seen ⊆ w.found i) :
    (growing log inv).Safe i (fun a w => ∃ seen, seen ⊆ w.found i ∧ Q a seen) (fun _ _ => True)
      (p.zoom get put) w := by
  induction p generalizing w seen with
  | ret a => exact ⟨seen, hseen, hp⟩
  | throw e => trivial
  | tau run next ih =>
    have hgrown : w.Grown log (w.silent fun t => put (run (get t)) t) :=
      hinv.grown ⟨[], rfl⟩ (.inr ⟨_, rfl⟩)
    have hgood : (growing log inv).Good i w (w.silent fun t => put (run (get t)) t) :=
      good_growing (hinv.kept _ _ hgrown (.inr ⟨_, rfl⟩) hw) hgrown
    exact ⟨hgood, fun w' hl => ih _ (hp _) hl.inv
      (hseen.trans (World.found_mono hl.keeps.trace))⟩
  | stmt name run next refused ihn ihr =>
    intro o _
    set w₁ := w.after i get (fun t => put (run (get t)) t) o with hafter
    have htrace : w₁.trace = ⟨i, get w.store, o⟩ :: w.trace := rfl
    have hlonger : ∃ l, w₁.trace = l ++ w.trace := ⟨[⟨i, get w.store, o⟩], htrace⟩
    have hstore : w₁.store = w.store ∨ ∃ s, w₁.store = put s w.store := by
      rw [hafter, World.after_store]
      split
      · exact .inr ⟨_, rfl⟩
      · exact .inl rfl
    have hgrown := hinv.grown hlonger hstore
    refine ⟨good_growing (hinv.kept _ _ hgrown hstore hw) hgrown, fun w' hl => ?_⟩
    have hlater : seen ⊆ w'.found i :=
      hseen.trans ((World.found_mono hlonger).trans (World.found_mono hl.keeps.trace))
    cases o with
    | done =>
      have hnew : get w.store ∈ w₁.found i :=
        ⟨⟨i, get w.store, .done⟩, by simp [htrace], rfl, rfl, rfl⟩
      refine ihn _ (hp.1 _) hl.inv (Set.insert_subset ?_ hlater)
      exact World.found_mono hl.keeps.trace hnew
    | refused => exact ihr hp.2 hl.inv hlater
    | lost => exact ihr hp.2 hl.inv hlater

/-- The same of a program that has found nothing yet. -/
theorem safe_zoom_start (hinv : Indifferent log put inv) {p : Prog σ Λ ε α} (hp : p.Sees Q ∅)
    (hw : inv w) : (growing log inv).Safe i (fun a w => ∃ seen, seen ⊆ w.found i ∧ Q a seen)
      (fun _ _ => True) (p.zoom get put) w :=
  safe_zoom hinv hp hw (Set.empty_subset _)

end

end Protocol

end MailRuntime.Interaction
