import MailRuntime.Interaction.Prog

/-!
# One failing statement

What becomes of a program run alone when one of its statements goes wrong. A `Strike`
is such a point: the statement, the store it finds, and how the run ends if it is
refused there, or carried out and its answer lost. `strikes` lists them along the run in
which nothing goes wrong; after a strike everything goes well again.

## What is proved

The strikes of a program put together from others are theirs, run on (`strikes_bind`,
`strikes_tryCatch`), and a single statement has one (`strikes_perform`). What every step of
a program keeps holds wherever it is struck (`Each.strikes_keep`).
-/

namespace MailRuntime.Interaction

/-- A statement at which a run may go wrong, the store it finds and the one it would leave,
and how the run ends when it is refused or its answer is lost. -/
structure Strike (σ Λ ε α : Type) where
  label : Λ
  found : σ
  stored : σ
  refused : Except ε α × σ
  lost : Except ε α × σ

variable {σ Λ ε ε' α β : Type}

/-- The same strike in a program that goes on with `f`. -/
def Strike.andThen (x : Strike σ Λ ε α) (f : α → Prog σ Λ ε β) : Strike σ Λ ε β :=
  ⟨x.label, x.found, x.stored, Prog.andThen x.refused f, Prog.andThen x.lost f⟩

/-- The same strike in a program that is guarded by `h`. -/
def Strike.orElse (x : Strike σ Λ ε α) (h : ε → Prog σ Λ ε' α) : Strike σ Λ ε' α :=
  ⟨x.label, x.found, x.stored, Prog.orElse x.refused h, Prog.orElse x.lost h⟩

namespace Prog

/-- The statements along a run, each as a point where it may go wrong. -/
def strikes : Prog σ Λ ε α → σ → List (Strike σ Λ ε α)
  | ret _, _ | throw _, _ => []
  | tau run next, s => (next s).strikes (run s)
  | stmt name run next refused, s =>
    ⟨name s, s, run s, refused.run s, refused.run (run s)⟩ :: (next s).strikes (run s)

/-- The strikes of what a run goes on with after `p`. -/
def strikesThen (r : Except ε α × σ) (f : α → Prog σ Λ ε β) : List (Strike σ Λ ε β) :=
  match r with
  | (.ok a, s) => (f a).strikes s
  | (.error _, _) => []

/-- The strikes of what a run goes on with after a guarded `p`. -/
def strikesElse (r : Except ε α × σ) (h : ε → Prog σ Λ ε' α) : List (Strike σ Λ ε' α) :=
  match r with
  | (.ok _, _) => []
  | (.error e, s) => (h e).strikes s

@[simp] theorem strikes_ret (a : α) (s : σ) : (ret a : Prog σ Λ ε α).strikes s = [] := rfl

@[simp] theorem strikes_throw (e : ε) (s : σ) : (throw e : Prog σ Λ ε α).strikes s = [] := rfl

@[simp] theorem strikesThen_ok (a : α) (s : σ) (f : α → Prog σ Λ ε β) :
    strikesThen (.ok a, s) f = (f a).strikes s := rfl

@[simp] theorem strikesThen_error (e : ε) (s : σ) (f : α → Prog σ Λ ε β) :
    strikesThen (.error e, s) f = [] := rfl

@[simp] theorem strikesElse_ok (a : α) (s : σ) (h : ε → Prog σ Λ ε' α) :
    strikesElse (.ok a, s) h = [] := rfl

@[simp] theorem strikesElse_error (e : ε) (s : σ) (h : ε → Prog σ Λ ε' α) :
    strikesElse (.error e, s) h = (h e).strikes s := rfl

@[simp] theorem strikes_perform (name : σ → Λ) (f : σ → α × σ) (e : ε) (s : σ) :
    (perform name f e).strikes s =
      [⟨name s, s, (f s).2, (.error e, s), (.error e, (f s).2)⟩] := rfl

@[simp] theorem strikes_draw (f : σ → α × σ) (s : σ) :
    (draw f : Prog σ Λ ε α).strikes s = [] := rfl

theorem strikes_bind' (p : Prog σ Λ ε α) (f : α → Prog σ Λ ε β) (s : σ) :
    (p.bind f).strikes s =
      (p.strikes s).map (fun x => x.andThen f) ++ strikesThen (p.run s) f := by
  induction p generalizing s with
  | ret a => rfl
  | throw e => rfl
  | tau run next ih => exact ih s _
  | stmt name run next refused ih _ =>
    simp only [bind, strikes, List.map_cons, List.cons_append, ih, Prog.run, run_bind']
    rfl

@[simp] theorem strikes_bind (p : Prog σ Λ ε α) (f : α → Prog σ Λ ε β) (s : σ) :
    (p >>= f).strikes s =
      (p.strikes s).map (fun x => x.andThen f) ++ strikesThen (p.run s) f := strikes_bind' p f s

@[simp] theorem strikes_tryCatch (p : Prog σ Λ ε α) (h : ε → Prog σ Λ ε' α) (s : σ) :
    (p.tryCatch h).strikes s =
      (p.strikes s).map (fun x => x.orElse h) ++ strikesElse (p.run s) h := by
  induction p generalizing s with
  | ret a => rfl
  | throw e => rfl
  | tau run next ih => exact ih s _
  | stmt name run next refused ih _ =>
    simp only [tryCatch, strikes, List.map_cons, List.cons_append, ih, Prog.run, run_tryCatch]
    rfl

theorem mem_strikes_bind {p : Prog σ Λ ε α} {f : α → Prog σ Λ ε β} {s : σ}
    {x : Strike σ Λ ε β} (h : x ∈ (p >>= f).strikes s) :
    (∃ y ∈ p.strikes s, x = y.andThen f) ∨
      ∃ a s', p.run s = (.ok a, s') ∧ x ∈ (f a).strikes s' := by
  rw [strikes_bind, List.mem_append, List.mem_map] at h
  rcases h with ⟨y, hy, rfl⟩ | h
  · exact .inl ⟨y, hy, rfl⟩
  · rcases hr : p.run s with ⟨_ | a, s'⟩
    · rw [hr, strikesThen_error] at h
      cases h
    · rw [hr, strikesThen_ok] at h
      exact .inr ⟨a, s', rfl, h⟩

theorem mem_strikes_tryCatch {p : Prog σ Λ ε α} {g : ε → Prog σ Λ ε' α} {s : σ}
    {x : Strike σ Λ ε' α} (h : x ∈ (p.tryCatch g).strikes s) :
    (∃ y ∈ p.strikes s, x = y.orElse g) ∨
      ∃ e s', p.run s = (.error e, s') ∧ x ∈ (g e).strikes s' := by
  rw [strikes_tryCatch, List.mem_append, List.mem_map] at h
  rcases h with ⟨y, hy, rfl⟩ | h
  · exact .inl ⟨y, hy, rfl⟩
  · rcases hr : p.run s with ⟨e | _, s'⟩
    · rw [hr, strikesElse_error] at h
      exact .inr ⟨e, s', rfl, h⟩
    · rw [hr, strikesElse_ok] at h
      cases h

/-! ### What every step keeps -/

variable {T : (σ → σ) → Prop} {S : (σ → Λ) → (σ → σ) → Prop} {A : σ → Prop}

/-- What every step of a program keeps, its run keeps. -/
theorem Each.run_keep (hT : ∀ r, T r → ∀ s, A s → A (r s))
    (hS : ∀ n r, S n r → ∀ s, A s → A (r s)) {p : Prog σ Λ ε α} (hp : p.Each T S) {s : σ}
    (hs : A s) : A (p.run s).2 := by
  induction p generalizing s with
  | ret a => exact hs
  | throw e => exact hs
  | tau run next ih => exact ih s (hp.2 s) (hT run hp.1 s hs)
  | stmt name run next refused ih _ => exact ih s (hp.2.1 s) (hS name run hp.1 s hs)

/-- What every step of a program keeps holds wherever it is struck, and after that. -/
theorem Each.strikes_keep (hT : ∀ r, T r → ∀ s, A s → A (r s))
    (hS : ∀ n r, S n r → ∀ s, A s → A (r s)) {p : Prog σ Λ ε α} (hp : p.Each T S) {s : σ}
    (hs : A s) {x : Strike σ Λ ε α} (hx : x ∈ p.strikes s) :
    A x.found ∧ A x.stored ∧ A x.refused.2 ∧ A x.lost.2 := by
  induction p generalizing s with
  | ret a => cases hx
  | throw e => cases hx
  | tau run next ih => exact ih s (hp.2 s) (hT run hp.1 s hs) hx
  | stmt name run next refused ih _ =>
    have hrun := hS name run hp.1 s hs
    rcases List.mem_cons.1 hx with rfl | hx
    · exact ⟨hs, hrun, hp.2.2.run_keep hT hS hs, hp.2.2.run_keep hT hS hrun⟩
    · exact ih s (hp.2.1 s) hrun hx

/-- What the labels of all statements satisfy, those of the strikes do. -/
theorem Each.strikes_label {B : Λ → Prop} (hS : ∀ n r, S n r → ∀ s, B (n s))
    {p : Prog σ Λ ε α} (hp : p.Each T S) {s : σ} {x : Strike σ Λ ε α} (hx : x ∈ p.strikes s) :
    B x.label := by
  induction p generalizing s with
  | ret a => cases hx
  | throw e => cases hx
  | tau run next ih => exact ih s (hp.2 s) hx
  | stmt name run next refused ih _ =>
    rcases List.mem_cons.1 hx with rfl | hx
    · exact hS name run hp.1 s
    · exact ih s (hp.2.1 s) hx

/-! ### Strikes that nothing handles -/

/-- Wherever the program is struck it throws at once, and does nothing more. -/
def Plain (p : Prog σ Λ ε α) : Prop :=
  ∀ s, ∀ x ∈ p.strikes s,
    (∃ e, x.refused = (.error e, x.found)) ∧ ∃ e, x.lost = (.error e, x.stored)

theorem plain_ret (a : α) : (ret a : Prog σ Λ ε α).Plain := fun _ _ hx => by cases hx

theorem plain_throw (e : ε) : (throw e : Prog σ Λ ε α).Plain := fun _ _ hx => by cases hx

theorem plain_perform (name : σ → Λ) (f : σ → α × σ) (e : ε) : (perform name f e).Plain := by
  intro s x hx
  obtain rfl := List.mem_singleton.1 hx
  exact ⟨⟨e, rfl⟩, ⟨e, rfl⟩⟩

theorem Plain.bind {p : Prog σ Λ ε α} {f : α → Prog σ Λ ε β} (hp : p.Plain)
    (hf : ∀ a, (f a).Plain) : (p >>= f).Plain := by
  intro s x hx
  rcases mem_strikes_bind hx with ⟨y, hy, rfl⟩ | ⟨a, s', -, hx⟩
  · obtain ⟨⟨e, he⟩, ⟨e', he'⟩⟩ := hp s y hy
    exact ⟨⟨e, by simp [Strike.andThen, he]⟩, ⟨e', by simp [Strike.andThen, he']⟩⟩
  · exact hf a s' x hx

end Prog

end MailRuntime.Interaction
