import MailRuntime.Interaction.Schedule

/-!
# Rely and guarantee

How a property of all interleavings is proved one program at a time. A `Protocol`
fixes an invariant of the world, what every step keeps to, what each thread may rely on
the others to do besides, and which outcomes of a statement are to be considered at all.
A program is `Safe` in a world if every statement it comes to keeps the invariant and
keeps to what the other threads rely on, whatever they do in between, and if it ends in
its postcondition.

## What is proved

`Safe` goes through `bind` and `tryCatch` (`Safe.bind`, `Safe.tryCatch`) and has a rule
for each kind of step (`Safe.perform`, `Safe.draw`). Two frame rules carry an assertion
along that a program is indifferent to: `Safe.keep` where no step of any thread can
break it, `Safe.frame` where no other thread and no statement of this program can.
`Safe.quiet` is for programs that a whole protocol is indifferent to.
**`Protocol.exec`**: if every thread is safe at the start, then after any allowed
schedule the invariant holds, and every thread that is over meets its postcondition.
-/

namespace MailRuntime.Interaction

/-- An invariant, what every step keeps to, what each thread relies on the steps of the
others to do besides, and the outcomes that are considered. -/
structure Protocol (ι σ Λ : Type) where
  inv : World ι σ Λ → Prop
  keeps : World ι σ Λ → World ι σ Λ → Prop
  rely : ι → World ι σ Λ → World ι σ Λ → Prop
  allow : ι → World ι σ Λ → Λ → Outcome → Prop
  keeps_refl : ∀ w, keeps w w
  keeps_trans : ∀ w w' w'', keeps w w' → keeps w' w'' → keeps w w''
  rely_refl : ∀ i w, rely i w w
  rely_trans : ∀ i w w' w'', rely i w w' → rely i w' w'' → rely i w w''

namespace Protocol

variable {ι σ Λ ε ε' ρ α β : Type} (P : Protocol ι σ Λ) (i : ι)

/-- A step of `i` from `w` to `w'` that keeps to the protocol. -/
structure Good (w w' : World ι σ Λ) : Prop where
  inv : P.inv w'
  keeps : P.keeps w w'
  rely : ∀ k, k ≠ i → P.rely k w w'

/-- `w'` is what other threads may have made of `w`. -/
structure Later (w w' : World ι σ Λ) : Prop where
  inv : P.inv w'
  keeps : P.keeps w w'
  rely : P.rely i w w'

/-- Other threads cannot make the assertion false. -/
def Stable (A : World ι σ Λ → Prop) : Prop := ∀ w w', A w → P.Later i w w' → A w'

variable {P i}

theorem Later.refl {w : World ι σ Λ} (h : P.inv w) : P.Later i w w :=
  ⟨h, P.keeps_refl w, P.rely_refl i w⟩

theorem Later.trans {w w' w'' : World ι σ Λ} (h : P.Later i w w') (h' : P.Later i w' w'') :
    P.Later i w w'' :=
  ⟨h'.inv, P.keeps_trans _ _ _ h.keeps h'.keeps, P.rely_trans i _ _ _ h.rely h'.rely⟩

/-- What no step of any thread can make false is stable. -/
theorem Stable.of_keeps {A : World ι σ Λ → Prop} (h : ∀ w w', P.keeps w w' → A w → A w') :
    P.Stable i A := fun w w' ha hl => h w w' hl.keeps ha

theorem Stable.and {A B : World ι σ Λ → Prop} (hA : P.Stable i A) (hB : P.Stable i B) :
    P.Stable i fun w => A w ∧ B w := fun w w' h hl => ⟨hA w w' h.1 hl, hB w w' h.2 hl⟩

theorem stable_pure {p : Prop} : P.Stable i fun _ => p := fun _ _ h _ => h

theorem Stable.imp {p : Prop} {A : World ι σ Λ → Prop} (hA : p → P.Stable i A) :
    P.Stable i fun w => p → A w := fun w w' h hl hp => hA hp w w' (h hp) hl

variable (P i)

/-- The program is safe from here on, and ends in `Q` or, by an exception, in `E`. -/
def Safe (Q : α → World ι σ Λ → Prop) (E : ε → World ι σ Λ → Prop) :
    Prog σ Λ ε α → World ι σ Λ → Prop
  | .ret a, w => Q a w
  | .throw e, w => E e w
  | .tau run next, w =>
    P.Good i w (w.silent run) ∧
      ∀ w', P.Later i (w.silent run) w' → Safe Q E (next w.store) w'
  | .stmt name run next refused, w =>
    ∀ o, P.allow i w (name w.store) o →
      P.Good i w (w.after i name run o) ∧
        ∀ w', P.Later i (w.after i name run o) w' →
          match o with
          | .done => Safe Q E (next w.store) w'
          | .refused | .lost => Safe Q E refused w'

/-- The program is safe whatever the others do before its next step. -/
def Holds (Q : α → World ι σ Λ → Prop) (E : ε → World ι σ Λ → Prop) (p : Prog σ Λ ε α)
    (w : World ι σ Λ) : Prop := ∀ w', P.Later i w w' → P.Safe i Q E p w'

variable {P i} {Q Q' : α → World ι σ Λ → Prop} {R : β → World ι σ Λ → Prop}
  {E E' : ε → World ι σ Λ → Prop} {w : World ι σ Λ}

@[simp] theorem safe_ret {a : α} : P.Safe i Q E (.ret a) w ↔ Q a w := Iff.rfl

@[simp] theorem safe_throw {e : ε} : P.Safe i Q E (.throw e) w ↔ E e w := Iff.rfl

/-- A program safe for every later world is safe now. -/
theorem Holds.now {p : Prog σ Λ ε α} (h : P.Holds i Q E p w) (hw : P.inv w) :
    P.Safe i Q E p w := h w (Later.refl hw)

theorem Holds.later {p : Prog σ Λ ε α} {w' : World ι σ Λ} (h : P.Holds i Q E p w)
    (hw : P.Later i w w') : P.Holds i Q E p w' := fun _ h' => h _ (hw.trans h')

theorem Safe.mono {p : Prog σ Λ ε α} (hw : P.inv w) (h : P.Safe i Q E p w)
    (hQ : ∀ a w', P.inv w' → Q a w' → Q' a w') (hE : ∀ e w', P.inv w' → E e w' → E' e w') :
    P.Safe i Q' E' p w := by
  induction p generalizing w with
  | ret a => exact hQ a w hw h
  | throw e => exact hE e w hw h
  | tau run next ih => exact ⟨h.1, fun w' hl => ih _ hl.inv (h.2 w' hl)⟩
  | stmt name run next refused ihn ihr =>
    intro o ho
    obtain ⟨hg, hn⟩ := h o ho
    refine ⟨hg, fun w' hl => ?_⟩
    cases o with
    | done => exact ihn _ hl.inv (hn w' hl)
    | refused => exact ihr hl.inv (hn w' hl)
    | lost => exact ihr hl.inv (hn w' hl)

theorem Safe.bind {p : Prog σ Λ ε α} {f : α → Prog σ Λ ε β} (hw : P.inv w)
    (h : P.Safe i Q E' p w)
    (hf : ∀ a w', P.inv w' → Q a w' → P.Safe i R E (f a) w')
    (hE : ∀ e w', P.inv w' → E' e w' → E e w') : P.Safe i R E (p >>= f) w := by
  induction p generalizing w with
  | ret a => exact hf a w hw h
  | throw e => exact hE e w hw h
  | tau run next ih => exact ⟨h.1, fun w' hl => ih _ hl.inv (h.2 w' hl)⟩
  | stmt name run next refused ihn ihr =>
    intro o ho
    obtain ⟨hg, hn⟩ := h o ho
    refine ⟨hg, fun w' hl => ?_⟩
    cases o with
    | done => exact ihn _ hl.inv (hn w' hl)
    | refused => exact ihr hl.inv (hn w' hl)
    | lost => exact ihr hl.inv (hn w' hl)

theorem Safe.map {p : Prog σ Λ ε α} {f : α → β} (hw : P.inv w)
    (h : P.Safe i (fun a => R (f a)) E p w) : P.Safe i R E (f <$> p) w :=
  Safe.bind hw h (fun _ _ _ hq => hq) fun _ _ _ he => he

theorem Safe.tryCatch {F : ε' → World ι σ Λ → Prop} {p : Prog σ Λ ε α}
    {g : ε → Prog σ Λ ε' α} (hw : P.inv w) (h : P.Safe i Q E p w)
    (hg : ∀ e w', P.inv w' → E e w' → P.Safe i Q F (g e) w') :
    P.Safe i Q F (p.tryCatch g) w := by
  induction p generalizing w with
  | ret a => exact h
  | throw e => exact hg e w hw h
  | tau run next ih => exact ⟨h.1, fun w' hl => ih _ hl.inv (h.2 w' hl)⟩
  | stmt name run next refused ihn ihr =>
    intro o ho
    obtain ⟨hg', hn⟩ := h o ho
    refine ⟨hg', fun w' hl => ?_⟩
    cases o with
    | done => exact ihn _ hl.inv (hn w' hl)
    | refused => exact ihr hl.inv (hn w' hl)
    | lost => exact ihr hl.inv (hn w' hl)

theorem Safe.perform {name : σ → Λ} {f : σ → α × σ} {e : ε}
    (h : ∀ o, P.allow i w (name w.store) o →
      P.Good i w (w.after i name (fun s => (f s).2) o) ∧
        ∀ w', P.Later i (w.after i name (fun s => (f s).2) o) w' →
          if o = .done then Q (f w.store).1 w' else E e w') :
    P.Safe i Q E (.perform name f e) w := by
  intro o ho
  obtain ⟨hg, hn⟩ := h o ho
  refine ⟨hg, fun w' hl => ?_⟩
  cases o with
  | done => exact (if_pos rfl).mp (hn w' hl)
  | refused => exact (if_neg (by decide)).mp (hn w' hl)
  | lost => exact (if_neg (by decide)).mp (hn w' hl)

theorem Safe.draw {f : σ → α × σ} (h : P.Good i w (w.silent fun s => (f s).2))
    (hn : ∀ w', P.Later i (w.silent fun s => (f s).2) w' → Q (f w.store).1 w') :
    P.Safe i Q E (.draw f) w := ⟨h, hn⟩

/-- **Frame rule**, for an assertion that no step of any thread can make false. -/
theorem Safe.keep {A : World ι σ Λ → Prop} (hA : ∀ w w', P.keeps w w' → A w → A w')
    {p : Prog σ Λ ε α} (h : P.Safe i Q E p w) (ha : A w) :
    P.Safe i (fun a w => Q a w ∧ A w) (fun e w => E e w ∧ A w) p w := by
  induction p generalizing w with
  | ret a => exact ⟨h, ha⟩
  | throw e => exact ⟨h, ha⟩
  | tau run next ih =>
    exact ⟨h.1, fun w' hl => ih _ (h.2 w' hl) (hA _ _ hl.keeps (hA _ _ h.1.keeps ha))⟩
  | stmt name run next refused ihn ihr =>
    intro o ho
    obtain ⟨hg, hn⟩ := h o ho
    refine ⟨hg, fun w' hl => ?_⟩
    have ha' := hA _ _ hl.keeps (hA _ _ hg.keeps ha)
    cases o with
    | done => exact ihn _ (hn w' hl) ha'
    | refused => exact ihr (hn w' hl) ha'
    | lost => exact ihr (hn w' hl) ha'

/-- **Frame rule**, for a stable assertion that no step of this program makes false. -/
theorem Safe.frame {T : (σ → σ) → Prop} {S : (σ → Λ) → (σ → σ) → Prop}
    {A : World ι σ Λ → Prop} (hA : P.Stable i A)
    (hT : ∀ run, T run → ∀ w, A w → A (w.silent run))
    (hS : ∀ name run, S name run → ∀ w o, A w → A (w.after i name run o))
    {p : Prog σ Λ ε α} (hp : p.Each T S) (h : P.Safe i Q E p w) (ha : A w) :
    P.Safe i (fun a w => Q a w ∧ A w) (fun e w => E e w ∧ A w) p w := by
  induction p generalizing w with
  | ret a => exact ⟨h, ha⟩
  | throw e => exact ⟨h, ha⟩
  | tau run next ih =>
    exact ⟨h.1, fun w' hl => ih _ (hp.2 _) (h.2 w' hl) (hA _ _ (hT run hp.1 w ha) hl)⟩
  | stmt name run next refused ihn ihr =>
    intro o ho
    obtain ⟨hg, hn⟩ := h o ho
    refine ⟨hg, fun w' hl => ?_⟩
    have ha' := hA _ _ (hS name run hp.1 w o ha) hl
    cases o with
    | done => exact ihn _ (hp.2.1 _) (hn w' hl) ha'
    | refused => exact ihr hp.2.2 (hn w' hl) ha'
    | lost => exact ihr hp.2.2 (hn w' hl) ha'

/-- A program all of whose steps keep the protocol and a stable assertion is safe, and
ends in the assertion. -/
theorem Safe.quiet {T : (σ → σ) → Prop} {S : (σ → Λ) → (σ → σ) → Prop}
    {A : World ι σ Λ → Prop} (hA : P.Stable i A)
    (hT : ∀ run, T run → ∀ w, P.inv w → A w → P.Good i w (w.silent run) ∧ A (w.silent run))
    (hS : ∀ name run, S name run → ∀ w o, P.inv w → A w → P.allow i w (name w.store) o →
      P.Good i w (w.after i name run o) ∧ A (w.after i name run o))
    {p : Prog σ Λ ε α} (hp : p.Each T S) (hw : P.inv w) (h : A w) :
    P.Safe i (fun _ => A) (fun _ => A) p w := by
  induction p generalizing w with
  | ret a => exact h
  | throw e => exact h
  | tau run next ih =>
    obtain ⟨hg, ha⟩ := hT run hp.1 w hw h
    exact ⟨hg, fun w' hl => ih _ (hp.2 _) hl.inv (hA _ _ ha hl)⟩
  | stmt name run next refused ihn ihr =>
    intro o ho
    obtain ⟨hg, ha⟩ := hS name run hp.1 w o hw h ho
    refine ⟨hg, fun w' hl => ?_⟩
    cases o with
    | done => exact ihn _ (hp.2.1 _) hl.inv (hA _ _ ha hl)
    | refused => exact ihr hp.2.2 hl.inv (hA _ _ ha hl)
    | lost => exact ihr hp.2.2 hl.inv (hA _ _ ha hl)

/-- A safe program throws no other exceptions than it can throw at all. -/
theorem Safe.throws {B : ε → Prop} {p : Prog σ Λ ε α} (hp : p.Throws B) (h : P.Safe i Q E p w) :
    P.Safe i Q (fun e w => E e w ∧ B e) p w := by
  induction p generalizing w with
  | ret a => exact h
  | throw e => exact ⟨h, hp⟩
  | tau run next ih => exact ⟨h.1, fun w' hl => ih _ (hp _) (h.2 w' hl)⟩
  | stmt name run next refused ihn ihr =>
    intro o ho
    obtain ⟨hg, hn⟩ := h o ho
    refine ⟨hg, fun w' hl => ?_⟩
    cases o with
    | done => exact ihn _ (hp.1 _) (hn w' hl)
    | refused => exact ihr hp.2 (hn w' hl)
    | lost => exact ihr hp.2 (hn w' hl)

/-! ### Runs -/

variable [DecidableEq ι] {Qs : ι → ρ → World ι σ Λ → Prop} {Es : ι → ε → World ι σ Λ → Prop}

/-- One step of a configuration whose threads are all safe leads to another. -/
theorem step {c : Config ι σ Λ ε ρ} {i : ι} {o : Outcome} (hinv : P.inv c.world)
    (h : ∀ k, P.Holds k (Qs k) (Es k) (c.threads k) c.world) (ho : c.Allows P.allow i o) :
    P.inv (c.step i o).world ∧
      ∀ k, P.Holds k (Qs k) (Es k) ((c.step i o).threads k) (c.step i o).world := by
  have hi := (h i).now hinv
  rcases hc : c.threads i with a | e | ⟨run, next⟩ | ⟨name, run, next, refused⟩
  · simp only [Config.step, hc]
    exact ⟨hinv, h⟩
  · simp only [Config.step, hc]
    exact ⟨hinv, h⟩
  · rw [hc] at hi
    obtain ⟨⟨hi', hk', hr⟩, hn⟩ := hi
    simp only [Config.step, hc]
    refine ⟨hi', fun k => ?_⟩
    by_cases hk : k = i
    · subst hk
      rw [Function.update_self]
      exact hn
    · rw [Function.update_of_ne hk]
      exact (h k).later ⟨hi', hk', hr k hk⟩
  · rw [hc] at hi
    simp only [Config.Allows, hc] at ho
    obtain ⟨⟨hi', hk', hr⟩, hn⟩ := hi o ho
    simp only [Config.step, hc]
    refine ⟨hi', fun k => ?_⟩
    by_cases hk : k = i
    · subst hk
      rw [Function.update_self]
      intro w' hl
      cases o <;> exact hn w' hl
    · rw [Function.update_of_ne hk]
      exact (h k).later ⟨hi', hk', hr k hk⟩

/-- **Run rule**: the invariant holds after any allowed schedule of safe threads, and
the threads are safe still. -/
theorem exec {c : Config ι σ Λ ε ρ} {l : List (ι × Outcome)} (hinv : P.inv c.world)
    (h : ∀ k, P.Holds k (Qs k) (Es k) (c.threads k) c.world) (hl : c.Meets P.allow l) :
    P.inv (c.exec l).world ∧
      ∀ k, P.Holds k (Qs k) (Es k) ((c.exec l).threads k) (c.exec l).world := by
  induction l generalizing c with
  | nil => exact ⟨hinv, h⟩
  | cons t rest ih =>
    obtain ⟨i, o⟩ := t
    obtain ⟨hinv', h'⟩ := step hinv h hl.1
    exact ih hinv' h' hl.2

/-- Every step of safe threads keeps to the protocol. -/
theorem step_keeps {c : Config ι σ Λ ε ρ} {i : ι} {o : Outcome} (hinv : P.inv c.world)
    (h : ∀ k, P.Holds k (Qs k) (Es k) (c.threads k) c.world) (ho : c.Allows P.allow i o) :
    P.keeps c.world (c.step i o).world := by
  have hi := (h i).now hinv
  rcases hc : c.threads i with a | e | ⟨run, next⟩ | ⟨name, run, next, refused⟩
  · simp only [Config.step, hc]
    exact P.keeps_refl _
  · simp only [Config.step, hc]
    exact P.keeps_refl _
  · rw [hc] at hi
    simp only [Config.step, hc]
    exact hi.1.keeps
  · rw [hc] at hi
    simp only [Config.Allows, hc] at ho
    simp only [Config.step, hc]
    exact (hi o ho).1.keeps

/-- So does any part of an allowed schedule. -/
theorem exec_keeps {c : Config ι σ Λ ε ρ} {l l' : List (ι × Outcome)} (hinv : P.inv c.world)
    (h : ∀ k, P.Holds k (Qs k) (Es k) (c.threads k) c.world) (hl : c.Meets P.allow (l ++ l')) :
    P.keeps (c.exec l).world (c.exec (l ++ l')).world := by
  rw [Config.meets_append] at hl
  obtain ⟨hmeets, hmeets'⟩ := hl
  obtain ⟨hinv', h'⟩ := exec hinv h hmeets
  rw [Config.exec_append]
  generalize c.exec l = c' at hinv' h' hmeets'
  induction l' generalizing c' with
  | nil => exact P.keeps_refl _
  | cons t rest ih =>
    obtain ⟨i, o⟩ := t
    obtain ⟨hinv'', h''⟩ := step hinv' h' hmeets'.1
    exact P.keeps_trans _ _ _ (step_keeps hinv' h' hmeets'.1) (ih _ hinv'' h'' hmeets'.2)

end Protocol

end MailRuntime.Interaction
