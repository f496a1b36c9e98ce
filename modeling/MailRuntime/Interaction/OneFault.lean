import MailRuntime.Interaction.Alone

/-!
# At most one fault

A program alone, of whose statements at most one goes wrong: it is refused, or it is carried out
and its answer is lost. An assertion is about the store and about whether nothing has gone wrong
so far, which a handler cannot see but a proof about it has to know: compensations that follow a
fault run undisturbed, those that follow an exception of the program's own may be hit themselves.

## What is proved

`Once A p Q E` is a triple, with the rules of a sequential program (`Once.bind`, `Once.tryCatch`,
`Once.perform`, `Once.draw`) and a frame rule for programs that only read (`Once.reads`).
`Once.exec` is what a triple says about every schedule with at most one fault. **`Undoes.once`** is
the rule for a handler that takes back what was done before an exception, one compensation after the
other: if what is left can be borne whichever one of them is missing, then it can be borne after the
handler.
-/

namespace MailRuntime.Interaction

variable {σ Λ ε ε' α β : Type}

/-- Nothing has gone wrong. -/
def World.sound {ι : Type} (w : World ι σ Λ) : Bool := w.trace.all fun e => e.outcome == .done

/-- A statement may go wrong if none has. -/
def AtMostOne {ι : Type} (_ : ι) (w : World ι σ Λ) (_ : Λ) (o : Outcome) : Prop :=
  w.sound = true ∨ o = .done

instance {ι : Type} (i : ι) (w : World ι σ Λ) (l : Λ) (o : Outcome) :
    Decidable (AtMostOne i w l o) := inferInstanceAs (Decidable (_ ∨ _))

/-- The protocol of a program alone that is hit once at most. -/
abbrev hitOnce (σ Λ : Type) : Protocol Unit σ Λ := alone (fun _ => True) (AtMostOne ())

/-- From `A`, a program that is hit once at most ends in `Q` or, by an exception, in `E`. -/
def Once (A : Bool → σ → Prop) (p : Prog σ Λ ε α) (Q : α → Bool → σ → Prop)
    (E : ε → Bool → σ → Prop) : Prop :=
  ∀ w : World Unit σ Λ, A w.sound w.store →
    (hitOnce σ Λ).Safe () (fun a w => Q a w.sound w.store) (fun e w => E e w.sound w.store) p w

variable {A A' : Bool → σ → Prop} {Q Q' : α → Bool → σ → Prop} {R : β → Bool → σ → Prop}
  {E E' : ε → Bool → σ → Prop} {F : ε' → Bool → σ → Prop}

@[simp] theorem World.sound_after_done {ι : Type} (w : World ι σ Λ) (i : ι) (name : σ → Λ)
    (run : σ → σ) : (w.after i name run .done).sound = w.sound := by
  simp [World.sound]

theorem World.sound_after {ι : Type} (w : World ι σ Λ) (i : ι) (name : σ → Λ) (run : σ → σ)
    {o : Outcome} (ho : o ≠ .done) : (w.after i name run o).sound = false := by
  simp [World.sound, ho]

/-- What becomes of the store and of the soundness of a run at a statement. -/
theorem after_hitOnce {w : World Unit σ Λ} {name : σ → Λ} (run : σ → σ) {o : Outcome}
    (ho : AtMostOne () w (name w.store) o) :
    (o = .done ∧ (w.after () name run o).sound = w.sound ∧
        (w.after () name run o).store = run w.store) ∨
      (o ≠ .done ∧ w.sound = true ∧ (w.after () name run o).sound = false ∧
        ((w.after () name run o).store = w.store ∨
          (w.after () name run o).store = run w.store)) := by
  cases o with
  | done => exact .inl ⟨rfl, w.sound_after_done () name run, rfl⟩
  | refused =>
    exact .inr ⟨by decide, ho.resolve_right (by decide), w.sound_after () name run (by decide),
      .inl rfl⟩
  | lost =>
    exact .inr ⟨by decide, ho.resolve_right (by decide), w.sound_after () name run (by decide),
      .inr rfl⟩

/-! ### The rules -/

theorem Once.ret {a : α} (h : ∀ c s, A c s → Q a c s) :
    Once A (.ret a : Prog σ Λ ε α) Q E := fun _ hw => h _ _ hw

theorem Once.throw {e : ε} (h : ∀ c s, A c s → E e c s) :
    Once A (.throw e : Prog σ Λ ε α) Q E := fun _ hw => h _ _ hw

theorem Once.draw {f : σ → α × σ} (h : ∀ c s, A c s → Q (f s).1 c (f s).2) :
    Once A (.draw f : Prog σ Λ ε α) Q E := fun _ hw => safe_draw_alone trivial (h _ _ hw)

theorem Once.perform {name : σ → Λ} {f : σ → α × σ} {e : ε}
    (hdone : ∀ c s, A c s → Q (f s).1 c (f s).2)
    (hhit : ∀ s, A true s → E e false s ∧ E e false (f s).2) :
    Once A (.perform name f e) Q E := by
  intro w hw
  refine safe_perform_alone fun o ho => ⟨trivial, ?_⟩
  obtain ⟨rfl, hsound, hstore⟩ | ⟨hne, hcalm, hsound, hstore⟩ :=
    after_hitOnce (fun s => (f s).2) ho
  · rw [if_pos rfl, hsound, hstore]
    exact hdone _ _ hw
  · rw [if_neg hne, hsound]
    rw [hcalm] at hw
    rcases hstore with hstore | hstore
    · rw [hstore]
      exact (hhit _ hw).1
    · rw [hstore]
      exact (hhit _ hw).2

theorem Once.mono {p : Prog σ Λ ε α} (h : Once A' p Q' E') (hA : ∀ c s, A c s → A' c s)
    (hQ : ∀ a c s, Q' a c s → Q a c s) (hE : ∀ e c s, E' e c s → E e c s) : Once A p Q E :=
  fun w hw => (h w (hA _ _ hw)).mono trivial (fun a _ _ => hQ a _ _) fun e _ _ => hE e _ _

theorem Once.bind {p : Prog σ Λ ε α} {f : α → Prog σ Λ ε β} (hp : Once A p Q E)
    (hf : ∀ a, Once (Q a) (f a) R E) : Once A (p >>= f) R E := fun w hw =>
  Protocol.Safe.bind trivial (hp w hw) (fun a w' _ h => hf a w' h) fun _ _ _ h => h

theorem Once.tryCatch {p : Prog σ Λ ε α} {g : ε → Prog σ Λ ε' α} (hp : Once A p Q E)
    (hg : ∀ e, Once (E e) (g e) Q F) : Once A (p.tryCatch g) Q F := fun w hw =>
  Protocol.Safe.tryCatch trivial (hp w hw) fun e w' _ h => hg e w' h

/-- A fact that is not about the store. -/
theorem Once.of_fact {P : Prop} {p : Prog σ Λ ε α} (h : P → Once A p Q E) :
    Once (fun c s => P ∧ A c s) p Q E := fun w hw => h hw.1 w hw.2

/-- **Frame rule**, for a program that only reads: it answers what it finds. -/
theorem Once.reads {B : Bool → σ → Prop} {p : Prog σ Λ ε α} (hp : p.Reads)
    (hthrow : ∀ c s, A c s → B c s) (hhit : ∀ s, A true s → B false s) :
    Once A p (fun a c s => A c s ∧ p.run s = (.ok a, s)) fun _ => B := by
  have hsafe : ∀ (w : World Unit σ Λ) s, w.store = s → A w.sound s →
      (hitOnce σ Λ).Safe () (fun a w' => w'.store = s ∧ A w'.sound s ∧ p.run s = (.ok a, s))
        (fun _ w' => w'.store = s ∧ B w'.sound s) p w := by
    induction p with
    | ret a => exact fun w s hs hw => ⟨hs, hw, rfl⟩
    | throw e => exact fun w s hs hw => ⟨hs, hthrow _ _ hw⟩
    | tau run next _ => exact hp.elim
    | stmt name run next refused ih _ =>
      obtain ⟨rfl, ⟨e, rfl⟩, hnext⟩ := hp
      intro w s hs hw o ho
      refine ⟨good_alone trivial, fun w' hl => ?_⟩
      obtain rfl := later_alone hl
      have hstore : (w.after () name id o).store = s := by rw [World.after_id_store, hs]
      have hrefused : o ≠ .done → B (w.after () name id o).sound s := by
        intro hne
        rw [w.sound_after () name id hne]
        have hsound : w.sound = true := ho.resolve_right hne
        rw [hsound] at hw
        exact hhit s hw
      cases o with
      | done =>
        subst hs
        rw [← w.sound_after_done () name id] at hw
        exact ih w.store (hnext w.store) _ _ hstore hw
      | refused => exact ⟨hstore, hrefused (by decide)⟩
      | lost => exact ⟨hstore, hrefused (by decide)⟩
  intro w hw
  refine (hsafe w w.store rfl hw).mono trivial ?_ ?_
  · rintro a w' - ⟨hstore, ha, hrun⟩
    rw [hstore]
    exact ⟨ha, hrun⟩
  · rintro e w' - ⟨hstore, hb⟩
    rw [hstore]
    exact hb

/-- What all answers of a program satisfy, the answer of its run does. -/
theorem Prog.Returns.of_run {B : α → Prop} {p : Prog σ Λ ε α} {s s' : σ} {a : α}
    (h : p.Returns B) (hrun : p.run s = (.ok a, s')) : B a := by
  induction p generalizing s with
  | ret b =>
    cases hrun
    exact h
  | throw e => cases hrun
  | tau run next ih => exact ih s (h s) hrun
  | stmt name run next refused ih _ => exact ih s (h.1 s) hrun

/-! ### Compensations -/

section Compensations

variable {π : Type} {Rep Rep' : π → σ → Prop} {G B : π → Prop}

/-- What is left of `x` by what is undone. -/
def undone (us : List (π → π)) (x : π) : π := us.foldl (fun x u => u x) x

@[simp] theorem undone_nil (x : π) : undone [] x = x := rfl

@[simp] theorem undone_cons (u : π → π) (us : List (π → π)) (x : π) :
    undone (u :: us) x = undone us (u x) := rfl

/-- Whichever one of the compensations does not happen, what is left can be borne. -/
def Tolerant (B : π → Prop) : List (π → π) → π → Prop
  | [], _ => True
  | u :: us, x => B (undone us x) ∧ Tolerant B us (u x)

@[simp] theorem tolerant_nil (x : π) : Tolerant B [] x := trivial

@[simp] theorem tolerant_cons (u : π → π) (us : List (π → π)) (x : π) :
    Tolerant B (u :: us) x ↔ B (undone us x) ∧ Tolerant B us (u x) := Iff.rfl

/-- The compensations lie ahead. After them what is left can be borne, and is as it should be if
nothing has gone wrong or does. -/
def Bearable (Rep : π → σ → Prop) (G B : π → Prop) (us : List (π → π)) (c : Bool) (s : σ) : Prop :=
  ∃ x, Rep x s ∧ B (undone us x) ∧ (c = true → G (undone us x) ∧ Tolerant B us x)

/-- The program carries out a compensation, or is hit and has or has not, and does not throw. -/
def Undoes (Rep Rep' : π → σ → Prop) (u : π → π) (p : Prog σ Λ ε α) : Prop :=
  ∀ x before, Once (fun c s => c = before ∧ Rep x s) p
    (fun _ c s => (c = before ∧ Rep' (u x) s) ∨
      (before = true ∧ c = false ∧ (Rep' x s ∨ Rep' (u x) s))) fun (_ : ε) _ _ => False

/-- **Compensation rule**: one compensation is carried out, or is the one that goes wrong. -/
theorem Undoes.once {u : π → π} {us : List (π → π)} {p : Prog σ Λ ε α} (h : Undoes Rep Rep' u p) :
    Once (Bearable Rep G B (u :: us)) p (fun _ => Bearable Rep' G B us) E := by
  rintro w ⟨x, hrep, hb, hg⟩
  refine (h x w.sound w ⟨rfl, hrep⟩).mono trivial (fun a w' _ hpost => ?_) fun _ _ _ hfalse =>
    hfalse.elim
  rcases hpost with ⟨hsound, hrep⟩ | ⟨hbefore, hsound, hrep | hrep⟩
  · exact ⟨u x, hrep, hb, fun hc => ⟨(hg (hsound ▸ hc)).1, (hg (hsound ▸ hc)).2.2⟩⟩
  · exact ⟨x, hrep, (hg hbefore).2.1, fun hc => by simp [hsound] at hc⟩
  · exact ⟨u x, hrep, hb, fun hc => by simp [hsound] at hc⟩

/-- Nothing is to be undone. -/
theorem undoes_ret {a : α} (h : ∀ x s, Rep x s → Rep' x s) :
    Undoes Rep Rep' id (.ret a : Prog σ Λ ε α) := fun x _ =>
  Once.ret fun _ s hs => .inl ⟨hs.1, h x s hs.2⟩

/-- A compensation that is one statement, whose exception is ignored. -/
theorem undoes_perform {u : π → π} {name : σ → Λ} {f : σ → β × σ} {e : ε'} {g : β → α} {a : α}
    (hu : ∀ x s, Rep x s → Rep' (u x) (f s).2) (hkeep : ∀ x s, Rep x s → Rep' x s) :
    Undoes Rep Rep' u ((Prog.perform name f e >>= fun b => .ret (g b)).tryCatch
      fun _ => (.ret a : Prog σ Λ ε α)) := by
  intro x before
  refine Once.tryCatch (E := fun _ c s => before = true ∧ c = false ∧ (Rep' x s ∨ Rep' (u x) s))
    (Once.bind (Q := fun _ c s => c = before ∧ Rep' (u x) s) (Once.perform ?_ ?_)
      fun b => Once.ret fun c s hs => .inl hs) fun _ => Once.ret fun c s hs => .inr hs
  · exact fun c s hs => ⟨hs.1, hu x s hs.2⟩
  · exact fun s hs =>
      ⟨⟨hs.1.symm, rfl, .inl (hkeep x s hs.2)⟩, ⟨hs.1.symm, rfl, .inr (hu x s hs.2)⟩⟩

end Compensations

/-! ### Runs -/

variable {p : Prog σ Λ ε α} {s : σ} {schedule : List (Unit × Outcome)}

/-- What a triple says about a schedule with at most one fault. -/
theorem Once.exec (h : Once A p Q E) (hs : A true s)
    (hmeets : (⟨⟨s, []⟩, fun _ => p⟩ : Config Unit σ Λ ε α).Meets AtMostOne schedule) :
    let c := (⟨⟨s, []⟩, fun _ => p⟩ : Config Unit σ Λ ε α).exec schedule
    (∀ a, c.threads () = .ret a → Q a c.world.sound c.world.store) ∧
      ∀ e, c.threads () = .throw e → E e c.world.sound c.world.store := by
  intro c
  have hholds : ∀ k, (hitOnce σ Λ).Holds k ((fun _ a w => Q a w.sound w.store) k)
      ((fun _ e w => E e w.sound w.store) k) p ⟨s, []⟩ := by
    intro k w' hl
    obtain rfl := later_alone hl
    exact h _ hs
  have hmeets' : (⟨⟨s, []⟩, fun _ => p⟩ : Config Unit σ Λ ε α).Meets (hitOnce σ Λ).allow schedule :=
    hmeets
  have hthreads := (Protocol.exec (c := ⟨⟨s, []⟩, fun _ => p⟩) trivial hholds hmeets').2 ()
  have hnow := hthreads.now trivial
  constructor
  · intro a ha
    rw [ha] at hnow
    exact hnow
  · intro e he
    rw [he] at hnow
    exact hnow

end MailRuntime.Interaction
