import MailRuntime.Interaction.Faults
import MailRuntime.Interaction.RelyGuarantee

/-!
# A program alone

A single program whose statements may end in any way that is allowed, with nobody else on the
store. Its protocol is the one in which the others do nothing, so the rules of
`MailRuntime.Interaction.RelyGuarantee` are those of a sequential program with failures, and
every assertion is stable.

## What is proved

The rules for one step (`safe_perform_alone`, `safe_draw_alone`), the frame rules
(`safe_alone_of_each`, `safe_frame_alone`), the rule for a stretch in which nothing goes wrong
any more (`safe_alone_of_run`), and what safety says about a run (`inv_of_safe_alone`,
`post_of_safe_alone`). In the other direction, a statement that is a strike of the run in which
nothing goes wrong is in the trace of that run (`mem_trace_of_strike`).
-/

namespace MailRuntime.Interaction

variable {σ Λ ε ε' α β : Type}

/-- The protocol of a program alone. -/
def alone (inv : World Unit σ Λ → Prop) (allow : World Unit σ Λ → Λ → Outcome → Prop) :
    Protocol Unit σ Λ where
  inv := inv
  keeps _ _ := True
  rely _ w w' := w' = w
  allow _ := allow
  keeps_refl _ := trivial
  keeps_trans _ _ _ _ _ := trivial
  rely_refl _ _ := rfl
  rely_trans _ _ _ _ h h' := h'.trans h

section Rules

variable {inv : World Unit σ Λ → Prop} {allow : World Unit σ Λ → Λ → Outcome → Prop}
  {Q : α → World Unit σ Λ → Prop} {E : ε → World Unit σ Λ → Prop} {w w' : World Unit σ Λ}

theorem later_alone (h : (alone inv allow).Later () w w') : w' = w := h.rely

theorem good_alone (h : inv w') : (alone inv allow).Good () w w' :=
  ⟨h, trivial, fun _ hk => absurd rfl hk⟩

/-- Nobody else can make anything false. -/
theorem stable_alone (A : World Unit σ Λ → Prop) : (alone inv allow).Stable () A := by
  intro w w' ha hl
  rwa [later_alone hl]

theorem safe_perform_alone {name : σ → Λ} {f : σ → α × σ} {e : ε}
    (h : ∀ o, allow w (name w.store) o →
      inv (w.after () name (fun s => (f s).2) o) ∧
        if o = .done then Q (f w.store).1 (w.after () name (fun s => (f s).2) o)
        else E e (w.after () name (fun s => (f s).2) o)) :
    (alone inv allow).Safe () Q E (.perform name f e) w := by
  refine Protocol.Safe.perform fun o ho => ?_
  obtain ⟨hinv, hpost⟩ := h o ho
  refine ⟨good_alone hinv, fun w' hl => ?_⟩
  obtain rfl := later_alone hl
  exact hpost

theorem safe_draw_alone {f : σ → α × σ} (hinv : inv (w.silent fun s => (f s).2))
    (h : Q (f w.store).1 (w.silent fun s => (f s).2)) :
    (alone inv allow).Safe () Q E (.draw f) w := by
  refine Protocol.Safe.draw (good_alone hinv) fun w' hl => ?_
  obtain rfl := later_alone hl
  exact h

/-- A program is safe whose steps keep the invariant and an assertion, which it ends in. -/
theorem safe_alone_of_each {T : (σ → σ) → Prop} {S : (σ → Λ) → (σ → σ) → Prop}
    {A : World Unit σ Λ → Prop}
    (hT : ∀ run, T run → ∀ w, inv w → A w → inv (w.silent run) ∧ A (w.silent run))
    (hS : ∀ name run, S name run → ∀ w o, inv w → A w → allow w (name w.store) o →
      inv (w.after () name run o) ∧ A (w.after () name run o))
    {p : Prog σ Λ ε α} (hp : p.Each T S) (hw : inv w) (h : A w) :
    (alone inv allow).Safe () (fun _ => A) (fun _ => A) p w := by
  refine Protocol.Safe.quiet (stable_alone A) ?_ ?_ hp hw h
  · intro run hrun w hw ha
    obtain ⟨hinv, ha⟩ := hT run hrun w hw ha
    exact ⟨good_alone hinv, ha⟩
  · intro name run hstmt w o hw ha ho
    obtain ⟨hinv, ha⟩ := hS name run hstmt w o hw ha ho
    exact ⟨good_alone hinv, ha⟩

/-- **Frame rule**, for an assertion that no step of the program makes false. -/
theorem safe_frame_alone {T : (σ → σ) → Prop} {S : (σ → Λ) → (σ → σ) → Prop}
    {A : World Unit σ Λ → Prop} (hT : ∀ run, T run → ∀ w, A w → A (w.silent run))
    (hS : ∀ name run, S name run → ∀ w o, A w → A (w.after () name run o))
    {p : Prog σ Λ ε α} (hp : p.Each T S) (h : (alone inv allow).Safe () Q E p w) (ha : A w) :
    (alone inv allow).Safe () (fun a w => Q a w ∧ A w) (fun e w => E e w ∧ A w) p w :=
  Protocol.Safe.frame (stable_alone A) hT hS hp h ha

/-- **Run rule**: what a safe program keeps holds after any allowed run of it. -/
theorem inv_of_safe_alone {p : Prog σ Λ ε α} (hw : inv w)
    (h : (alone inv allow).Safe () Q E p w) {schedule : List (Unit × Outcome)}
    (hmeets : (⟨w, fun _ => p⟩ : Config Unit σ Λ ε α).Meets (fun _ => allow) schedule) :
    inv ((⟨w, fun _ => p⟩ : Config Unit σ Λ ε α).exec schedule).world := by
  have hholds : ∀ k, (alone inv allow).Holds k Q E p w := by
    intro k w' hl
    obtain rfl := later_alone hl
    exact h
  let c : Config Unit σ Λ ε α := ⟨w, fun _ => p⟩
  have hc : (alone inv allow).inv c.world := hw
  exact (Protocol.exec hc hholds hmeets).1

/-- A safe program that is over ends in its postcondition. -/
theorem post_of_safe_alone {p : Prog σ Λ ε α} (hw : inv w)
    (h : (alone inv allow).Safe () Q E p w) {schedule : List (Unit × Outcome)}
    (hmeets : (⟨w, fun _ => p⟩ : Config Unit σ Λ ε α).Meets (fun _ => allow) schedule) {a : α}
    (hret : ((⟨w, fun _ => p⟩ : Config Unit σ Λ ε α).exec schedule).threads () = .ret a) :
    Q a ((⟨w, fun _ => p⟩ : Config Unit σ Λ ε α).exec schedule).world := by
  have hholds : ∀ k, (alone inv allow).Holds k Q E p w := by
    intro k w' hl
    obtain rfl := later_alone hl
    exact h
  let c : Config Unit σ Λ ε α := ⟨w, fun _ => p⟩
  have hc : (alone inv allow).inv c.world := hw
  have hall : ∀ k, (alone inv allow).Holds k ((fun _ => Q) k) ((fun _ => E) k) p w := hholds
  obtain ⟨hinv, hthreads⟩ := Protocol.exec hc hall hmeets
  have hpost := (hthreads ()).now hinv
  rwa [hret] at hpost

/-- A program that changes nothing answers what its run answers. -/
theorem safe_alone_of_reads (hinv : ∀ w, inv w) {p : Prog σ Λ ε α} (hp : p.Reads)
    {s : σ} (hw : w.store = s) :
    (alone inv allow).Safe () (fun a w' => w'.store = s ∧ p.run s = (.ok a, s))
      (fun _ w' => w'.store = s) p w := by
  induction p generalizing w with
  | ret a =>
    subst hw
    exact ⟨rfl, rfl⟩
  | throw e => exact hw
  | tau run next _ => exact hp.elim
  | stmt name run next refused ih _ =>
    obtain ⟨rfl, ⟨e, rfl⟩, hnext⟩ := hp
    intro o ho
    refine ⟨good_alone (hinv _), fun w' hl => ?_⟩
    obtain rfl := later_alone hl
    have hstore : (w.after () name id o).store = s := by rw [World.after_id_store, hw]
    cases o with
    | done =>
      have hrun : (Prog.stmt name id next (.throw e)).run s = (next s).run s := rfl
      rw [hrun]
      subst hw
      exact ih w.store (hnext w.store) hstore
    | refused => exact hstore
    | lost => exact hstore

/-- Where every statement is carried out and answers from here on, a program ends as its run
does. -/
theorem safe_alone_of_run {D : World Unit σ Λ → Prop} (hinv : ∀ w, D w → inv w)
    (hsilent : ∀ w run, D w → D (w.silent run))
    (hafter : ∀ w name run, D w → D (w.after () name run .done))
    (hdone : ∀ w l o, D w → allow w l o → o = .done) {p : Prog σ Λ ε α} (hD : D w)
    (h : ∀ w', D w' → w'.store = (p.run w.store).2 → match (p.run w.store).1 with
      | .ok a => Q a w'
      | .error e => E e w') :
    (alone inv allow).Safe () Q E p w := by
  induction p generalizing w with
  | ret a => exact h w hD rfl
  | throw e => exact h w hD rfl
  | tau run next ih =>
    refine ⟨good_alone (hinv _ (hsilent w run hD)), fun w' hl => ?_⟩
    obtain rfl := later_alone hl
    exact ih _ (hsilent w run hD) h
  | stmt name run next refused ih _ =>
    intro o ho
    obtain rfl := hdone w _ o hD ho
    refine ⟨good_alone (hinv _ (hafter w name run hD)), fun w' hl => ?_⟩
    obtain rfl := later_alone hl
    exact ih _ (hafter w name run hD) h

end Rules

/-! ### The run in which nothing goes wrong -/

/-- The only program is replaced. -/
theorem update_unit (threads : Unit → Prog σ Λ ε α) (p : Prog σ Λ ε α) :
    Function.update threads () p = fun _ => p := by
  funext i
  exact Function.update_self ..

/-- A statement that the run alone comes to is in the trace of that run. -/
theorem mem_trace_of_strike {p : Prog σ Λ ε α} {w : World Unit σ Λ} {x : Strike σ Λ ε α}
    (hx : x ∈ p.strikes w.store) :
    ∃ n, ⟨(), x.label, .done⟩ ∈
      ((⟨w, fun _ => p⟩ : Config Unit σ Λ ε α).exec (turns () n)).world.trace := by
  induction p generalizing w with
  | ret a => cases hx
  | throw e => cases hx
  | tau run next ih =>
    obtain ⟨n, hn⟩ := ih w.store (w := w.silent run) hx
    exact ⟨n + 1, by simpa [turns, List.replicate_succ, Config.step, update_unit] using hn⟩
  | stmt name run next refused ih _ =>
    rcases List.mem_cons.1 hx with rfl | hx
    · exact ⟨1, by simp [turns, Config.step]⟩
    · obtain ⟨n, hn⟩ := ih w.store (w := w.after () name run .done) hx
      exact ⟨n + 1, by simpa [turns, List.replicate_succ, Config.step, update_unit] using hn⟩

/-- The run alone comes to a statement whose label is one of those. -/
def Prog.Reaches (p : Prog σ Λ ε α) (s : σ) (B : Λ → Prop) : Prop := ∃ x ∈ p.strikes s, B x.label

namespace Prog.Reaches

variable {p : Prog σ Λ ε α} {s s' : σ} {B : Λ → Prop} {a : α}

theorem bind_left {f : α → Prog σ Λ ε β} (h : p.Reaches s B) : (p >>= f).Reaches s B := by
  obtain ⟨x, hx, hB⟩ := h
  rw [Reaches, strikes_bind]
  exact ⟨x.andThen f, List.mem_append_left _ (List.mem_map_of_mem hx), hB⟩

theorem bind_right {f : α → Prog σ Λ ε β} (hp : p.run s = (.ok a, s')) (h : (f a).Reaches s' B) :
    (p >>= f).Reaches s B := by
  obtain ⟨x, hx, hB⟩ := h
  rw [Reaches, strikes_bind, hp, strikesThen_ok]
  exact ⟨x, List.mem_append_right _ hx, hB⟩

theorem tryCatch {g : ε → Prog σ Λ ε' α} (h : p.Reaches s B) : (p.tryCatch g).Reaches s B := by
  obtain ⟨x, hx, hB⟩ := h
  rw [Reaches, strikes_tryCatch]
  exact ⟨x.orElse g, List.mem_append_left _ (List.mem_map_of_mem hx), hB⟩

end Prog.Reaches

end MailRuntime.Interaction
