import MailRuntime.Interaction.RelyGuarantee

/-!
# What is read where some things never change

A program may be known to answer nothing but certain values as long as every store it finds has
a property, whoever changed it in between. Where an invariant of the world gives the property, a
safe program answers only these.
-/

namespace MailRuntime.Interaction

variable {ι σ Λ ε ε' α β : Type} {I : σ → Prop} {B B' : α → Prop} {C : β → Prop}

namespace Prog

/-- Every answer of the program is in `B` if every store that a step of it finds is in `I`. -/
def ReturnsIn (I : σ → Prop) (B : α → Prop) : Prog σ Λ ε α → Prop
  | ret a => B a
  | throw _ => True
  | tau _ next => ∀ s, I s → (next s).ReturnsIn I B
  | stmt _ _ next refused => (∀ s, I s → (next s).ReturnsIn I B) ∧ refused.ReturnsIn I B

@[simp] theorem returnsIn_ret {a : α} : (ret a : Prog σ Λ ε α).ReturnsIn I B ↔ B a := Iff.rfl

@[simp] theorem returnsIn_throw {e : ε} : (throw e : Prog σ Λ ε α).ReturnsIn I B := trivial

theorem returnsIn_perform {name : σ → Λ} {f : σ → α × σ} {e : ε} (h : ∀ s, I s → B (f s).1) :
    (perform name f e).ReturnsIn I B := ⟨h, trivial⟩

theorem ReturnsIn.bind {p : Prog σ Λ ε α} {f : α → Prog σ Λ ε β} (hp : p.ReturnsIn I B)
    (hf : ∀ a, B a → (f a).ReturnsIn I C) : (p >>= f).ReturnsIn I C := by
  induction p with
  | ret a => exact hf a hp
  | throw e => trivial
  | tau run next ih => exact fun s hs => ih s (hp s hs)
  | stmt name run next refused ihn ihr => exact ⟨fun s hs => ihn s (hp.1 s hs), ihr hp.2⟩

theorem returnsIn_true (p : Prog σ Λ ε α) : p.ReturnsIn I fun _ => True := by
  induction p with
  | ret a => trivial
  | throw e => trivial
  | tau run next ih => exact fun s _ => ih s
  | stmt name run next refused ihn ihr => exact ⟨fun s _ => ihn s, ihr⟩

/-- Nothing need be known of the first part. -/
theorem ReturnsIn.bind_any {p : Prog σ Λ ε α} {f : α → Prog σ Λ ε β}
    (hf : ∀ a, (f a).ReturnsIn I C) : (p >>= f).ReturnsIn I C :=
  (returnsIn_true p).bind fun a _ => hf a

end Prog

namespace Protocol

variable {P : Protocol ι σ Λ} {i : ι} {Q : α → World ι σ Λ → Prop} {E : ε → World ι σ Λ → Prop}
  {w : World ι σ Λ}

/-- A safe program answers only what it can where the invariant holds. -/
theorem Safe.returnsIn (hI : ∀ w, P.inv w → I w.store) {p : Prog σ Λ ε α}
    (hp : p.ReturnsIn I B) (hw : P.inv w) (h : P.Safe i Q E p w) :
    P.Safe i (fun a w => Q a w ∧ B a) E p w := by
  induction p generalizing w with
  | ret a => exact ⟨h, hp⟩
  | throw e => exact h
  | tau run next ih => exact ⟨h.1, fun w' hl => ih _ (hp _ (hI w hw)) hl.inv (h.2 w' hl)⟩
  | stmt name run next refused ihn ihr =>
    intro o ho
    obtain ⟨hg, hn⟩ := h o ho
    refine ⟨hg, fun w' hl => ?_⟩
    cases o with
    | done => exact ihn _ (hp.1 _ (hI w hw)) hl.inv (hn w' hl)
    | refused => exact ihr hp.2 hl.inv (hn w' hl)
    | lost => exact ihr hp.2 hl.inv (hn w' hl)

end Protocol

end MailRuntime.Interaction
