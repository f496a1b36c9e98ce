import Mathlib
import MailRuntime.Inbound.Ingest
import MailRuntime.Js.Decoding
import MailRuntime.Mail.Descent

/-!
# Raw e-mail that cannot be parsed

The parser throws where `atob` does: at a part that says its body is base64, and whose body is
not. Nothing else stops it. Each part of a multipart is shorter than the multipart, so that the
descent ends, and how deep it may go makes no difference.
-/

namespace MailRuntime

namespace Js

/-- A fold that may fail does not, if no step does. -/
theorem isSome_foldlM {α β : Type} {f : β → α → Option β} {p : α → Prop}
    (h : ∀ b a, (f b a).isSome = true ↔ p a) (l : List α) (b : β) :
    (l.foldlM f b).isSome = true ↔ ∀ a ∈ l, p a := by
  induction l generalizing b with
  | nil => simp
  | cons a rest ih =>
    have ha := h b a
    rw [List.foldlM_cons, List.forall_mem_cons, ← ha]
    cases f b a with
    | none => simp
    | some b' => simpa using ih b'

end Js

open Js Interaction

variable {env : Env}

/-! ### What the parser comes to -/

/-- The headers and the body of a raw e-mail, as `collectContent` is given them. -/
def rawEntity (env : Env) (raw : List Char) : Headers × List Char :=
  (decodeSubject env (splitHeaderAndBody env raw).1, (splitHeaderAndBody env raw).2)

/-- The parts of a raw e-mail that the parser decodes. -/
def rawLeaves (env : Env) (raw : List Char) : List (Headers × List Char) :=
  visited env ((rawEntity env raw).2.length + 1) (rawEntity env raw)

/-- The part says that its body is base64. -/
def SaysBase64 (env : Env) (leaf : Headers × List Char) : Prop :=
  ((leaf.1.get "content-transfer-encoding").map fun e => env.toLowerCase (String.ofList e)) =
    some "base64"

/-- If the part says that its body is base64, it is, but for white space. -/
def Decodable64 (env : Env) (leaf : Headers × List Char) : Prop :=
  SaysBase64 env leaf → IsBase64 (leaf.2.filter fun c => !isSpace c)

instance (env : Env) (leaf : Headers × List Char) : Decidable (Decodable64 env leaf) := by
  unfold Decodable64 SaysBase64
  infer_instance

theorem isSome_decodeBody (env : Env) (leaf : Headers × List Char) :
    (decodeBody env leaf.2 (leaf.1.get "content-transfer-encoding")).isSome = true ↔
      Decodable64 env leaf := by
  unfold decodeBody Decodable64 SaysBase64
  split
  · next h => simp [h, isSome_atob]
  · next h => simp [h]
  · next h _ => exact ⟨fun _ hbase64 => absurd hbase64 h, fun _ => rfl⟩

/-- Whether a part can be collected does not depend on what has been. -/
theorem isSome_collectLeaf (env : Env) (output : Content) (leaf : Headers × List Char) :
    (collectLeaf env output leaf).isSome = true ↔ Decodable64 env leaf := by
  rw [← isSome_decodeBody, collectLeaf, collectPart]
  cases decodeBody env leaf.2 (leaf.1.get "content-transfer-encoding") with
  | none => simp
  | some decoded =>
    simp only [Option.bind_eq_bind, Option.bind_some, Option.isSome_some, iff_true]
    split
    · rfl
    split <;> rfl

theorem isSome_parseRawEmail (env : Env) (raw : List Char) :
    (parseRawEmail env raw).isSome = true ↔ ∀ leaf ∈ rawLeaves env raw, Decodable64 env leaf := by
  rw [rawLeaves, ← isSome_foldlM (isSome_collectLeaf env) _ {}, ← collectContent_eq]
  unfold parseRawEmail rawEntity
  dsimp only
  cases collectContent env ((splitHeaderAndBody env raw).2.length + 1)
    (decodeSubject env (splitHeaderAndBody env raw).1, (splitHeaderAndBody env raw).2) {} <;> simp

/-- An ingest that cannot parse the raw object of its job fails. -/
theorem run_processEmailIngestJob_of_none {job : EmailIngestJob} {s : Db} {raw : List Char}
    (hraw : (s.object job.rawR2Key).map (Blob.text env) = some raw)
    (hnone : parseRawEmail env raw = none) :
    (processEmailIngestJob env job).run s =
      (.error (Exn.error "atob() called with invalid base64-encoded data"), s) := by
  obtain ⟨object, hobject, rfl⟩ := Option.map_eq_some_iff.1 hraw
  have hload : (loadParsedEmail env job.rawR2Key).run s =
      (.error (Exn.error "atob() called with invalid base64-encoded data"), s) := by
    rw [loadParsedEmail, Prog.run_bind]
    have hget : (r2Get job.rawR2Key).run s = (.ok (s.object job.rawR2Key), s) := rfl
    rw [hget, Prog.andThen_ok, hobject]
    dsimp only
    rw [hnone]
    rfl
  have hmessage : (getMessage job.messageId).run s = (.ok (s.message job.messageId), s) := rfl
  rw [processEmailIngestJob, Prog.run_bind, hmessage, Prog.andThen_ok, Prog.run_bind, hload,
    Prog.andThen_error]

/-! ### The result -/

end MailRuntime
