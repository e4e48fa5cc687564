import TemplateVariants.Expand.Document
import TemplateVariants.Proofs.Expansion.Basic
import TemplateVariants.Proofs.Performing

/-!
# Faults

`FaultsIn P step s` says that a fault with which the step ends in the session `s` satisfies `P`. It
is taken apart like the step itself. A draw that loses its patience is no fault.

Commands fault in their syntax, in a conversion or in a binding, and in nothing else
(`Token.faultsIn_expand`); a pass says on which line (`faultsIn_expandPass`).
-/

namespace TemplateVariants

open ListForm Randomness

namespace Compiling

variable {ε δ G α β : Type} {P : ε → Prop} {s : Session G}

/-- The faults with which the step may end in the session satisfy `P`. -/
def FaultsIn (P : ε → Prop) (step : Compiling ε G α) (s : Session G) : Prop :=
  ∀ e s', step s = .error (.failed e) s' → P e

/-! ## Sequencing -/

theorem faultsIn_bind {x : Compiling ε G α} {f : α → Compiling ε G β} :
    FaultsIn P (x >>= f) s ↔
      FaultsIn P x s ∧ ∀ a s₁, x s = .ok a s₁ → FaultsIn P (f a) s₁ := by
  unfold FaultsIn
  change (∀ e s', EStateM.bind x f s = .error (.failed e) s' → P e) ↔ _
  unfold EStateM.bind
  cases x s with
  | ok a s₁ =>
      simp
  | error halt s₁ =>
      simp

@[simp]
theorem faultsIn_pure (a : α) : FaultsIn P (pure a : Compiling ε G α) s := by
  intro e s' h
  change EStateM.Result.ok a s = .error (Halt.failed e) s' at h
  cases h

@[simp]
theorem faultsIn_get : FaultsIn P (get : Compiling ε G (Session G)) s := by
  intro e s' h
  change EStateM.Result.ok s s = .error (Halt.failed e) s' at h
  cases h

@[simp]
theorem faultsIn_modify (f : Session G → Session G) :
    FaultsIn P (modify f : Compiling ε G Unit) s := by
  intro e s' h
  change EStateM.Result.ok () (f s) = .error (Halt.failed e) s' at h
  cases h

@[simp]
theorem faultsIn_record (event : Event) : FaultsIn P (record event : Compiling ε G Unit) s :=
  faultsIn_modify _

@[simp]
theorem faultsIn_fail {error : ε} : FaultsIn P (fail error : Compiling ε G α) s ↔ P error := by
  have hfail : (fail error : Compiling ε G α) s = .error (.failed error) s := rfl
  simp [FaultsIn, hfail]

theorem faultsIn_ofExcept {x : Except ε α} :
    FaultsIn P (ofExcept x : Compiling ε G α) s ↔ ∀ e, x = .error e → P e := by
  cases x with
  | ok a =>
      simp [ofExcept]
  | error e =>
      simp [ofExcept]

/-- A draw is no cause of a fault. -/
@[simp]
theorem faultsIn_roll (draw : Draw G α) : FaultsIn P (roll draw : Compiling ε G α) s := by
  intro e s' h
  unfold roll at h
  split at h
  · cases h
  · cases h

theorem faultsIn_mapFault {P : δ → Prop} {f : ε → δ} {step : Compiling ε G α} :
    FaultsIn P (mapFault f step) s ↔ FaultsIn (fun e => P (f e)) step s := by
  unfold FaultsIn mapFault
  cases step s with
  | ok a s₁ =>
      simp
  | error halt s₁ =>
      cases halt with
      | failed e =>
          simp
      | stalled =>
          simp

theorem faultsIn_mapM {f : α → Compiling ε G β} {as : List α}
    (h : ∀ a ∈ as, ∀ s, FaultsIn P (f a) s) (s : Session G) : FaultsIn P (as.mapM f) s := by
  intro e s' hfault
  rcases mapM_eq_error.1 hfault with ⟨before, a, after, bs, s₁, rfl, -, hfails⟩
  exact h a (by simp) s₁ e s' hfails

/-! ## The steps of commands -/

section Steps

variable {P : Cause → Prop}

theorem faultsIn_noted {command : Command} {step : Compiling Cause G Replacement} :
    FaultsIn P (noted command step) s ↔ FaultsIn P step s := by
  constructor
  · intro h
    exact (faultsIn_bind.1 h).1
  · intro h
    refine faultsIn_bind.2 ⟨h, fun expanded s₁ _ => ?_⟩
    exact faultsIn_bind.2 ⟨faultsIn_record _, fun _ _ _ => faultsIn_pure _⟩

/-- A name always gets an identifier, unless the draw stalls. -/
theorem faultsIn_introduce [WordSource G] (name : String) (candidates : List String) :
    FaultsIn P (introduce name candidates : Compiling Cause G String) s := by
  refine faultsIn_bind.2 ⟨faultsIn_get, fun _ _ _ => ?_⟩
  refine faultsIn_bind.2 ⟨faultsIn_roll _, fun identifier s₁ _ => ?_⟩
  refine faultsIn_bind.2 ⟨faultsIn_modify _, fun _ s₂ _ => ?_⟩
  exact faultsIn_bind.2 ⟨faultsIn_record _, fun _ _ _ => faultsIn_pure _⟩

theorem faultsIn_fetch {name : String} :
    FaultsIn P (fetch name : Compiling Cause G Token) s ↔
      (s.lookup? name = none → P (.binding (.unbound name))) := by
  simp only [fetch, faultsIn_bind, faultsIn_get, true_and, get_eq_ok]
  constructor
  · intro h hnone
    have hfetch := h s s ⟨rfl, rfl⟩
    simpa [hnone] using hfetch
  · rintro h _ _ ⟨rfl, rfl⟩
    cases hvalue : s.lookup? name with
    | some value =>
        simp
    | none =>
        simpa using h hvalue

end Steps

end Compiling

/-! ## What commands fault in -/

namespace Cause

/-- The fault is in the syntax of a command, in a conversion or in a binding. -/
def IsOfCommand (cause : Cause) : Prop :=
  cause.kind ∈ [ErrorKind.syntactic, .conversion, .binding]

@[simp]
theorem isOfCommand_syntactic (fault : SyntaxFault) : (Cause.syntactic fault).IsOfCommand := by
  simp [IsOfCommand, kind]

@[simp]
theorem isOfCommand_conversion (fault : ConversionFault) :
    (Cause.conversion fault).IsOfCommand := by
  simp [IsOfCommand, kind]

@[simp]
theorem isOfCommand_binding (fault : BindingFault) : (Cause.binding fault).IsOfCommand := by
  simp [IsOfCommand, kind]

theorem IsOfCommand.kind_ne_divergence {cause : Cause} (h : cause.IsOfCommand) :
    cause.kind ≠ .divergence := by
  intro hkind
  simp [IsOfCommand, hkind] at h

end Cause

namespace Argument

variable {text : String} {cause : Cause}

theorem isOfCommand_of_size (h : size text = .error cause) : cause.IsOfCommand := by
  unfold size at h
  split at h
  · cases h
  · cases h
    simp

theorem isOfCommand_of_integer (h : integer text = .error cause) : cause.IsOfCommand := by
  unfold integer at h
  split at h
  · cases h
  · cases h
    simp

theorem isOfCommand_of_real (h : real text = .error cause) : cause.IsOfCommand := by
  unfold real at h
  split at h
  · cases h
  · cases h
    simp

end Argument

section Expansion

variable {G : Type}

namespace Compiling

variable {s : Session G}

theorem isOfCommand_of_plainText {argument : Token} {expanded : Replacement} {cause : Cause}
    (h : plainText argument expanded = .error cause) : cause.IsOfCommand := by
  unfold plainText at h
  split at h
  · cases h
  · cases argument with
    | literal _ =>
        cases h
        simp
    | command _ =>
        cases h
        simp

theorem faultsIn_asText {argument : Token} {step : Compiling Cause G Replacement}
    (h : FaultsIn Cause.IsOfCommand step s) :
    FaultsIn Cause.IsOfCommand (asText argument step) s := by
  refine faultsIn_bind.2 ⟨h, fun expanded s₁ _ => ?_⟩
  refine faultsIn_bind.2 ⟨faultsIn_ofExcept.2 fun e he => isOfCommand_of_plainText he, ?_⟩
  intro text s₂ _
  exact faultsIn_pure _

theorem faultsIn_slots (text : String) :
    FaultsIn Cause.IsOfCommand (slots text : Compiling Cause G Nat) s := by
  refine faultsIn_bind.2
    ⟨faultsIn_ofExcept.2 fun e he => Argument.isOfCommand_of_size he, fun size s₁ _ => ?_⟩
  refine faultsIn_bind.2 ⟨faultsIn_get, fun s₂ s₃ _ => ?_⟩
  dsimp only
  split
  · simp
  · exact faultsIn_pure _

variable [WordSource G]

theorem faultsIn_number (kind : NumberKind) (lower upper : String) :
    FaultsIn Cause.IsOfCommand (number kind lower upper : Compiling Cause G String) s := by
  cases kind with
  | integer =>
      refine faultsIn_bind.2
        ⟨faultsIn_ofExcept.2 fun e he => Argument.isOfCommand_of_integer he, fun low s₁ _ => ?_⟩
      refine faultsIn_bind.2
        ⟨faultsIn_ofExcept.2 fun e he => Argument.isOfCommand_of_integer he, fun high s₂ _ => ?_⟩
      split
      · simp
      · exact faultsIn_bind.2 ⟨faultsIn_roll _, fun _ _ _ => faultsIn_pure _⟩
  | real =>
      refine faultsIn_bind.2
        ⟨faultsIn_ofExcept.2 fun e he => Argument.isOfCommand_of_real he, fun low s₁ _ => ?_⟩
      refine faultsIn_bind.2
        ⟨faultsIn_ofExcept.2 fun e he => Argument.isOfCommand_of_real he, fun high s₂ _ => ?_⟩
      refine faultsIn_bind.2 ⟨faultsIn_roll _, fun x s₃ _ => ?_⟩
      dsimp only
      split
      · exact faultsIn_pure _
      · simp

theorem faultsIn_write {P : Cause → Prop} (context : Line) (parts : List Replacement)
    (elements : List Line) :
    FaultsIn P (ListForm.write context parts elements : Compiling Cause G Replacement) s := by
  rw [write_eq]
  exact faultsIn_bind.2 ⟨faultsIn_roll _, fun _ _ _ => faultsIn_pure _⟩

end Compiling

open Compiling

variable [WordSource G] {context : Line}

namespace Token

theorem faultsIn_expandAll {P : Cause → Prop} {tokens : List Token}
    (h : ∀ token ∈ tokens, ∀ s : Session G, FaultsIn P (token.expand context) s)
    (s : Session G) : FaultsIn P (Token.expandAll context tokens) s := by
  rw [expandAll_eq_mapM]
  exact faultsIn_mapM h s

theorem faultsIn_expandTexts {tokens : List Token}
    (h : ∀ token ∈ tokens, ∀ s : Session G, FaultsIn Cause.IsOfCommand (token.expand context) s)
    (s : Session G) : FaultsIn Cause.IsOfCommand (Token.expandTexts context tokens) s := by
  rw [expandTexts_eq_mapM]
  exact faultsIn_mapM (fun token htoken s => faultsIn_asText (h token htoken s)) s

/-- Commands fault in their syntax, in a conversion or in a binding. -/
theorem faultsIn_expand (tokens : List Token) :
    ∀ token ∈ tokens, ∀ s : Session G, FaultsIn Cause.IsOfCommand (token.expand context) s := by
  induction tokens using Line.row_induction with
  | nil =>
      simp
  | literal text tokens ih =>
      refine List.forall_mem_cons.2 ⟨fun s => ?_, ih⟩
      rw [Token.expand]
      exact faultsIn_pure _
  | var name candidates tokens ihcandidates ih =>
      refine List.forall_mem_cons.2 ⟨fun s => ?_, ih⟩
      rw [Token.expand, faultsIn_noted, Command.perform]
      refine faultsIn_bind.2 ⟨faultsIn_expandTexts ihcandidates s, fun parts s₁ _ => ?_⟩
      exact faultsIn_bind.2 ⟨faultsIn_introduce _ _, fun _ _ _ => faultsIn_pure _⟩
  | get name tokens ih =>
      refine List.forall_mem_cons.2 ⟨fun s => ?_, ih⟩
      rw [Token.expand, faultsIn_noted, Command.perform]
      refine faultsIn_bind.2 ⟨faultsIn_fetch.2 fun _ => ?_, fun _ _ _ => faultsIn_pure _⟩
      simp
  | collection elements tokens ihelements ih =>
      refine List.forall_mem_cons.2 ⟨fun s => ?_, ih⟩
      rw [Token.expand, faultsIn_noted, Command.perform]
      refine faultsIn_bind.2 ⟨faultsIn_expandAll ihelements s, fun parts s₁ _ => ?_⟩
      exact faultsIn_write _ _ _
  | build size element tokens ihsize ihelement ih =>
      refine List.forall_mem_cons.2 ⟨fun s => ?_, ih⟩
      rw [Token.expand, faultsIn_noted, Command.perform]
      refine faultsIn_bind.2 ⟨faultsIn_asText (ihsize size (by simp) s), fun sized s₁ _ => ?_⟩
      refine faultsIn_bind.2 ⟨faultsIn_slots _, fun count s₂ _ => ?_⟩
      -- all slots expand the same element, each in the session that the one before left
      refine faultsIn_bind.2 ⟨faultsIn_mapM (fun _ _ => ihelement element (by simp)) s₂, ?_⟩
      intro parts s₃ _
      exact faultsIn_write _ _ _
  | rand kind lower upper tokens ihlower ihupper ih =>
      refine List.forall_mem_cons.2 ⟨fun s => ?_, ih⟩
      rw [Token.expand, faultsIn_noted, Command.perform]
      refine faultsIn_bind.2 ⟨faultsIn_asText (ihlower lower (by simp) s), fun low s₁ _ => ?_⟩
      refine faultsIn_bind.2 ⟨faultsIn_asText (ihupper upper (by simp) s₁), fun high s₂ _ => ?_⟩
      exact faultsIn_bind.2 ⟨faultsIn_number _ _ _, fun _ _ _ => faultsIn_pure _⟩

end Token

/-- A fault of a pass is one of a command, and it names the line that it was met on. -/
theorem faultsIn_expandPass (file : String) (lines : List PendingLine) (s : Session G) :
    FaultsIn
      (fun e => e.cause.IsOfCommand ∧ ∃ line ∈ lines, e.location = some (.ofNumber file line.origin))
      (expandPass file lines) s := by
  refine faultsIn_bind.2 ⟨faultsIn_mapM (fun line hline s => ?_) s, fun _ _ _ => faultsIn_pure _⟩
  refine faultsIn_mapFault.2 (faultsIn_bind.2 ⟨?_, fun _ _ _ => faultsIn_pure _⟩)
  rw [← Token.expandAll_eq_mapM]
  -- the line itself adds the location to what its tokens fault in
  intro cause s' hfault
  refine ⟨?_, line, hline, by simp [CompileError.locate]⟩
  exact Token.faultsIn_expandAll (Token.faultsIn_expand line.tokens) s cause s' hfault

end Expansion

end TemplateVariants
