import TemplateVariants.Expand.Document
import TemplateVariants.Proofs.Expansion.Basic
import TemplateVariants.Proofs.Performing
import TemplateVariants.Proofs.Steps

/-!
# Two runs of a step

Two steps agree if from every session they end alike: both with the same halt, or both with values
that are related, and in each case in the same session. Steps that are put together from agreeing
ones agree. A token is handed the line that it stands in, down to the arguments of its arguments; but
all that this line decides is how the lines brought by lists are indented. So in two lines a token
turns into the same, up to the indentation of these lines (`Token.agree_expand`).
-/

namespace TemplateVariants

open ListForm Randomness

namespace Compiling

variable {ε δ G α α' β β' μ : Type}

/-- Both results are values that are related or the same halt, and leave the same session. -/
inductive Alike (R : α → α' → Prop) :
    EStateM.Result (Halt ε) (Session G) α → EStateM.Result (Halt ε) (Session G) α' → Prop where
  | ok {a : α} {a' : α'} {s : Session G} :
      R a a' →
      Alike R (.ok a s) (.ok a' s)
  | halt {halt : Halt ε} {s : Session G} :
      Alike R (.error halt s) (.error halt s)

/-- From every session both steps end alike. -/
def Agree (R : α → α' → Prop) (x : Compiling ε G α) (x' : Compiling ε G α') : Prop :=
  ∀ s : Session G, Alike R (x s) (x' s)

/-- Both values are made from one, each in its own way. -/
def Made (f : μ → α) (f' : μ → α') (a : α) (a' : α') : Prop :=
  ∃ m, a = f m ∧ a' = f' m

variable {R : α → α' → Prop} {Q : β → β' → Prop} {x : Compiling ε G α} {x' : Compiling ε G α'}

/-! ## Sequencing -/

/-- Two runs that are alike go on alike. What comes next may use that both have come this far. -/
theorem Alike.bind {s : Session G} {f : α → Compiling ε G β} {f' : α' → Compiling ε G β'}
    (h : Alike R (x s) (x' s))
    (hf : ∀ a a' s₁, x s = .ok a s₁ → R a a' → Alike Q (f a s₁) (f' a' s₁)) :
    Alike Q ((x >>= f) s) ((x' >>= f') s) := by
  cases hx : x s with
  | ok a s₁ =>
      cases hx' : x' s with
      | ok a' s₁' =>
          rw [bind_of_ok hx, bind_of_ok hx']
          rw [hx, hx'] at h
          cases h with
          | ok hR =>
              exact hf a a' s₁ hx hR
      | error halt' s₁' =>
          rw [hx, hx'] at h
          cases h
  | error halt s₁ =>
      cases hx' : x' s with
      | ok a' s₁' =>
          rw [hx, hx'] at h
          cases h
      | error halt' s₁' =>
          rw [bind_of_error hx, bind_of_error hx']
          rw [hx, hx'] at h
          cases h
          exact .halt

theorem agree_pure {a : α} {a' : α'} (h : R a a') :
    Agree R (pure a : Compiling ε G α) (pure a') :=
  fun _ => .ok h

/-- A step agrees with itself. -/
theorem agree_refl (x : Compiling ε G α) : Agree Eq x x := by
  intro s
  cases x s with
  | ok a s₁ =>
      exact .ok rfl
  | error halt s₁ =>
      exact .halt

theorem Agree.bind {f : α → Compiling ε G β} {f' : α' → Compiling ε G β'} (h : Agree R x x')
    (hf : ∀ a a', R a a' → Agree Q (f a) (f' a')) : Agree Q (x >>= f) (x' >>= f') := by
  intro s
  refine (h s).bind ?_
  intro a a' s₁ _ hR
  exact hf a a' hR s₁

/-- Behind one and the same step it is enough to agree on each of its values. -/
theorem agree_bind {f : α → Compiling ε G β} {f' : α → Compiling ε G β'}
    (h : ∀ a, Agree Q (f a) (f' a)) : Agree Q (x >>= f) (x >>= f') := by
  refine (agree_refl x).bind ?_
  rintro a _ rfl
  exact h a

theorem Agree.mapFault (h : Agree R x x') (f : ε → δ) :
    Agree R (Compiling.mapFault f x) (Compiling.mapFault f x') := by
  intro s
  have hs := h s
  unfold Compiling.mapFault
  cases hx : x s with
  | ok a s₁ =>
      cases hx' : x' s with
      | ok a' s₁' =>
          rw [hx, hx'] at hs
          cases hs with
          | ok hR =>
              exact .ok hR
      | error halt' s₁' =>
          rw [hx, hx'] at hs
          cases hs
  | error halt s₁ =>
      cases hx' : x' s with
      | ok a' s₁' =>
          rw [hx, hx'] at hs
          cases hs
      | error halt' s₁' =>
          rw [hx, hx'] at hs
          cases hs
          cases halt with
          | failed e =>
              exact .halt
          | stalled =>
              exact .halt

/-- Where the steps for the elements make their values from one, so do those for the list. -/
theorem agree_mapM {σ : Type} {f : μ → α} {f' : μ → α'} {step : σ → Compiling ε G α}
    {step' : σ → Compiling ε G α'} {as : List σ}
    (h : ∀ a ∈ as, Agree (Made f f') (step a) (step' a)) :
    Agree (Made (List.map f) (List.map f')) (as.mapM step) (as.mapM step') := by
  induction as with
  | nil =>
      rw [List.mapM_nil, List.mapM_nil]
      exact agree_pure ⟨[], rfl, rfl⟩
  | cons a as ih =>
      rw [List.mapM_cons, List.mapM_cons]
      refine (h a List.mem_cons_self).bind ?_
      rintro _ _ ⟨m, rfl, rfl⟩
      refine (ih fun other hother => h other (List.mem_cons_of_mem _ hother)).bind ?_
      rintro _ _ ⟨ms, rfl, rfl⟩
      exact agree_pure ⟨m :: ms, rfl, rfl⟩

end Compiling

/-! ## Replacements up to indentation -/

namespace Replacement

/-- The replacement with the lines beside it indented. -/
def indented (indent : String) (bare : Replacement) : Replacement where
  before := bare.before.map (startLine indent)
  result := bare.result
  after := bare.after.map (startLine indent)

theorem indented_plain (indent : String) (result : Line) :
    (plain result).indented indent = plain result := rfl

theorem indented_within (indent : String) (parts : List Replacement) (own : Replacement) :
    (within parts own).indented indent =
      within (parts.map (indented indent)) (own.indented indent) := by
  simp [indented, within, List.flatMap_map, List.map_flatMap]

/-- However a list is written, the line decides the indentation and nothing else. -/
theorem indented_writing (indent : String) (elements : List Line) (writing : Writing) :
    (writing.replacement "" elements).indented indent = writing.replacement indent elements := by
  cases writing with
  | literal spacing breaks =>
      rfl
  | appended name =>
      simp [Writing.replacement, appended, indented, startLine]

end Replacement

/-! ## Commands in two lines -/

section Expansion

open Compiling Replacement

variable {G : Type} {context context' : Line}

/-- Both replacements are the same, but for the indentation that the lines give. -/
abbrev SameBare (context context' : Line) : Replacement → Replacement → Prop :=
  Made (indented (indentation context)) (indented (indentation context'))

/-- The text of an argument is read off what stands in its place, which is the same. -/
theorem agree_asText {step step' : Compiling Cause G Replacement} (argument : Token)
    (h : Agree (SameBare context context') step step') :
    Agree (Made (Prod.map id (indented (indentation context)))
      (Prod.map id (indented (indentation context')))) (asText argument step)
      (asText argument step') := by
  refine h.bind ?_
  rintro _ _ ⟨bare, rfl, rfl⟩
  refine agree_bind ?_
  intro text
  exact agree_pure ⟨(text, bare), rfl, rfl⟩

/-- The note tells how many lines there are, which is the same. -/
theorem agree_noted {step step' : Compiling Cause G Replacement} (command : Command)
    (h : Agree (SameBare context context') step step') :
    Agree (SameBare context context') (noted command step) (noted command step') := by
  refine h.bind ?_
  rintro _ _ ⟨bare, rfl, rfl⟩
  simp only [indented, List.length_map]
  refine agree_bind ?_
  intro _
  exact agree_pure ⟨bare, rfl, rfl⟩

variable [WordSource G]

theorem agree_write (parts : List Replacement) (elements : List Line) :
    Agree (SameBare context context')
      (ListForm.write context (parts.map (indented (indentation context))) elements :
        Compiling Cause G Replacement)
      (ListForm.write context' (parts.map (indented (indentation context'))) elements) := by
  rw [write_eq, write_eq]
  refine agree_bind ?_
  intro writing
  refine agree_pure ⟨within parts (writing.replacement "" elements), ?_, ?_⟩
  · rw [indented_within, indented_writing]
  · rw [indented_within, indented_writing]

theorem Token.agree_expandTexts {tokens : List Token}
    (h : ∀ token ∈ tokens, Agree (SameBare context context')
      (token.expand context : Compiling Cause G Replacement) (token.expand context')) :
    Agree (Made (List.map (Prod.map id (indented (indentation context))))
        (List.map (Prod.map id (indented (indentation context')))))
      (Token.expandTexts context tokens : Compiling Cause G _)
      (Token.expandTexts context' tokens) := by
  induction tokens with
  | nil =>
      rw [Token.expandTexts, Token.expandTexts]
      exact agree_pure ⟨[], rfl, rfl⟩
  | cons token tokens ih =>
      rw [Token.expandTexts, Token.expandTexts]
      refine (agree_asText token (h token List.mem_cons_self)).bind ?_
      rintro _ _ ⟨first, rfl, rfl⟩
      refine (ih fun other hother => h other (List.mem_cons_of_mem _ hother)).bind ?_
      rintro _ _ ⟨rest, rfl, rfl⟩
      exact agree_pure ⟨first :: rest, rfl, rfl⟩

/-- In two lines a token turns into the same, up to the indentation that the lines give. -/
theorem Token.agree_expand (tokens : List Token) :
    ∀ token ∈ tokens, Agree (SameBare context context')
      (token.expand context : Compiling Cause G Replacement) (token.expand context') := by
  induction tokens using Line.row_induction with
  | nil =>
      simp
  | literal text tokens ih =>
      refine List.forall_mem_cons.2 ⟨?_, ih⟩
      rw [Token.expand, Token.expand]
      exact agree_pure ⟨plain [.literal text], rfl, rfl⟩
  | var name candidates tokens ihcandidates ih =>
      refine List.forall_mem_cons.2 ⟨?_, ih⟩
      rw [Token.expand, Token.expand, Command.perform, Command.perform]
      refine agree_noted _ ?_
      refine (Token.agree_expandTexts ihcandidates).bind ?_
      rintro _ _ ⟨texts, rfl, rfl⟩
      -- the candidates are the texts, which have no indentation
      simp only [List.filterMap_map, Function.comp_def, Prod.map_fst, id]
      refine agree_bind ?_
      intro identifier
      refine agree_pure ⟨within (texts.map Prod.snd) (plain [.literal identifier]), ?_, ?_⟩
      · rw [indented_within, indented_plain, List.map_map, List.map_map]
        rfl
      · rw [indented_within, indented_plain, List.map_map, List.map_map]
        rfl
  | get name tokens ih =>
      refine List.forall_mem_cons.2 ⟨?_, ih⟩
      rw [Token.expand, Token.expand, Command.perform, Command.perform]
      refine agree_noted _ (agree_bind ?_)
      intro value
      exact agree_pure ⟨plain [value], rfl, rfl⟩
  | collection elements tokens ihelements ih =>
      refine List.forall_mem_cons.2 ⟨?_, ih⟩
      rw [Token.expand, Token.expand, Command.perform, Command.perform, Token.expandAll_eq_mapM,
        Token.expandAll_eq_mapM]
      refine agree_noted _ ?_
      refine (agree_mapM ihelements).bind ?_
      rintro _ _ ⟨parts, rfl, rfl⟩
      simp only [List.map_map]
      exact agree_write parts _
  | build size element tokens ihsize ihelement ih =>
      refine List.forall_mem_cons.2 ⟨?_, ih⟩
      rw [Token.expand, Token.expand, Command.perform, Command.perform]
      refine agree_noted _ ?_
      refine (agree_asText size (ihsize size (by simp))).bind ?_
      rintro _ _ ⟨⟨text, sized⟩, rfl, rfl⟩
      refine agree_bind ?_
      intro count
      refine (agree_mapM fun _ _ => ihelement element (by simp)).bind ?_
      rintro _ _ ⟨parts, rfl, rfl⟩
      simp only [List.map_map]
      exact agree_write (sized :: parts) _
  | rand kind lower upper tokens ihlower ihupper ih =>
      refine List.forall_mem_cons.2 ⟨?_, ih⟩
      rw [Token.expand, Token.expand, Command.perform, Command.perform]
      refine agree_noted _ ?_
      refine (agree_asText lower (ihlower lower (by simp))).bind ?_
      rintro _ _ ⟨⟨low, first⟩, rfl, rfl⟩
      refine (agree_asText upper (ihupper upper (by simp))).bind ?_
      rintro _ _ ⟨⟨high, second⟩, rfl, rfl⟩
      refine agree_bind ?_
      intro text
      refine agree_pure ⟨within [first, second] (plain [.literal text]), ?_, ?_⟩
      · rw [indented_within, indented_plain]
        rfl
      · rw [indented_within, indented_plain]
        rfl

end Expansion

end TemplateVariants
