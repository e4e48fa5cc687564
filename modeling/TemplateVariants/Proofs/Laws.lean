import TemplateVariants.Expand.Document
import TemplateVariants.Proofs.Expansion.Basic
import TemplateVariants.Proofs.FreshIdentifiers
import TemplateVariants.Proofs.Performing

/-!
# Laws of steps

A law says how steps may end: with which session, and whether they may stall. It only has to hold of
what steps are made of, which are throws of the dice, notes in the journal, and the identifier of a
`var` with its note. Then it holds of every step however it ends, and so of the expansion of each
command, of the passes, and of whole compilations (`Document.obeys_run`). So a compilation can only
stall where its source gives many rejected words in a row (`Document.outcome_ne_stalled`).
-/

namespace TemplateVariants

open ListForm Randomness

/-- The event is neither that of a name which was bound nor that of a `var`. -/
inductive Event.IsQuiet : Event → Prop where
  | parsed (file : String) (lines commands : Nat) :
      IsQuiet (.parsed file lines commands)
  | expanded (file : String) (pass collapses lines : Nat) :
      IsQuiet (.expanded file pass collapses lines)
  | compiled (file : String) (passes bindings identifiers : Nat) :
      IsQuiet (.compiled file passes bindings identifiers)
  | collapsed {command : String} (before after : Nat) :
      command ≠ "var" →
      IsQuiet (.collapsed command before after)

/-- How a step that starts in a session may end: whether it stalls, and with which session. -/
structure Law (G : Type) [WordSource G] where
  Ends : Session G → Bool → Session G → Prop
  refl : ∀ s, Ends s false s
  trans : ∀ {s s₁ s' : Session G} {stalled : Bool},
    Ends s false s₁ → Ends s₁ stalled s' → Ends s stalled s'
  dice : ∀ {s : Session G} {dice : Dice G} {stalled : Bool},
    s.dice.Runs stalled dice → Ends s stalled { s with dice }
  record : ∀ (s : Session G) {event : Event}, event.IsQuiet → Ends s false (s.record event)
  /-- The identifier of a `var` and its note go together. -/
  introduce : ∀ {s s₁ : Session G} {name identifier : String} {candidates : List String}
    (before after : Nat),
    (Compiling.introduce name candidates : Compiling Cause G String) s = .ok identifier s₁ →
    Ends s false (s₁.record (.collapsed "var" before after))

namespace Compiling

variable {ε δ G α β : Type} [WordSource G] {law : Law G}

/-- The law allows the result of a step that started in the session. -/
inductive Allowed (law : Law G) (s : Session G) :
    EStateM.Result (Halt ε) (Session G) α → Prop where
  | ok {a : α} {s' : Session G} :
      law.Ends s false s' →
      Allowed law s (.ok a s')
  | failed {e : ε} {s' : Session G} :
      law.Ends s false s' →
      Allowed law s (.error (.failed e) s')
  | stalled {s' : Session G} :
      law.Ends s true s' →
      Allowed law s (.error .stalled s')

/-- What is allowed after an allowed step is allowed. -/
theorem Allowed.after {s s₁ : Session G} {r : EStateM.Result (Halt ε) (Session G) α}
    (h : Allowed law s₁ r) (hbefore : law.Ends s false s₁) : Allowed law s r := by
  cases h with
  | ok hends =>
      exact .ok (law.trans hbefore hends)
  | failed hends =>
      exact .failed (law.trans hbefore hends)
  | stalled hends =>
      exact .stalled (law.trans hbefore hends)

/-- From every session the step ends as the law allows. -/
def Obeys (law : Law G) (step : Compiling ε G α) : Prop :=
  ∀ s : Session G, Allowed law s (step s)

/-! ## Sequencing -/

theorem obeys_pure (a : α) : Obeys law (pure a : Compiling ε G α) :=
  fun s => .ok (law.refl s)

theorem obeys_get : Obeys law (get : Compiling ε G (Session G)) :=
  fun s => .ok (law.refl s)

theorem obeys_fail (e : ε) : Obeys law (fail e : Compiling ε G α) :=
  fun s => .failed (law.refl s)

theorem obeys_record {event : Event} (h : event.IsQuiet) :
    Obeys law (record event : Compiling ε G Unit) :=
  fun s => .ok (law.record s h)

theorem obeys_ofExcept (x : Except ε α) : Obeys law (ofExcept x : Compiling ε G α) := by
  cases x with
  | ok a =>
      exact obeys_pure a
  | error e =>
      exact obeys_fail e

theorem obeys_roll {draw : Draw G α} {P : α → Prop} (h : Gives P draw) :
    Obeys law (roll draw : Compiling ε G α) := by
  intro s
  unfold roll
  cases hdraw : draw s.dice with
  | ok a dice =>
      exact .ok (law.dice (h.ok hdraw).2)
  | error e dice =>
      exact .stalled (law.dice (h.stalled hdraw))

theorem Obeys.bind {x : Compiling ε G α} {f : α → Compiling ε G β} (hx : Obeys law x)
    (hf : ∀ a, Obeys law (f a)) : Obeys law (x >>= f) := by
  intro s
  have hfirst := hx s
  cases hresult : x s with
  | ok a s₁ =>
      rw [hresult] at hfirst
      cases hfirst with
      | ok hends =>
          rw [bind_of_ok hresult]
          exact (hf a s₁).after hends
  | error halt s₁ =>
      rw [hresult] at hfirst
      rw [bind_of_error hresult]
      cases hfirst with
      | failed hends =>
          exact .failed hends
      | stalled hends =>
          exact .stalled hends

theorem Obeys.mapFault {step : Compiling ε G α} (h : Obeys law step) (f : ε → δ) :
    Obeys law (Compiling.mapFault f step) := by
  intro s
  have hstep := h s
  unfold Compiling.mapFault
  cases hresult : step s with
  | ok a s₁ =>
      rw [hresult] at hstep
      cases hstep with
      | ok hends =>
          exact .ok hends
  | error halt s₁ =>
      rw [hresult] at hstep
      cases hstep with
      | failed hends =>
          exact .failed hends
      | stalled hends =>
          exact .stalled hends

theorem obeys_mapM {f : α → Compiling ε G β} {as : List α} (h : ∀ a ∈ as, Obeys law (f a)) :
    Obeys law (as.mapM f) := by
  induction as with
  | nil =>
      rw [List.mapM_nil]
      exact obeys_pure _
  | cons a as ih =>
      rw [List.mapM_cons]
      refine (h a List.mem_cons_self).bind fun b => ?_
      refine (ih fun other hother => h other (List.mem_cons_of_mem _ hother)).bind fun bs => ?_
      exact obeys_pure _

/-! ## The steps of commands -/

theorem obeys_fetch (name : String) : Obeys law (fetch name : Compiling Cause G Token) := by
  refine obeys_get.bind fun s => ?_
  cases s.lookup? name with
  | none =>
      exact obeys_fail _
  | some value =>
      exact obeys_pure value

theorem obeys_slots (text : String) : Obeys law (slots text : Compiling Cause G Nat) := by
  refine (obeys_ofExcept _).bind fun size => obeys_get.bind fun s => ?_
  dsimp only
  split
  · exact obeys_fail _
  · exact obeys_pure _

theorem Obeys.asText {step : Compiling Cause G Replacement} (h : Obeys law step)
    (argument : Token) : Obeys law (Compiling.asText argument step) :=
  h.bind fun _ => (obeys_ofExcept _).bind fun _ => obeys_pure _

theorem Obeys.noted {step : Compiling Cause G Replacement} (h : Obeys law step)
    {command : Command} (hname : command.name ≠ "var") :
    Obeys law (Compiling.noted command step) := by
  refine h.bind fun expanded => ?_
  exact (obeys_record (.collapsed _ _ hname)).bind fun _ => obeys_pure _

theorem obeys_number (kind : NumberKind) (lower upper : String) :
    Obeys law (number kind lower upper : Compiling Cause G String) := by
  cases kind with
  | integer =>
      refine (obeys_ofExcept _).bind fun low => (obeys_ofExcept _).bind fun high => ?_
      split
      · exact obeys_fail _
      · exact (obeys_roll (gives_between low high)).bind fun _ => obeys_pure _
  | real =>
      refine (obeys_ofExcept _).bind fun low => (obeys_ofExcept _).bind fun high => ?_
      refine (obeys_roll gives_unit).bind fun x => ?_
      dsimp only
      split
      · exact obeys_pure _
      · exact obeys_fail _

theorem obeys_write (context : Line) (parts : List Replacement) (elements : List Line) :
    Obeys law (ListForm.write context parts elements : Compiling Cause G Replacement) := by
  rw [write_eq]
  exact (obeys_roll (gives_drawWriting _)).bind fun _ => obeys_pure _

/-- A `var` gets an identifier, unless the draw for it stalls. -/
theorem obeys_introduce (name : String) (candidates : List String) (f : String → Replacement) :
    Obeys law (do
      let identifier ← introduce name candidates
      record (.collapsed "var" (f identifier).before.length (f identifier).after.length)
      return f identifier : Compiling Cause G Replacement) := by
  intro s
  have hgives := Fresh.gives_identifier (G := G) s.identifiers name candidates
  cases hdraw : Fresh.identifier s.identifiers name candidates s.dice with
  | error stalled dice =>
      -- nothing but the dice has moved
      have hroll :
          (roll (Fresh.identifier s.identifiers name candidates) : Compiling Cause G String) s =
            .error .stalled { s with dice } := by
        unfold roll
        rw [hdraw]
      have hget : (get : Compiling Cause G (Session G)) s = .ok s s := rfl
      have hrun :
          (introduce name candidates : Compiling Cause G String) s =
            .error .stalled { s with dice } := by
        unfold introduce
        rw [bind_of_ok hget]
        exact bind_of_error hroll
      rw [bind_of_error hrun]
      exact .stalled (law.dice (hgives.stalled hdraw))
  | ok identifier dice =>
      have hrun := introduce_eq_ok.2 ⟨dice, hdraw, rfl⟩
      rw [bind_of_ok hrun]
      exact .ok (law.introduce _ _ hrun)

end Compiling

/-! ## Commands -/

section Expansion

open Compiling

variable {G : Type} [WordSource G] {law : Law G} {context : Line}

theorem Token.obeys_expandTexts {tokens : List Token}
    (h : ∀ token ∈ tokens, Obeys law (token.expand context : Compiling Cause G Replacement)) :
    Obeys law (Token.expandTexts context tokens : Compiling Cause G _) := by
  induction tokens with
  | nil =>
      rw [Token.expandTexts]
      exact obeys_pure _
  | cons token tokens ih =>
      rw [Token.expandTexts]
      refine ((h token List.mem_cons_self).asText token).bind fun first => ?_
      refine (ih fun other hother => h other (List.mem_cons_of_mem _ hother)).bind fun rest => ?_
      exact obeys_pure _

/-- However its expansion ends, a token obeys the law. -/
theorem Token.obeys_expand (tokens : List Token) :
    ∀ token ∈ tokens, Obeys law (token.expand context : Compiling Cause G Replacement) := by
  induction tokens using Line.row_induction with
  | nil =>
      simp
  | literal text tokens ih =>
      refine List.forall_mem_cons.2 ⟨?_, ih⟩
      rw [Token.expand]
      exact obeys_pure _
  | var name candidates tokens ihcandidates ih =>
      refine List.forall_mem_cons.2 ⟨?_, ih⟩
      -- the candidates come before the identifier and the note of the `var`
      rw [Token.expand, Command.perform, noted]
      simp only [bind_assoc, pure_bind]
      exact (Token.obeys_expandTexts ihcandidates).bind fun texts => obeys_introduce _ _ _
  | get name tokens ih =>
      refine List.forall_mem_cons.2 ⟨?_, ih⟩
      rw [Token.expand, Command.perform]
      exact ((obeys_fetch name).bind fun _ => obeys_pure _).noted (by simp [Command.name])
  | collection elements tokens ihelements ih =>
      refine List.forall_mem_cons.2 ⟨?_, ih⟩
      rw [Token.expand, Command.perform, Token.expandAll_eq_mapM]
      refine Obeys.noted ?_ (by simp [Command.name])
      exact (obeys_mapM ihelements).bind fun _ => obeys_write _ _ _
  | build size element tokens ihsize ihelement ih =>
      refine List.forall_mem_cons.2 ⟨?_, ih⟩
      rw [Token.expand, Command.perform]
      refine Obeys.noted ?_ (by simp [Command.name])
      refine ((ihsize size (by simp)).asText size).bind fun sized => ?_
      refine (obeys_slots _).bind fun count => ?_
      refine (obeys_mapM fun _ _ => ihelement element (by simp)).bind fun parts => ?_
      exact obeys_write _ _ _
  | rand kind lower upper tokens ihlower ihupper ih =>
      refine List.forall_mem_cons.2 ⟨?_, ih⟩
      rw [Token.expand, Command.perform]
      refine Obeys.noted ?_ (by simp [Command.name])
      refine ((ihlower lower (by simp)).asText lower).bind fun low => ?_
      refine ((ihupper upper (by simp)).asText upper).bind fun high => ?_
      exact (obeys_number _ _ _).bind fun _ => obeys_pure _

/-! ## Passes -/

theorem PendingLine.obeys_expand (file : String) (line : PendingLine) :
    Obeys law (line.expand file : Compiling CompileError G _) := by
  refine Obeys.mapFault ?_ _
  exact (obeys_mapM (Token.obeys_expand line.tokens)).bind fun _ => obeys_pure _

theorem obeys_expandPass (file : String) (lines : List PendingLine) :
    Obeys law (expandPass file lines : Compiling CompileError G _) :=
  (obeys_mapM fun line _ => line.obeys_expand file).bind fun _ => obeys_pure _

theorem obeys_settle (file : String) (left passes : Nat) (lines : List PendingLine) :
    Obeys law (settle file left passes lines : Compiling CompileError G _) := by
  induction left generalizing passes lines with
  | zero =>
      unfold settle
      split
      · exact obeys_pure _
      · exact obeys_fail _
  | succ left ih =>
      unfold settle
      split
      · exact obeys_pure _
      · refine (obeys_expandPass file lines).bind fun next => ?_
        exact (obeys_record (.expanded _ _ _ _)).bind fun _ => ih _ _

/-- A whole compilation obeys the law. -/
theorem Document.obeys_run (doc : Document) (maxPasses : Nat) :
    Obeys law (doc.run maxPasses : Compiling CompileError G String) := by
  refine (obeys_settle _ _ _ _).bind fun result => obeys_get.bind fun s => ?_
  exact (obeys_record (.compiled _ _ _ _)).bind fun _ => obeys_pure _

/-! ## Stalls -/

/-- Steps throw the dice as draws do. -/
def Law.throwing (G : Type) [WordSource G] : Law G where
  Ends s stalled s' := s.dice.Runs stalled s'.dice
  refl s := .refl s.dice
  trans h hmore := h.trans hmore
  dice h := h
  record s _ _ := .refl s.dice
  introduce := by
    intro s s₁ name identifier candidates _ _ hintroduce
    rcases introduce_eq_ok.1 hintroduce with ⟨dice, hdraw, rfl⟩
    exact ((Fresh.gives_identifier _ _ _).ok hdraw).2

/-- A compilation with steady dice does not stall. -/
theorem Document.outcome_ne_stalled {doc : Document} {options : Options} {dice : Dice G}
    (h : dice.Steady) : (doc.compile options dice).outcome ≠ .error .stalled := by
  have hobeys : Obeys (Law.throwing G) (doc.run options.maxPasses) := doc.obeys_run _
  have hallowed := hobeys { dice, maxCollectionSize := options.maxCollectionSize }
  unfold compile
  cases hrun : doc.run options.maxPasses
    { dice, maxCollectionSize := options.maxCollectionSize } with
  | ok text s =>
      simp
  | error halt s =>
      rw [hrun] at hallowed
      cases hallowed with
      | failed _ =>
          simp
      | stalled hends =>
          -- a stall tells of words that steady dice do not have
          rcases hends.rejects rfl with ⟨g, hleaves, hrejects⟩
          exact absurd hrejects (h g hleaves)

end Expansion

end TemplateVariants
