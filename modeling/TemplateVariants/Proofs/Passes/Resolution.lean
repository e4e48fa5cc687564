import Mathlib.Data.List.Forall2
import TemplateVariants.Proofs.Passes.Convergence

/-!
# What later passes change

A pass over scoped lines puts text in the place of each command and leaves everything else as it is:
no line comes or goes, and no text changes. So the lines that a compilation ends with are those of
its first pass with the synthetic commands replaced (`Document.resolves_of_compile`).
-/

namespace TemplateVariants

open ListForm Randomness

/-- What a later pass makes of a token. -/
inductive Token.Resolves : Token → Token → Prop where
  /-- Text stays. -/
  | text (t : String) : Resolves (.literal t) (.literal t)
  /-- A command gives way to text. -/
  | command (command : Command) (t : String) : Resolves (.command command) (.literal t)

/-- What a later pass makes of a line. -/
structure PendingLine.Resolves (line next : PendingLine) : Prop where
  origin : next.origin = line.origin
  tokens : List.Forall₂ Token.Resolves line.tokens next.tokens

section Passes

variable {G : Type} [WordSource G]

/-- Scoped tokens turn into text, token by token. -/
theorem Scoped.resolves {names : List String} {tokens : List Token} {s s' : Session G}
    {row : List Expansion} (h : Scoped names tokens) (hrun : Expands tokens s row s')
    (hs : s.Settled) :
    List.Forall₂ Token.Resolves tokens (row.flatMap Expansion.result) := by
  have hsound := (hrun.sound_and_settled hs).1
  clear hs
  induction h generalizing s row with
  | nil names =>
      cases hrun
      exact .nil
  | literal _ ih =>
      cases hrun with
      | literal hrun =>
          exact .cons (.text _) (ih hrun (List.forall_mem_cons.1 hsound).2)
  | declare _ ih =>
      cases hrun with
      | var _ _ _ hrun =>
          exact .cons (.command _ _) (ih hrun (List.forall_mem_cons.1 hsound).2)
  | lookUp _ _ ih =>
      cases hrun with
      | get _ hrun =>
          rcases List.forall_mem_cons.1 hsound with ⟨hget, hrest⟩
          cases hget with
          | get name t =>
              exact .cons (.command _ t) (ih hrun hrest)

namespace ExpandsLines

variable {lines : List PendingLine} {s s' : Session G} {expanded : List ExpandedLine}

/-- A pass over scoped lines resolves line by line. -/
theorem resolves {names : List String} (h : ExpandsLines lines s expanded s') (hs : s.Settled)
    (hscoped : Scoped names (lines.flatMap PendingLine.tokens)) :
    List.Forall₂ PendingLine.Resolves lines (expanded.flatMap ExpandedLine.lines) := by
  induction h generalizing names with
  | nil s =>
      exact .nil
  | @cons line lines s s₁ s' row expanded hrow _ ih =>
      rw [List.flatMap_cons, Scoped.append_iff] at hscoped
      -- nothing is declared around the line, so it stays one line
      have hlists : (ExpandedLine.mk line row).lists = [] :=
        List.flatMap_eq_nil_iff.2 (hscoped.1.lists_eq_nil hrow)
      rw [List.flatMap_cons, ExpandedLine.lines_of_lists_eq_nil hlists]
      exact .cons ⟨rfl, hscoped.1.resolves hrow hs⟩
        (ih (hrow.sound_and_settled hs).2 hscoped.2)

end ExpandsLines

/-- A pass over lines without commands changes nothing. -/
theorem expandPass_of_commandCount {file : String} {lines : List PendingLine} {s : Session G}
    (h : PendingLine.commandCount lines = 0) : expandPass file lines s = .ok lines s := by
  -- Text is expanded to itself and leaves the session as it is.
  have htokens :
      ∀ tokens : List Token, (∀ token ∈ tokens, token.isCommand = false) →
        ∃ row, Expands tokens s row s ∧ row.flatMap Expansion.lists = [] ∧
          row.flatMap Expansion.result = tokens := by
    intro tokens hplain
    induction tokens with
    | nil =>
        exact ⟨[], .nil s, rfl, rfl⟩
    | cons token tokens ih =>
        rcases List.forall_mem_cons.1 hplain with ⟨htoken, hrest⟩
        cases token with
        | literal t =>
            rcases ih hrest with ⟨row, hrow, hlists, hresult⟩
            refine ⟨.text t :: row, .literal hrow, ?_, ?_⟩
            · rw [List.flatMap_cons, hlists]
              simp [Expansion.lists]
            · rw [List.flatMap_cons, hresult]
              simp [Expansion.result]
        | command command =>
            cases htoken
  have hplain : ∀ token ∈ lines.flatMap PendingLine.tokens, token.isCommand = false := by
    intro token htoken
    simpa using List.countP_eq_zero.1 h token htoken
  refine expandPass_eq_ok_iff.2 ?_
  clear h
  induction lines with
  | nil =>
      exact ⟨[], .nil s, rfl⟩
  | cons line lines ih =>
      rw [List.flatMap_cons, List.forall_mem_append] at hplain
      rcases htokens line.tokens hplain.1 with ⟨row, hrow, hlists, hresult⟩
      rcases ih hplain.2 with ⟨expanded, hrun, hlines⟩
      refine ⟨⟨line, row⟩ :: expanded, .cons hrow hrun, ?_⟩
      rw [List.flatMap_cons, ← hlines, ExpandedLine.lines, ExpandedLine.lists, hlists,
        ExpandedLine.result, hresult]
      rfl

/-- Lines without commands resolve to themselves. -/
theorem PendingLine.resolves_self {lines : List PendingLine}
    (h : PendingLine.commandCount lines = 0) : List.Forall₂ PendingLine.Resolves lines lines := by
  refine List.forall₂_same.2 fun line hline => ⟨rfl, List.forall₂_same.2 fun token htoken => ?_⟩
  cases token with
  | literal t =>
      exact .text t
  | command command =>
      exact absurd rfl (List.countP_eq_zero.1 h _ (List.mem_flatMap.2 ⟨line, hline, htoken⟩))

/-! ## The passes of a compilation that gives a text -/

namespace Document

variable {doc : Document} {options : Options} {dice : Dice G} {text : String}

/-- A compilation that gives a text has a first pass. -/
theorem exists_first_pass (h : (doc.compile options dice).outcome = .ok text) :
    ∃ expanded s, ExpandsLines (PendingLine.ofDocument doc) (options.session dice) expanded s := by
  rcases compile_outcome_ok_iff.1 h with ⟨passes, lines, s', hresult, -⟩
  rcases Settles.exists_calls doc.file options.maxPasses 0 (PendingLine.ofDocument doc)
    (options.session dice) with ⟨calls, hrun⟩
  rw [hresult] at hrun
  generalize options.maxPasses = left at hrun
  cases hrun with
  | settled hnone =>
      have hpass :
          expandPass doc.file (PendingLine.ofDocument doc) (options.session dice) =
            .ok (PendingLine.ofDocument doc) (options.session dice) :=
        expandPass_of_commandCount hnone
      rcases expandPass_eq_ok_iff.1 hpass with ⟨expanded, hfirst, -⟩
      exact ⟨expanded, _, hfirst⟩
  | again _ hpass _ =>
      rcases expandPass_eq_ok_iff.1 hpass with ⟨expanded, hfirst, -⟩
      exact ⟨expanded, _, hfirst⟩

/-- The lines at the end are those of the first pass if no command is left in them, and those of a
second pass otherwise. -/
theorem settle_of_first_pass {expanded : List ExpandedLine} {s : Session G}
    (h : (doc.compile options dice).outcome = .ok text)
    (hfirst : ExpandsLines (PendingLine.ofDocument doc) (options.session dice) expanded s) :
    ∃ passes lines s', settle doc.file options.maxPasses 0 (PendingLine.ofDocument doc)
        (options.session dice) = .ok (passes, lines) s' ∧
      text = PendingLine.text lines ∧
      ((PendingLine.commandCount (expanded.flatMap ExpandedLine.lines) = 0 ∧
          lines = expanded.flatMap ExpandedLine.lines) ∨
        ∃ event second s₂,
          ExpandsLines (expanded.flatMap ExpandedLine.lines) (s.record event) second s₂ ∧
            lines = second.flatMap ExpandedLine.lines) := by
  have hsettled := options.settled_session dice
  have hfirstPass :
      expandPass doc.file (PendingLine.ofDocument doc) (options.session dice) =
        .ok (expanded.flatMap ExpandedLine.lines) s :=
    expandPass_eq_ok_iff.2 ⟨expanded, hfirst, rfl⟩
  rcases compile_outcome_ok_iff.1 h with ⟨passes, lines, s', hresult, htext⟩
  refine ⟨passes, lines, s', hresult, htext, ?_⟩
  rcases Settles.exists_calls doc.file options.maxPasses 0 (PendingLine.ofDocument doc)
    (options.session dice) with ⟨calls, hrun⟩
  rw [hresult] at hrun
  generalize options.maxPasses = left at hrun
  cases hrun with
  | settled hnone =>
      rw [expandPass_of_commandCount hnone, EStateM.Result.ok.injEq] at hfirstPass
      exact Or.inl ⟨by rw [← hfirstPass.1]; exact hnone, hfirstPass.1⟩
  | again _ hpass hrest =>
      rw [hpass, EStateM.Result.ok.injEq] at hfirstPass
      rcases hfirstPass with ⟨rfl, rfl⟩
      have hs₁ := (hfirst.sound_and_settled hsettled).2.record
      cases hrest with
      | settled hnone =>
          exact Or.inl ⟨hnone, rfl⟩
      | again _ hpass hrest =>
          rcases expandPass_eq_ok_iff.1 hpass with ⟨second, hsecond, rfl⟩
          -- the second pass leaves no command, so there is no third one
          have hnone := hsecond.commandCount_of_scoped (hs₁ _) (hfirst.scoped_lines hsettled)
          cases hrest with
          | settled _ =>
              exact Or.inr ⟨_, second, _, hsecond, rfl⟩
          | again hsome _ _ =>
              exact absurd hnone hsome

/-- The lines at the end are those of the first pass, resolved. -/
theorem resolves_of_compile {expanded : List ExpandedLine} {s : Session G}
    (h : (doc.compile options dice).outcome = .ok text)
    (hfirst : ExpandsLines (PendingLine.ofDocument doc) (options.session dice) expanded s) :
    ∃ passes lines s', settle doc.file options.maxPasses 0 (PendingLine.ofDocument doc)
        (options.session dice) = .ok (passes, lines) s' ∧
      text = PendingLine.text lines ∧
      List.Forall₂ PendingLine.Resolves (expanded.flatMap ExpandedLine.lines) lines := by
  have hsettled := options.settled_session dice
  rcases settle_of_first_pass h hfirst with ⟨passes, lines, s', hresult, htext, hlines⟩
  refine ⟨passes, lines, s', hresult, htext, ?_⟩
  rcases hlines with ⟨hnone, rfl⟩ | ⟨event, second, s₂, hsecond, rfl⟩
  · exact PendingLine.resolves_self hnone
  · exact hsecond.resolves ((hfirst.sound_and_settled hsettled).2.record event)
      (hfirst.scoped_lines hsettled)

end Document

end Passes

end TemplateVariants
