import TemplateVariants.Proofs.Passes.Scoped
import TemplateVariants.Proofs.Passes.Settling

/-!
# Two passes are enough

The first pass may fault, and it may leave declarations and look-ups of synthetic names behind. The
second pass expands these without a fault and leaves text alone, so a third one is never made
(`Settles.calls_le_two`). From this follows when a compilation diverges (`Settles.diverges_iff`),
and that more than two passes are of no use.
-/

namespace TemplateVariants

open ListForm Randomness

section Runs

variable {G : Type} [WordSource G]

/-! ## How many passes are made -/

namespace Settles

variable {file : String} {left passes calls : Nat} {lines : List PendingLine} {s : Session G}
  {r : EStateM.Result (Halt CompileError) (Session G) (Nat × List PendingLine)}

/-- From scoped lines at most one pass is made, and it does not fault. -/
theorem of_scoped (h : Settles file left passes lines s calls r) (hs : s.Settled)
    (hscoped : Scoped [] (lines.flatMap PendingLine.tokens)) :
    calls ≤ 1 ∧
      ∀ e s', r = .error (.failed e) s' → left = 0 ∧ PendingLine.commandCount lines ≠ 0 := by
  cases h with
  | settled _ =>
      exact ⟨Nat.zero_le 1, by simp⟩
  | exhausted hsome =>
      exact ⟨Nat.zero_le 1, fun _ _ _ => ⟨rfl, hsome⟩⟩
  | @halted _ _ _ _ s' _ _ hpass =>
      refine ⟨Nat.le_refl 1, fun e s'' he => ?_⟩
      cases he
      exact (faultsIn_expandPass_of_scoped hscoped e s' hpass).elim
  | again _ hpass hrest =>
      rcases expandPass_eq_ok_iff.1 hpass with ⟨expanded, hrun, rfl⟩
      have hnone := hrun.commandCount_of_scoped hs hscoped
      -- nothing is left to expand, so the run ends here
      cases hrest with
      | settled _ =>
          exact ⟨Nat.le_refl 1, by simp⟩
      | exhausted hsome =>
          exact absurd hnone hsome
      | halted hsome _ =>
          exact absurd hnone hsome
      | again hsome _ _ =>
          exact absurd hnone hsome

end Settles

/-- Lines without commands are scoped. -/
theorem PendingLine.scoped_of_commandCount {lines : List PendingLine} {names : List String}
    (h : PendingLine.commandCount lines = 0) :
    Scoped names (lines.flatMap PendingLine.tokens) := by
  refine Scoped.of_lookUps fun token htoken hcommand => ?_
  exact absurd hcommand (List.countP_eq_zero.1 h token htoken)

namespace Settles

variable {file : String} {left passes calls : Nat} {lines : List PendingLine} {s : Session G}
  {r : EStateM.Result (Halt CompileError) (Session G) (Nat × List PendingLine)}

/-- At most two passes are made. -/
theorem calls_le_two (h : Settles file left passes lines s calls r) (hs : s.Settled) :
    calls ≤ 2 := by
  cases h with
  | settled _ =>
      exact Nat.zero_le 2
  | exhausted _ =>
      exact Nat.zero_le 2
  | halted _ _ =>
      exact Nat.le_succ 1
  | again _ hpass hrest =>
      rcases expandPass_eq_ok_iff.1 hpass with ⟨expanded, hrun, rfl⟩
      -- after the first pass the lines are scoped, so one more is enough
      have hs₁ := (hrun.sound_and_settled hs).2.record
      exact Nat.succ_le_succ (hrest.of_scoped (hs₁ _) (hrun.scoped_lines hs)).1

/-- When a run diverges: no pass was allowed though there is a command, or one pass was, and in that
pass a collection at some depth was written with appends. -/
theorem diverges_iff (h : Settles file left passes lines s calls r) (hs : s.Settled) :
    (∃ e s', r = .error (.failed e) s' ∧ e.kind = .divergence) ↔
      (left = 0 ∧ PendingLine.commandCount lines ≠ 0) ∨
        (left = 1 ∧ ∃ expanded s₁, ExpandsLines lines s expanded s₁ ∧
          ∃ line ∈ expanded, ∃ expansion ∈ line.row, expansion.Appends) := by
  have hne :
      ∀ line : ExpandedLine, (∃ expansion ∈ line.row, expansion.Appends) ↔ line.lists ≠ [] := by
    intro line
    simp only [ExpandedLine.lists, ne_eq, List.flatMap_eq_nil_iff, not_forall, exists_prop,
      ← Expansion.lists_ne_nil_iff]
  simp only [hne]
  -- Lists come from commands only, so lines without commands are no instance of the second case.
  have hlists :
      PendingLine.commandCount lines = 0 →
        ¬ ∃ expanded s₁, ExpandsLines lines s expanded s₁ ∧ ∃ line ∈ expanded, line.lists ≠ [] := by
    rintro hnone ⟨expanded, s₁, hrun, line, hline, hne⟩
    exact hne (hrun.lists_of_scoped (PendingLine.scoped_of_commandCount hnone) line hline)
  cases h with
  | settled hnone =>
      constructor
      · rintro ⟨e, s', heq, -⟩
        cases heq
      · rintro (⟨-, hsome⟩ | ⟨-, hrun⟩)
        · exact absurd hnone hsome
        · exact absurd hrun (hlists hnone)
  | exhausted hsome =>
      exact ⟨fun _ => Or.inl ⟨rfl, hsome⟩, fun _ => ⟨_, _, rfl, rfl⟩⟩
  | @halted _ _ _ _ s₁ _ hsome hpass =>
      constructor
      · rintro ⟨e, s', heq, hkind⟩
        cases heq
        -- a pass has faults of commands only, and none of these is a divergence
        have hfault := (faultsIn_expandPass file lines s e s₁ hpass).1
        exact absurd hkind hfault.kind_ne_divergence
      · rintro (⟨hleft, -⟩ | ⟨-, expanded, s₂, hrun, -⟩)
        · cases hleft
        · rw [expandPass_eq_ok_iff.2 ⟨expanded, hrun, rfl⟩] at hpass
          cases hpass
  | @again left _ _ _ _ _ s₁ _ hsome hpass hrest =>
      rcases expandPass_eq_ok_iff.1 hpass with ⟨expanded, hrun, rfl⟩
      have hs₁ := (hrun.sound_and_settled hs).2.record
      constructor
      · rintro ⟨e, s', rfl, -⟩
        rcases (hrest.of_scoped (hs₁ _) (hrun.scoped_lines hs)).2 e s' rfl with ⟨rfl, hleft⟩
        refine Or.inr ⟨rfl, expanded, s₁, hrun, ?_⟩
        by_contra hnone
        push Not at hnone
        exact hleft ((hrun.commandCount_eq_zero_iff hs).2 hnone)
      · rintro (⟨hleft, -⟩ | ⟨hleft, expanded', s₂, hrun', line, hline, hne⟩)
        · cases hleft
        · obtain rfl : left = 0 := by omega
          -- both runs are the first pass
          have hsame :
              expandPass file lines s = .ok (expanded'.flatMap ExpandedLine.lines) s₂ :=
            expandPass_eq_ok_iff.2 ⟨expanded', hrun', rfl⟩
          rw [hpass, EStateM.Result.ok.injEq] at hsame
          have hleft :
              PendingLine.commandCount (expanded.flatMap ExpandedLine.lines) ≠ 0 := by
            rw [hsame.1]
            intro hnone
            exact hne ((hrun'.commandCount_eq_zero_iff hs).1 hnone line hline)
          cases hrest with
          | settled hnone =>
              exact absurd hnone hleft
          | exhausted _ =>
              exact ⟨_, _, rfl, rfl⟩

end Settles

end Runs

/-! ## What this says of compilations -/

section Compilations

variable {G : Type} [WordSource G]

namespace Document

/-- A compilation makes at most two passes, in one way. It diverges exactly if no pass was allowed
though there is a command, or if one pass was allowed and a collection of the document, at any depth,
was written with appends in it. From two passes on, the number of passes allowed does not matter; and
a text that is compiled is all that is left of the lines. -/
theorem compile_converges (doc : Document) (options : Options) (dice : Dice G) :
    (∃ calls, calls ≤ 2 ∧
      Settles doc.file options.maxPasses 0 (PendingLine.ofDocument doc) (options.session dice)
        calls
        (settle doc.file options.maxPasses 0 (PendingLine.ofDocument doc)
          (options.session dice)) ∧
      ∀ calls' r,
        Settles doc.file options.maxPasses 0 (PendingLine.ofDocument doc) (options.session dice)
          calls' r →
        calls' = calls ∧
          r = settle doc.file options.maxPasses 0 (PendingLine.ofDocument doc)
            (options.session dice)) ∧
    ((∃ e, (doc.compile options dice).outcome = .error (.failed e) ∧ e.kind = .divergence) ↔
      (options.maxPasses = 0 ∧ doc.commandCount ≠ 0) ∨
        (options.maxPasses = 1 ∧
          ∃ expanded s,
            expandPass doc.file (PendingLine.ofDocument doc) (options.session dice) =
              .ok (expanded.flatMap ExpandedLine.lines) s ∧
            ExpandsLines (PendingLine.ofDocument doc) (options.session dice) expanded s ∧
            ∃ line ∈ expanded, ∃ expansion ∈ line.row, expansion.Appends)) ∧
    (2 ≤ options.maxPasses →
      doc.compile options dice = doc.compile { options with maxPasses := 2 } dice) ∧
    (∀ text, (doc.compile options dice).outcome = .ok text →
      ∃ calls passes lines s,
        Settles doc.file options.maxPasses 0 (PendingLine.ofDocument doc) (options.session dice)
          calls (.ok (passes, lines) s) ∧
        ∃ texts : List (List String),
          lines.map PendingLine.tokens = texts.map (List.map Token.literal) ∧
            text = String.join texts.flatten) := by
  have hsettled := options.settled_session dice
  rcases Settles.exists_calls doc.file options.maxPasses 0 (PendingLine.ofDocument doc)
    (options.session dice) with ⟨calls, hrun⟩
  have honly :
      ∀ calls' r,
        Settles doc.file options.maxPasses 0 (PendingLine.ofDocument doc) (options.session dice)
          calls' r →
        calls' = calls ∧
          r = settle doc.file options.maxPasses 0 (PendingLine.ofDocument doc)
            (options.session dice) :=
    fun _ _ hother => ⟨hother.calls_unique hrun, hother.settle_eq.symm⟩
  refine ⟨⟨calls, hrun.calls_le_two hsettled, hrun, honly⟩, ?_, ?_, ?_⟩
  · have hcount := not_congr (PendingLine.commandCount_ofDocument_eq_zero_iff doc)
    refine Iff.trans ?_ ((hrun.diverges_iff hsettled).trans ?_)
    · simp only [compile_outcome_error_iff]
      constructor
      · rintro ⟨e, ⟨s, hresult⟩, hkind⟩
        exact ⟨e, s, hresult, hkind⟩
      · rintro ⟨e, s, hresult, hkind⟩
        exact ⟨e, ⟨s, hresult⟩, hkind⟩
    · refine or_congr (and_congr_right fun _ => hcount) (and_congr_right fun _ => ?_)
      refine exists_congr fun expanded => exists_congr fun s => ?_
      constructor
      · rintro ⟨hfirst, hline⟩
        exact ⟨expandPass_eq_ok_iff.2 ⟨expanded, hfirst, rfl⟩, hfirst, hline⟩
      · rintro ⟨-, hfirst, hline⟩
        exact ⟨hfirst, hline⟩
  · intro hpasses
    -- the run with two passes does not diverge, so it is also the run with more
    rcases Settles.exists_calls doc.file 2 0 (PendingLine.ofDocument doc)
      (options.session dice) with ⟨few, hfew⟩
    have hnot :
        ∀ e s', settle doc.file 2 0 (PendingLine.ofDocument doc) (options.session dice) =
          .error (.failed e) s' → e.kind ≠ .divergence := by
      intro e s' he hkind
      rcases (hfew.diverges_iff hsettled).1 ⟨e, s', he, hkind⟩ with ⟨htwo, -⟩ | ⟨htwo, -⟩
      · cases htwo
      · cases htwo
    have hmore := (hfew.more hnot (options.maxPasses - 2)).settle_eq
    rw [Nat.add_sub_cancel' hpasses] at hmore
    exact compile_congr rfl hmore
  · intro text htext
    rcases compile_outcome_ok_iff.1 htext with ⟨passes, lines, s, hresult, rfl⟩
    rw [hresult] at hrun
    rcases PendingLine.exists_text_of_commandCount hrun.commandCount_of_ok with
      ⟨texts, hlines, htexts⟩
    exact ⟨calls, passes, lines, s, hrun, texts, hlines, htexts⟩

end Document

end Compilations

end TemplateVariants
