import TemplateVariants.Proofs.Layout.Standing
import TemplateVariants.Proofs.TwoRuns.Frames

/-!
# Literals do not steer

Two templates that differ in the text of their literals are compiled alike: with the same dice they
fail alike, or both succeed, in the same session and with the same frames around their lines
(`Document.literals_do_not_steer`). There are at most two passes with something to expand, and each
of them agrees.
-/

namespace TemplateVariants

open ListForm Randomness Compiling

section Passes

variable {G : Type} [WordSource G] {lines lines' next next' : List PendingLine}

theorem SameFrames.sameCommands (h : SameFrames lines lines' next next')
    (hlike : List.Forall₂ PendingLine.Like lines lines') : SameCommands next next' := by
  rcases h with ⟨frames, -, rfl, rfl⟩
  exact sameCommands_framedAll hlike frames

/-- Before any pass each line is alone in its frame. -/
theorem sameFrames_start (h : List.Forall₂ PendingLine.Like lines lines') :
    SameFrames lines lines' lines lines' := by
  refine ⟨lines.map Frame.start, List.length_map _, ?_, (framedAll_start h).symm⟩
  refine (framedAll_start (List.forall₂_same.2 ?_)).symm
  intro line _
  refine ⟨rfl, List.forall₂_same.2 ?_⟩
  intro token _
  cases token with
  | literal t =>
      exact .literal t t
  | command command =>
      exact .command command

/-- Passes over lines with the same commands end alike if the first of them does and those behind it
do. -/
theorem Compiling.Alike.settle {Q : List PendingLine → List PendingLine → Prop}
    {R : Nat × List PendingLine → Nat × List PendingLine → Prop} {file : String}
    {left passes : Nat} {s : Session G} (hcommands : SameCommands lines lines')
    (hdone : R (passes, lines) (passes, lines'))
    (hpass : Alike Q (expandPass file lines s) (expandPass file lines' s))
    (hlength : ∀ next next', Q next next' → next.length = next'.length)
    (hmore : ∀ left event next next' s₁, expandPass file lines s = .ok next s₁ → Q next next' →
      Alike R (settle file left (passes + 1) next (s₁.record event))
        (settle file left (passes + 1) next' (s₁.record event))) :
    Alike R (settle file left passes lines s) (settle file left passes lines' s) := by
  by_cases hnone : PendingLine.commandCount lines = 0
  · have hnone' : PendingLine.commandCount lines' = 0 := hcommands.commandCount_eq ▸ hnone
    rw [settle_of_commandCount hnone, settle_of_commandCount hnone']
    exact .ok hdone
  · have hsome : ¬ PendingLine.commandCount lines' = 0 := hcommands.commandCount_eq ▸ hnone
    unfold TemplateVariants.settle
    rw [if_neg hnone, if_neg hsome]
    cases left with
    | zero =>
        exact .halt
    | succ left =>
        refine hpass.bind ?_
        intro next next' s₁ hnext hQ
        rw [← hcommands.commandCount_eq, ← hlength next next' hQ]
        exact hmore left _ next next' s₁ hnext hQ

/-- The passes over two templates end alike, with the same frames. -/
theorem alike_settle {file : String} {left : Nat} {s : Session G} (hs : s.Settled)
    (h : List.Forall₂ PendingLine.Like lines lines') :
    Alike (fun r r' => r.1 = r'.1 ∧ SameFrames lines lines' r.2 r'.2)
      (settle file left 0 lines s) (settle file left 0 lines' s) := by
  have hlength :
      ∀ next next', SameFrames lines lines' next next' → next.length = next'.length := by
    intro next next' hframes
    exact (hframes.sameCommands h).length_eq
  have hstart := sameFrames_start h
  refine Alike.settle (hstart.sameCommands h) ⟨rfl, hstart⟩ (agree_expandPass file h s) hlength ?_
  intro left event next next' s₁ hnext hframes
  -- what the first pass leaves is scoped, so the second pass agrees as well
  rcases expandPass_eq_ok_iff.1 hnext with ⟨expanded, hfirst, rfl⟩
  have hscoped := hfirst.scoped_lines hs
  have hcommands := hframes.sameCommands h
  have hlater : LaterLines (expanded.flatMap ExpandedLine.lines) := hscoped.later
  have hpass :
      Alike (SameFrames lines lines')
        (expandPass file (expanded.flatMap ExpandedLine.lines) (s₁.record event))
        (expandPass file next' (s₁.record event)) := by
    have hlater' := hcommands.laterLines hlater
    rcases hframes with ⟨frames, hframesLength, hframed, rfl⟩
    rw [hframed] at hlater ⊢
    exact agree_expandPass_later file h hframesLength hlater hlater' _
  refine Alike.settle hcommands ⟨rfl, hframes⟩ hpass hlength ?_
  intro left event' last last' s₂ hlast hlastFrames
  -- nothing is left for a third pass
  rcases expandPass_eq_ok_iff.1 hlast with ⟨second, hsecond, rfl⟩
  have hs₁ := (hfirst.sound_and_settled hs).2.record event
  have hnone := hsecond.commandCount_of_scoped hs₁ hscoped
  have hnone' := (hlastFrames.sameCommands h).commandCount_eq.symm.trans hnone
  rw [settle_of_commandCount hnone, settle_of_commandCount hnone']
  exact .ok ⟨rfl, hlastFrames⟩

end Passes

/-! ## Compilations -/

namespace Document

variable {G : Type} [WordSource G] {doc doc' : Document}

theorem forall₂_like_ofDocument (h : List.Forall₂ (List.Forall₂ Token.Like) doc.lines doc'.lines) :
    List.Forall₂ PendingLine.Like (PendingLine.ofDocument doc) (PendingLine.ofDocument doc') := by
  rcases List.forall₂_iff_get.1 h with ⟨hlength, hget⟩
  refine List.forall₂_iff_get.2 ⟨by simp [PendingLine.ofDocument, hlength], ?_⟩
  intro n hn hn'
  have hline := hget n (by simpa [PendingLine.ofDocument] using hn)
    (by simpa [PendingLine.ofDocument] using hn')
  simp only [PendingLine.ofDocument, List.get_eq_getElem, List.getElem_mapIdx]
  exact ⟨rfl, hline⟩

/-- Compilations whose passes end alike end in the same session. -/
theorem session_eq_of_alike {R : List PendingLine → List PendingLine → Prop} {options : Options}
    {dice : Dice G} (hfile : doc.file = doc'.file)
    (h : Alike (fun r r' => r.1 = r'.1 ∧ R r.2 r'.2)
      (settle doc.file options.maxPasses 0 (PendingLine.ofDocument doc) (options.session dice))
      (settle doc'.file options.maxPasses 0 (PendingLine.ofDocument doc') (options.session dice))) :
    (doc.compile options dice).session = (doc'.compile options dice).session := by
  have hrun :
      Alike (fun _ _ => True) (doc.run options.maxPasses (options.session dice))
        (doc'.run options.maxPasses (options.session dice)) := by
    refine h.bind ?_
    rintro ⟨passes, lines⟩ ⟨passes', lines'⟩ s - ⟨hpasses, -⟩
    -- the note at the end names the file and the passes, not the text
    cases hpasses
    rw [hfile]
    exact .ok trivial
  unfold Options.session at hrun
  unfold compile
  generalize doc.run options.maxPasses { dice, maxCollectionSize := options.maxCollectionSize } = r
    at hrun ⊢
  generalize doc'.run options.maxPasses { dice, maxCollectionSize := options.maxCollectionSize } =
    r' at hrun ⊢
  cases hrun with
  | ok _ =>
      rfl
  | halt =>
      rfl

/-- The literals of a template do not steer its expansion. Take two templates with the same name that
agree token for token, but for the text of literals, and compile them with the same options and the
same dice. They end in the same session: with the same dice, bindings, identifiers and journal. Either
both fail, with the same error at the same place, or both succeed; then each line at the end stands in
a frame around a line of the template, the frames are the same for both, and only what is in the frames
differs: the copied literals, and the indentation of the lines beside them. -/
theorem literals_do_not_steer (hfile : doc.file = doc'.file)
    (hlines : List.Forall₂ (List.Forall₂ Token.Like) doc.lines doc'.lines) (options : Options)
    (dice : Dice G) :
    (doc.compile options dice).session = (doc'.compile options dice).session ∧
      ((∃ halt, (doc.compile options dice).outcome = .error halt ∧
          (doc'.compile options dice).outcome = .error halt) ∨
        ∃ passes frames s, frames.length = doc.lines.length ∧
          settle doc.file options.maxPasses 0 (PendingLine.ofDocument doc) (options.session dice) =
            .ok (passes, framedAll (PendingLine.ofDocument doc) frames) s ∧
          settle doc'.file options.maxPasses 0 (PendingLine.ofDocument doc')
              (options.session dice) =
            .ok (passes, framedAll (PendingLine.ofDocument doc') frames) s ∧
          (doc.compile options dice).outcome =
            .ok (PendingLine.text (framedAll (PendingLine.ofDocument doc) frames)) ∧
          (doc'.compile options dice).outcome =
            .ok (PendingLine.text (framedAll (PendingLine.ofDocument doc') frames))) := by
  have halike :
      Alike (fun r r' => r.1 = r'.1 ∧
          SameFrames (PendingLine.ofDocument doc) (PendingLine.ofDocument doc') r.2 r'.2)
        (settle doc.file options.maxPasses 0 (PendingLine.ofDocument doc) (options.session dice))
        (settle doc'.file options.maxPasses 0 (PendingLine.ofDocument doc')
          (options.session dice)) := by
    rw [← hfile]
    exact alike_settle (options.settled_session dice) (forall₂_like_ofDocument hlines)
  refine ⟨session_eq_of_alike hfile halike, ?_⟩
  cases hresult : settle doc.file options.maxPasses 0 (PendingLine.ofDocument doc)
    (options.session dice) with
  | ok r s =>
      cases hresult' : settle doc'.file options.maxPasses 0 (PendingLine.ofDocument doc')
        (options.session dice) with
      | ok r' s' =>
          rw [hresult, hresult'] at halike
          cases halike with
          | ok hR =>
              rcases r with ⟨passes, lines⟩
              rcases r' with ⟨passes', lines'⟩
              rcases hR with ⟨rfl, frames, hlength, rfl, rfl⟩
              refine .inr ⟨passes, frames, s, ?_, rfl, rfl, outcome_of_settle_ok hresult,
                outcome_of_settle_ok hresult'⟩
              simpa [PendingLine.ofDocument] using hlength
      | error halt' s' =>
          rw [hresult, hresult'] at halike
          cases halike
  | error halt s =>
      cases hresult' : settle doc'.file options.maxPasses 0 (PendingLine.ofDocument doc')
        (options.session dice) with
      | ok r' s' =>
          rw [hresult, hresult'] at halike
          cases halike
      | error halt' s' =>
          rw [hresult, hresult'] at halike
          cases halike
          exact .inl ⟨halt, outcome_of_settle_error hresult, outcome_of_settle_error hresult'⟩

/-! ### A template with other literals -/

/-- The template has an indentation in the place of the text before its command. -/
def indented : Document where
  file := unended.file
  lines := [[.literal "  ", .command (.collection [.literal "1", .literal "2"])]]

/-- With all zeros drawn the list is appended to, and the indented template is compiled with the same
frame as the one that is not. -/
theorem indented_compiles :
    unended.file = indented.file ∧
      List.Forall₂ (List.Forall₂ Token.Like) unended.lines indented.lines ∧
      ∃ passes frames s,
        settle unended.file 1000 0 (PendingLine.ofDocument unended)
            (({} : Options).session (zeros 22)) =
          .ok (passes, framedAll (PendingLine.ofDocument unended) frames) s ∧
        settle indented.file 1000 0 (PendingLine.ofDocument indented)
            (({} : Options).session (zeros 22)) =
          .ok (passes, framedAll (PendingLine.ofDocument indented) frames) s := by
  have hfile : unended.file = indented.file := rfl
  have hlines : List.Forall₂ (List.Forall₂ Token.Like) unended.lines indented.lines :=
    .cons (.cons (.literal _ _) (.cons (.command _) .nil)) .nil
  rcases (literals_do_not_steer hfile hlines {} (zeros 22)).2 with
    ⟨halt, hfails, -⟩ | ⟨passes, frames, s, -, hsettles, hsettles', -⟩
  · rw [unended_compiles.1] at hfails
    cases hfails
  · exact ⟨hfile, hlines, passes, frames, s, hsettles, hsettles'⟩

end Document

end TemplateVariants
