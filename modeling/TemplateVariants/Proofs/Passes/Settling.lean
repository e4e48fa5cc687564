import TemplateVariants.Proofs.Passes.Lines

/-!
# Runs of a compilation

`Settles file left passes lines s calls r` is a run of `settle` that makes `calls` passes and ends
with `r`; a pass that halts is counted. What a compilation gives is read off such a run
(`Document.compile_outcome_ok_iff`).
-/

namespace TemplateVariants

open Randomness

section Runs

variable {G : Type} [WordSource G]

/-- A run of `settle`, with the number of passes that it makes and with its result. -/
inductive Settles (file : String) :
    Nat → Nat → List PendingLine → Session G → Nat →
      EStateM.Result (Halt CompileError) (Session G) (Nat × List PendingLine) → Prop where
  | settled {left passes : Nat} {lines : List PendingLine} {s : Session G} :
      PendingLine.commandCount lines = 0 →
      Settles file left passes lines s 0 (.ok (passes, lines) s)
  | exhausted {passes : Nat} {lines : List PendingLine} {s : Session G} :
      PendingLine.commandCount lines ≠ 0 →
      Settles file 0 passes lines s 0 (.error (.failed ⟨.divergence passes, none⟩) s)
  | halted {left passes : Nat} {lines : List PendingLine} {s s' : Session G}
      {halt : Halt CompileError} :
      PendingLine.commandCount lines ≠ 0 →
      expandPass file lines s = .error halt s' →
      Settles file (left + 1) passes lines s 1 (.error halt s')
  | again {left passes calls : Nat} {lines next : List PendingLine} {s s₁ : Session G}
      {r : EStateM.Result (Halt CompileError) (Session G) (Nat × List PendingLine)} :
      PendingLine.commandCount lines ≠ 0 →
      expandPass file lines s = .ok next s₁ →
      Settles file left (passes + 1) next
        (s₁.record
          (.expanded file (passes + 1) (PendingLine.commandCount lines) next.length)) calls r →
      Settles file (left + 1) passes lines s (calls + 1) r

namespace Settles

variable {file : String} {left passes calls : Nat} {lines : List PendingLine} {s : Session G}
  {r : EStateM.Result (Halt CompileError) (Session G) (Nat × List PendingLine)}

/-! ## The relation and the passes that run -/

/-- The result of a run is what `settle` gives. -/
theorem settle_eq (h : Settles file left passes lines s calls r) :
    settle file left passes lines s = r := by
  induction h with
  | settled hnone =>
      unfold settle
      rw [if_pos hnone]
      rfl
  | exhausted hsome =>
      unfold settle
      rw [if_neg hsome]
      rfl
  | halted hsome hpass =>
      unfold settle
      rw [if_neg hsome]
      exact Compiling.bind_of_error hpass
  | again hsome hpass _ ih =>
      unfold settle
      rw [if_neg hsome]
      exact (Compiling.bind_of_ok hpass).trans ih

/-- `settle` always makes such a run. -/
theorem exists_calls (file : String) (left passes : Nat) (lines : List PendingLine)
    (s : Session G) :
    ∃ calls, Settles file left passes lines s calls (settle file left passes lines s) := by
  have hrun : ∃ calls r, Settles file left passes lines s calls r := by
    induction left generalizing passes lines s with
    | zero =>
        by_cases hnone : PendingLine.commandCount lines = 0
        · exact ⟨0, _, .settled hnone⟩
        · exact ⟨0, _, .exhausted hnone⟩
    | succ left ih =>
        by_cases hnone : PendingLine.commandCount lines = 0
        · exact ⟨0, _, .settled hnone⟩
        · cases hpass : expandPass file lines s with
          | error halt s' =>
              exact ⟨1, _, .halted hnone hpass⟩
          | ok next s₁ =>
              rcases ih (passes + 1) next _ with ⟨calls, r, hrest⟩
              exact ⟨calls + 1, r, .again hnone hpass hrest⟩
  -- a run has only one result, which is that of `settle`
  rcases hrun with ⟨calls, r, hrun⟩
  exact ⟨calls, hrun.settle_eq ▸ hrun⟩

/-- How many passes are made is settled by where they start. -/
theorem calls_unique (h : Settles file left passes lines s calls r) {calls' : Nat}
    {r' : EStateM.Result (Halt CompileError) (Session G) (Nat × List PendingLine)}
    (h' : Settles file left passes lines s calls' r') : calls = calls' := by
  induction h generalizing calls' with
  | settled hnone =>
      cases h' with
      | settled _ =>
          rfl
      | exhausted hsome =>
          exact absurd hnone hsome
      | halted hsome _ =>
          exact absurd hnone hsome
      | again hsome _ _ =>
          exact absurd hnone hsome
  | exhausted hsome =>
      cases h' with
      | settled hnone =>
          exact absurd hnone hsome
      | exhausted _ =>
          rfl
  | halted hsome hpass =>
      cases h' with
      | settled hnone =>
          exact absurd hnone hsome
      | halted _ _ =>
          rfl
      | again _ hpass' _ =>
          rw [hpass] at hpass'
          cases hpass'
  | again hsome hpass _ ih =>
      cases h' with
      | settled hnone =>
          exact absurd hnone hsome
      | halted _ hpass' =>
          rw [hpass] at hpass'
          cases hpass'
      | again _ hpass' hrest =>
          rw [hpass] at hpass'
          cases hpass'
          rw [ih hrest]

/-- No command is left in the lines with which a run succeeds. -/
theorem commandCount_of_ok {passes' : Nat} {lines' : List PendingLine} {s' : Session G}
    (h : Settles file left passes lines s calls (.ok (passes', lines') s')) :
    PendingLine.commandCount lines' = 0 := by
  generalize hr : EStateM.Result.ok (passes', lines') s' = r at h
  induction h with
  | settled hnone =>
      cases hr
      exact hnone
  | exhausted _ =>
      cases hr
  | halted _ _ =>
      cases hr
  | again _ _ _ ih =>
      exact ih hr

/-- A run that did not diverge goes the same way when more passes are allowed. -/
theorem more (h : Settles file left passes lines s calls r)
    (hr : ∀ e s', r = .error (.failed e) s' → e.kind ≠ .divergence) (extra : Nat) :
    Settles file (left + extra) passes lines s calls r := by
  induction h with
  | settled hnone =>
      exact .settled hnone
  | exhausted _ =>
      -- only here would more passes make a difference
      exact absurd rfl (hr _ _ rfl)
  | @halted left _ _ _ _ _ hsome hpass =>
      rw [Nat.add_right_comm left 1 extra]
      exact .halted hsome hpass
  | @again left _ _ _ _ _ _ _ hsome hpass _ ih =>
      rw [Nat.add_right_comm left 1 extra]
      exact .again hsome hpass (ih hr)

end Settles

/-- Lines without commands are done. -/
theorem settle_of_commandCount {file : String} {left passes : Nat} {lines : List PendingLine}
    (h : PendingLine.commandCount lines = 0) :
    (settle file left passes lines : Compiling CompileError G _) = pure (passes, lines) := by
  funext s
  exact (Settles.settled h).settle_eq

end Runs

/-! ## Compilations -/

namespace PendingLine

theorem map_tokens_ofDocument (doc : Document) : (ofDocument doc).map tokens = doc.lines := by
  refine List.ext_getElem (by simp [ofDocument]) fun i _ _ => ?_
  simp [ofDocument]

/-- The lines of a document are numbered from one. -/
theorem map_origin_ofDocument (doc : Document) :
    (ofDocument doc).map origin = List.range' 1 doc.lines.length := by
  refine List.ext_getElem (by simp [ofDocument]) fun i _ _ => ?_
  simp [ofDocument, Nat.add_comm]

theorem flatMap_tokens_ofDocument (doc : Document) :
    (ofDocument doc).flatMap tokens = doc.lines.flatten := by
  rw [List.flatMap_def, map_tokens_ofDocument]

/-- A document holds a command exactly if the first pass has one to expand. -/
theorem commandCount_ofDocument_eq_zero_iff (doc : Document) :
    commandCount (ofDocument doc) = 0 ↔ doc.commandCount = 0 := by
  unfold commandCount Document.commandCount
  rw [flatMap_tokens_ofDocument]
  generalize doc.lines.flatten = tokens
  induction tokens with
  | nil =>
      simp [Line.commandCount]
  | cons token tokens ih =>
      cases token with
      | literal text =>
          simpa [Line.commandCount, Token.commandCount, Token.isCommand] using ih
      | command command =>
          simp [Line.commandCount, Token.commandCount, Token.isCommand]

/-- Lines without commands are text, and their text is all of it. -/
theorem exists_text_of_commandCount {lines : List PendingLine} (h : commandCount lines = 0) :
    ∃ texts : List (List String),
      lines.map tokens = texts.map (List.map Token.literal) ∧
        text lines = String.join texts.flatten := by
  -- A row without commands is given by its texts.
  have htokens : ∀ row : List Token, (∀ token ∈ row, token.isCommand = false) →
      row = (row.filterMap Token.text?).map Token.literal := by
    intro row hrow
    induction row with
    | nil =>
        rfl
    | cons token row ih =>
        cases token with
        | literal t =>
            have hrest := ih fun other hother => hrow other (List.mem_cons_of_mem _ hother)
            rw [List.filterMap_cons_some (by rfl), List.map_cons, ← hrest]
        | command command =>
            cases hrow _ List.mem_cons_self
  refine ⟨lines.map fun line => line.tokens.filterMap Token.text?, ?_, ?_⟩
  · rw [List.map_map]
    refine List.map_congr_left fun line hline => htokens line.tokens fun token htoken => ?_
    have hmem : token ∈ lines.flatMap tokens := List.mem_flatMap.2 ⟨line, hline, htoken⟩
    simpa using List.countP_eq_zero.1 h token hmem
  · rw [text, List.flatMap_def]

end PendingLine

section Compilations

variable {G : Type}

/-- The session in which a compilation starts. -/
def Options.session (options : Options) (dice : Dice G) : Session G :=
  { dice, maxCollectionSize := options.maxCollectionSize }

theorem Options.settled_session (options : Options) (dice : Dice G) :
    (options.session dice).Settled := by
  intro name value hvalue
  simp [session, Session.lookup?] at hvalue

variable [WordSource G]

namespace Document

variable {doc : Document} {options : Options} {dice : Dice G}

/-- Passes that end with lines give the text of the lines. -/
theorem outcome_of_settle_ok {passes : Nat} {lines : List PendingLine} {s : Session G}
    (h : settle doc.file options.maxPasses 0 (PendingLine.ofDocument doc) (options.session dice) =
      .ok (passes, lines) s) :
    (doc.compile options dice).outcome = .ok (PendingLine.text lines) := by
  have hrun :
      doc.run options.maxPasses (options.session dice) =
        .ok (PendingLine.text lines)
          (s.record (.compiled doc.file passes s.bindings.size s.identifiers.size)) := by
    unfold run
    exact Compiling.bind_eq_ok.2 ⟨(passes, lines), s, h, rfl⟩
  unfold Options.session at hrun
  unfold compile
  rw [hrun]

/-- Passes that halt give no text. -/
theorem outcome_of_settle_error {halt : Halt CompileError} {s : Session G}
    (h : settle doc.file options.maxPasses 0 (PendingLine.ofDocument doc) (options.session dice) =
      .error halt s) :
    (doc.compile options dice).outcome = .error halt := by
  have hrun : doc.run options.maxPasses (options.session dice) = .error halt s := by
    unfold run
    change EStateM.bind _ _ _ = _
    unfold EStateM.bind
    rw [h]
  unfold Options.session at hrun
  unfold compile
  rw [hrun]

/-- A compilation halts where its passes do. -/
theorem compile_outcome_error_iff {halt : Halt CompileError} :
    (doc.compile options dice).outcome = .error halt ↔
      ∃ s, settle doc.file options.maxPasses 0 (PendingLine.ofDocument doc)
        (options.session dice) = .error halt s := by
  constructor
  · intro h
    cases hresult : settle doc.file options.maxPasses 0 (PendingLine.ofDocument doc)
      (options.session dice) with
    | ok result s =>
        rw [outcome_of_settle_ok hresult] at h
        cases h
    | error halt' s =>
        rw [outcome_of_settle_error hresult] at h
        cases h
        exact ⟨s, rfl⟩
  · rintro ⟨s, hresult⟩
    exact outcome_of_settle_error hresult

/-- A compilation gives a text where its passes end with lines, and it is the text of the lines. -/
theorem compile_outcome_ok_iff {text : String} :
    (doc.compile options dice).outcome = .ok text ↔
      ∃ passes lines s, settle doc.file options.maxPasses 0 (PendingLine.ofDocument doc)
        (options.session dice) = .ok (passes, lines) s ∧ text = PendingLine.text lines := by
  constructor
  · intro h
    cases hresult : settle doc.file options.maxPasses 0 (PendingLine.ofDocument doc)
      (options.session dice) with
    | ok result s =>
        rw [outcome_of_settle_ok hresult] at h
        cases h
        exact ⟨result.1, result.2, s, rfl, rfl⟩
    | error halt s =>
        rw [outcome_of_settle_error hresult] at h
        cases h
  · rintro ⟨passes, lines, s, hresult, rfl⟩
    exact outcome_of_settle_ok hresult

/-- What two passes make of a document is its text, if no commands are left. -/
theorem outcome_of_two_passes {first second : List ExpandedLine} {s₁ s₂ : Session G}
    (hpasses : 2 ≤ options.maxPasses)
    (hcommands : PendingLine.commandCount (PendingLine.ofDocument doc) ≠ 0)
    (hfirst : ExpandsLines (PendingLine.ofDocument doc) (options.session dice) first s₁)
    (hmore : PendingLine.commandCount (first.flatMap ExpandedLine.lines) ≠ 0)
    (hsecond : ExpandsLines (first.flatMap ExpandedLine.lines)
      (s₁.record (.expanded doc.file 1 (PendingLine.commandCount (PendingLine.ofDocument doc))
        (first.flatMap ExpandedLine.lines).length)) second s₂)
    (hdone : PendingLine.commandCount (second.flatMap ExpandedLine.lines) = 0) :
    (doc.compile options dice).outcome =
      .ok (PendingLine.text (second.flatMap ExpandedLine.lines)) := by
  rcases Nat.exists_eq_add_of_le' hpasses with ⟨left, hleft⟩
  have hfirstPass :
      expandPass doc.file (PendingLine.ofDocument doc) (options.session dice) =
        .ok (first.flatMap ExpandedLine.lines) s₁ :=
    expandPass_eq_ok_iff.2 ⟨first, hfirst, rfl⟩
  have hsecondPass :
      expandPass doc.file (first.flatMap ExpandedLine.lines)
          (s₁.record (.expanded doc.file 1
            (PendingLine.commandCount (PendingLine.ofDocument doc))
            (first.flatMap ExpandedLine.lines).length)) =
        .ok (second.flatMap ExpandedLine.lines) s₂ :=
    expandPass_eq_ok_iff.2 ⟨second, hsecond, rfl⟩
  have hsettles :
      ∃ s', Settles doc.file options.maxPasses 0 (PendingLine.ofDocument doc)
        (options.session dice) 2 (.ok (2, second.flatMap ExpandedLine.lines) s') := by
    rw [hleft]
    exact ⟨_, .again hcommands hfirstPass (.again hmore hsecondPass (.settled hdone))⟩
  rcases hsettles with ⟨s', hsettles⟩
  exact compile_outcome_ok_iff.2 ⟨_, _, s', hsettles.settle_eq, rfl⟩

/-- Compilations with the same passes are the same. -/
theorem compile_congr {options' : Options}
    (hlimit : options.maxCollectionSize = options'.maxCollectionSize)
    (h : settle doc.file options.maxPasses 0 (PendingLine.ofDocument doc) (options.session dice) =
      settle doc.file options'.maxPasses 0 (PendingLine.ofDocument doc) (options.session dice)) :
    doc.compile options dice = doc.compile options' dice := by
  have hrun :
      doc.run options.maxPasses (options.session dice) =
        doc.run options'.maxPasses (options.session dice) := by
    unfold run
    change EStateM.bind _ _ _ = EStateM.bind _ _ _
    unfold EStateM.bind
    rw [h]
  unfold compile
  unfold Options.session at hrun
  rw [← hlimit, hrun]

end Document

end Compilations

end TemplateVariants
