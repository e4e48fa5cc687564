import TemplateVariants.Proofs.Grammar.Line
import TemplateVariants.Proofs.Layout.OpeningMarks

/-!
# Compiling an output again

A text without an opening mark is read as a document without commands, and compiled as it is; a text
with one is not (`Document.not_marked_iff`). An output is a text like any other, so it can be compiled
again without a change exactly if it holds no opening mark (`Document.opening_marks_of_output`).
-/

namespace TemplateVariants

open ListForm Randomness

namespace Text

/-- Only the last piece may be without a line feed. -/
theorem Cut.endsLine_dropLast {pieces : List String} (h : Cut pieces) :
    ∀ piece ∈ pieces.dropLast, EndsLine piece := by
  induction h with
  | nil =>
      simp
  | unended _ =>
      simp
  | @ended piece pieces hpiece _ ih =>
      cases pieces with
      | nil =>
          simp
      | cons next pieces =>
          rw [List.dropLast_cons_cons]
          exact List.forall_mem_cons.2 ⟨hpiece.endsLine, ih⟩

/-- A mark of a text stands in one of its pieces. -/
theorem marked_iff_exists_piece (text : String) :
    Marked text ↔ ∃ piece ∈ keepingEnds text, Marked piece := by
  have hpieces := marked_join_lines (cut_keepingEnds text).endsLine_dropLast
  rwa [join_keepingEnds] at hpieces

end Text

/-! ## Reading pieces -/

namespace Line

/-- Without an opening mark a piece is read as one text. -/
theorem parse_of_not_marked {piece : String} (h : ¬ Text.Marked piece) :
    parse piece = .ok (textTokens piece.toList) := by
  have hcut : cut '~' '[' piece.toList = none := cut_eq_none_iff.2 h
  exact parse_eq_ok_iff.2 ((readsAs_of_no_mark hcut).2 rfl)

/-- With an opening mark a piece is read with a command in it, if it is read at all. -/
theorem exists_command_of_marked {piece : String} {line : Line} (h : Text.Marked piece)
    (hread : parse piece = .ok line) : ∃ token ∈ line, token.isCommand = true := by
  have hreads := parse_eq_ok_iff.1 hread
  cases hcut : cut '~' '[' piece.toList with
  | none =>
      exact absurd h (cut_eq_none_iff.1 hcut)
  | some parts =>
      rcases (readsAs_of_mark hcut).1 hreads with ⟨_, _, -, command, -, _, -, rfl⟩
      exact ⟨.command command, by simp, rfl⟩

theorem isCommand_textTokens (s : List Char) :
    ∀ token ∈ textTokens s, token.isCommand = false := by
  intro token htoken
  unfold textTokens at htoken
  split at htoken
  · cases htoken
  · rw [List.mem_singleton.1 htoken]
    rfl

theorem text_textTokens (s : List Char) : text (textTokens s) = String.ofList s := by
  unfold textTokens
  split
  · rename_i hnil
    rw [hnil]
    rfl
  · simp

end Line

/-! ## Documents without commands -/

namespace Document

theorem commandCount_eq_zero_iff (doc : Document) :
    doc.commandCount = 0 ↔ ∀ line ∈ doc.lines, ∀ token ∈ line, token.isCommand = false := by
  rw [← PendingLine.commandCount_ofDocument_eq_zero_iff, PendingLine.commandCount,
    PendingLine.flatMap_tokens_ofDocument, List.countP_eq_zero]
  simp only [List.mem_flatten, Bool.not_eq_true]
  constructor
  · intro h line hline token htoken
    exact h token ⟨line, hline, htoken⟩
  · rintro h token ⟨line, hline, htoken⟩
    exact h line hline token htoken

/-- The text between the commands of a template holds no opening mark. -/
theorem not_marked_of_literal {file source : String} {doc : Document}
    (hread : ofText file source = .ok doc) :
    ∀ line ∈ doc.lines, ∀ t, .literal t ∈ line → ¬ Text.Marked t := by
  intro line hline t ht
  have hpieces := (ofLines_eq_ok_iff.1 hread).2
  rcases exists_partner hpieces.flip line hline with ⟨piece, -, hparse⟩
  rcases Line.parse_eq_ok_iff.1 hparse with ⟨splitting, hwrites, commands, -, rfl⟩
  exact (hwrites.1.literal ht).2

/-- A text without an opening mark is read as its pieces. -/
theorem ofText_of_not_marked {text : String} (file : String) (h : ¬ Text.Marked text) :
    ofText file text =
      .ok ⟨file, (Text.keepingEnds text).map fun piece => Line.textTokens piece.toList⟩ := by
  have hpieces : ∀ piece ∈ Text.keepingEnds text, ¬ Text.Marked piece := by
    intro piece hpiece hmark
    exact h ((Text.marked_iff_exists_piece text).2 ⟨piece, hpiece, hmark⟩)
  refine ofLines_eq_ok_iff.2 ⟨rfl, ?_⟩
  rw [List.forall₂_map_right_iff, List.forall₂_same]
  intro piece hpiece
  exact Line.parse_of_not_marked (hpieces piece hpiece)

/-- A text is read as a document without commands exactly if it holds no opening mark. -/
theorem not_marked_iff {file text : String} :
    ¬ Text.Marked text ↔ ∃ doc, ofText file text = .ok doc ∧ doc.commandCount = 0 := by
  constructor
  · intro h
    refine ⟨_, ofText_of_not_marked file h, (commandCount_eq_zero_iff _).2 ?_⟩
    intro line hline
    rcases List.mem_map.1 hline with ⟨piece, -, rfl⟩
    exact Line.isCommand_textTokens _
  · rintro ⟨doc, hread, hnone⟩ hmark
    rcases (Text.marked_iff_exists_piece text).1 hmark with ⟨piece, hpiece, hmark⟩
    -- the piece with the mark was read as a line with a command
    rcases exists_partner (ofLines_eq_ok_iff.1 hread).2 piece hpiece with ⟨line, hline, hparse⟩
    rcases Line.exists_command_of_marked hmark hparse with ⟨token, htoken, hcommand⟩
    rw [(commandCount_eq_zero_iff doc).1 hnone line hline token htoken] at hcommand
    cases hcommand

/-- A document without commands is compiled to the text that it was read from. -/
theorem outcome_of_commandCount {G : Type} [WordSource G] {file text : String} {doc : Document}
    (hread : ofText file text = .ok doc) (hnone : doc.commandCount = 0) (options : Options)
    (dice : Dice G) : (doc.compile options dice).outcome = .ok text := by
  have hmark : ¬ Text.Marked text := not_marked_iff.2 ⟨doc, hread, hnone⟩
  have hdoc := ofText_of_not_marked file hmark
  rw [hread, Except.ok.injEq] at hdoc
  have hsettle :
      settle doc.file options.maxPasses 0 (PendingLine.ofDocument doc) (options.session dice) =
        .ok (0, PendingLine.ofDocument doc) (options.session dice) := by
    rw [settle_of_commandCount ((PendingLine.commandCount_ofDocument_eq_zero_iff doc).2 hnone)]
    rfl
  have hlines : PendingLine.text (PendingLine.ofDocument doc) = text := by
    calc
      PendingLine.text (PendingLine.ofDocument doc)
          = Line.text doc.lines.flatten := by
            rw [PendingLine.text_eq, PendingLine.flatMap_tokens_ofDocument]
      _ = String.join ((Text.keepingEnds text).map fun piece =>
            Line.text (Line.textTokens piece.toList)) := by
            rw [hdoc, ← List.flatMap_def, Line.text_flatMap]
      _ = String.join (Text.keepingEnds text) := by
            simp [Line.text_textTokens]
      _ = text := Text.join_keepingEnds text
  rw [outcome_of_settle_ok hsettle, hlines]

/-! ## Outputs -/

/-- When an output can be compiled again. It holds an opening mark exactly if one of the texts that
were put into it does, or if on a line of the template something that ends with the first character
of the mark stands directly before something that begins with the second; the text that is copied
from the template never does. Without an opening mark the output is read as a document without
commands, which is compiled to the output itself, whatever the options and the dice are; with one it
is not read as such a document. -/
theorem opening_marks_of_output {G : Type} [WordSource G] {file source : String} {doc : Document}
    {options : Options} {dice : Dice G} {text : String} (hread : ofText file source = .ok doc)
    (h : (doc.compile options dice).outcome = .ok text) :
    ∃ (named : List NamedLine) (s : Session G),
      ExpandsLines (PendingLine.ofDocument doc) (options.session dice) (named.map NamedLine.line) s ∧
      List.Forall₂ (fun piece line => line.Keeps piece) (Text.keepingEnds source) named ∧
      text = String.join (named.map NamedLine.text) ∧
      (Text.Marked text ↔ ∃ line ∈ named, line.Marked) ∧
      (∀ line ∈ doc.lines, ∀ t, .literal t ∈ line → ¬ Text.Marked t) ∧
      ∀ again : String,
        (Text.Marked text →
          ∀ output, ofText again text = .ok output → output.commandCount ≠ 0) ∧
        (¬ Text.Marked text →
          ∃ output, ofText again text = .ok output ∧ output.commandCount = 0 ∧
            ∀ (others : Options) {H : Type} [WordSource H] (more : Dice H),
              (output.compile others more).outcome = .ok text) := by
  rcases exists_issued_layout hread h with ⟨named, s, hfirst, hkept, hissued, rfl⟩
  have hsound := (hfirst.sound_and_settled (options.settled_session dice)).1
  have hdrawn : ∀ line ∈ named, line.Drawn := by
    intro line hline
    have hmem := List.mem_map_of_mem (f := NamedLine.line) hline
    refine ⟨hsound _ hmem, ?_, hissued line hline⟩
    intro expansion hexpansion
    exact hfirst.expands.drawn expansion (List.mem_flatMap.2 ⟨_, hmem, hexpansion⟩)
  refine ⟨named, s, hfirst, hkept.imp fun _ _ hline => hline.1, rfl,
    NamedLine.marked_join_iff (Text.cut_keepingEnds source) hkept hdrawn,
    not_marked_of_literal hread, ?_⟩
  intro again
  constructor
  · intro hmark output houtput hnone
    exact not_marked_iff.2 ⟨output, houtput, hnone⟩ hmark
  · intro hmark
    rcases not_marked_iff.1 hmark with ⟨output, houtput, hnone⟩
    exact ⟨output, houtput, hnone, fun others _ _ more =>
      outcome_of_commandCount houtput hnone others more⟩

/-! ### An output without a mark -/

def nestedOutput : String :=
  nestedName ++ " = []\n" ++ nestedName ++ "\n" ++ nestedName ++ ".append(1)\n" ++ nestedName ++
    ".append([2])\n"

/-- The lists of the output are brackets and names, so it can be compiled again. -/
theorem nested_compiles_again :
    ofText "nested" nestedSource = .ok nested ∧
      (nested.compile {} nestedDice).outcome = .ok nestedOutput ∧
      ∃ output, ofText "again" nestedOutput = .ok output ∧ output.commandCount = 0 ∧
        (output.compile {} nestedDice).outcome = .ok nestedOutput := by
  rcases opening_marks_of_output ofLines_nestedSource nested_compiles.1 with
    ⟨named, s, -, -, -, -, -, hagain⟩
  have hmark : ¬ Text.Marked nestedOutput := by decide +kernel
  rcases (hagain "again").2 hmark with ⟨output, houtput, hnone, hcompiles⟩
  exact ⟨ofLines_nestedSource, nested_compiles.1, output, houtput, hnone,
    hcompiles {} nestedDice⟩

/-! ### A mark where a text and a list meet -/

def markedSource : String := "~~[collection 1]~"

def marked : Document where
  file := "marked"
  lines := [[.literal "~", .command (.collection [.literal "1"])]]

/-- The list is a literal in its place. -/
def markedLine : ExpandedLine where
  source := ⟨1, marked.lines.flatten⟩
  row := [.text "~", .collection [.text "1"] (.literal " " [])]

theorem marked_compiles : (marked.compile {} nestedDice).outcome = .ok "~[1]" := by
  let s : Session Replay := ({} : Options).session nestedDice
  have hwriting :
      (Compiling.roll (drawWriting 1) : Compiling Cause Replay Writing) s =
        .ok (.literal " " []) { s with dice := zeros 22 } :=
    Compiling.roll_eq_ok.2 ⟨_, drawWriting_nestedDice, rfl⟩
  have hfirst :
      ∃ s', ExpandsLines (PendingLine.ofDocument marked) s [markedLine] s' :=
    ⟨_, .cons (.literal (.collection (.literal (.nil _)) hwriting (.nil _))) (.nil _)⟩
  rcases hfirst with ⟨s', hfirst⟩
  have hpass :
      expandPass marked.file (PendingLine.ofDocument marked) s =
        .ok ([markedLine].flatMap ExpandedLine.lines) s' :=
    expandPass_eq_ok_iff.2 ⟨_, hfirst, rfl⟩
  -- one pass is enough, since no list is left to declare
  have hsettles :
      ∃ s'', Settles marked.file 1000 0 (PendingLine.ofDocument marked) s 1
        (.ok (1, [markedLine].flatMap ExpandedLine.lines) s'') :=
    ⟨_, .again (by decide) hpass (.settled (by decide))⟩
  rcases hsettles with ⟨s'', hsettles⟩
  exact compile_outcome_ok_iff.2 ⟨_, _, s'', hsettles.settle_eq, by decide⟩

/-- The text before the command ends with the first character of the mark, and the list that is drawn
begins with the second. So the output holds a mark, and it is not even read. -/
theorem marked_output :
    ofText "marked" markedSource = .ok marked ∧
      (marked.compile {} nestedDice).outcome = .ok "~[1]" ∧ Text.Marked "~[1]" ∧
      ofText "again" "~[1]" =
        .error (CompileError.locate ⟨.syntactic .unclosedSpan, none⟩ "again" 1) := by
  refine ⟨by with_unfolding_all rfl, marked_compiles, by decide, ?_⟩
  with_unfolding_all rfl

end Document
end TemplateVariants
