import TemplateVariants.CommandLine.Run
import TemplateVariants.Proofs.Grammar.Line
import TemplateVariants.Proofs.Grammar.Spelling
import TemplateVariants.Proofs.Layout.Newlines
import TemplateVariants.Proofs.Storage.Trees

/-!
# Counting commands

Each command of a template has one place in its text where it begins: an opening mark of the line, or
an opening brace in the body of another command. No such place is lost when a text is read, and none
is read twice; so the commands can be counted in the text (`Document.commands_counted`).
-/

namespace TemplateVariants

/-! ## Tokens -/

namespace Line

theorem commandCount_append (line rest : Line) :
    commandCount (line ++ rest) = commandCount line + commandCount rest := by
  induction line with
  | nil =>
      simp [commandCount]
  | cons token line ih =>
      rw [List.cons_append, commandCount, commandCount, ih, Nat.add_assoc]

theorem commandCount_reverse (line : Line) : commandCount line.reverse = commandCount line := by
  induction line with
  | nil =>
      rfl
  | cons token line ih =>
      rw [List.reverse_cons, commandCount_append, ih]
      simp [commandCount, Nat.add_comm]

end Line

namespace Command

/-- What stands inside a command stands in its arguments as written. -/
theorem commandCount_args (command : Command) :
    Line.commandCount command.args = command.commandCount := by
  cases command with
  | var name candidates =>
      simp [args, Line.commandCount, Token.commandCount, commandCount]
  | get name =>
      simp [args, Line.commandCount, Token.commandCount, commandCount]
  | collection elements =>
      rfl
  | build size element =>
      simp [args, Line.commandCount, Token.commandCount, commandCount]
  | rand kind lower upper =>
      simp [args, Line.commandCount, Token.commandCount, commandCount]

/-- No command is lost when another one is built. -/
theorem commandCount_of_ofTokens {tokens : List Token} {command : Command}
    (h : ofTokens tokens = .ok command) : command.commandCount = Line.commandCount tokens := by
  rw [eq_tokens_of_ofTokens h, Command.tokens, Line.commandCount, commandCount_args,
    Token.commandCount, Nat.zero_add]

end Command

/-! ## Bodies -/

namespace Body

/-- Nothing is lost from a count by dropping characters that are no braces. -/
theorem count_dropWhile {p : Char → Bool} (h : p '\x7b' = false) (s : List Char) :
    (s.dropWhile p).count '\x7b' = s.count '\x7b' := by
  have hdropped : (s.takeWhile p).count '\x7b' = 0 := by
    rw [List.count_eq_zero]
    intro hmem
    rw [List.mem_takeWhile_imp hmem] at h
    cases h
  calc
    (s.dropWhile p).count '\x7b'
        = (s.takeWhile p).count '\x7b' + (s.dropWhile p).count '\x7b' := by
            rw [hdropped, Nat.zero_add]
    _ = s.count '\x7b' := by
            rw [← List.count_append, List.takeWhile_append_dropWhile]

theorem count_trimStart (s : List Char) : (Text.trimStart s).count '\x7b' = s.count '\x7b' :=
  count_dropWhile isBlank_open s

theorem count_of_closeGroup {s inner rest : List Char}
    (h : closeGroup 0 [] s = some (inner, rest)) :
    s.count '\x7b' = inner.count '\x7b' + rest.count '\x7b' := by
  rw [(closeGroup_eq_some_iff.1 h).1, List.count_append, List.count_cons_of_ne (by decide)]

/-- Each opening brace of a text is a command among its tokens, at some depth. -/
theorem commandCount_of_tokensFrom {done tokens : List Token} {s : List Char}
    (h : tokensFrom done s = .ok tokens) :
    Line.commandCount tokens = Line.commandCount done + s.count '\x7b' := by
  fun_induction tokensFrom done s generalizing tokens with
  | case1 done s hs =>
      cases h
      rw [Line.commandCount_reverse, ← count_trimStart s, hs, List.count_nil, Nat.add_zero]
  | case2 =>
      cases h
  | case3 =>
      cases h
  | case4 done s cs inner rest hgroup command hcommand hs ihinner ih =>
      cases hread : tokensFrom [] inner with
      | error cause =>
          rw [hread] at hcommand
          cases hcommand
      | ok own =>
          rw [hread] at hcommand
          have hown : Line.commandCount own = 0 + inner.count '\x7b' := ihinner hread
          -- the brace is the command itself, and the others are in the group or behind it
          rw [ih h, Line.commandCount, Token.commandCount, Command.commandCount_of_ofTokens hcommand,
            hown, ← count_trimStart s, hs, List.count_cons_self, count_of_closeGroup hgroup]
          omega
  | case5 =>
      cases h
  | case6 done s c cs hs hopen hclose word =>
      rename_i ih
      rw [ih h, Line.commandCount, Token.commandCount, count_dropWhile (by decide),
        ← count_trimStart s, hs, List.count_cons_of_ne hopen, Nat.zero_add]

theorem commandCount_of_commandOf {s : List Char} {command : Command}
    (h : commandOf s = .ok command) : command.commandCount = s.count '\x7b' := by
  unfold commandOf at h
  cases hread : tokensFrom [] s with
  | error cause =>
      rw [hread] at h
      cases h
  | ok tokens =>
      rw [hread] at h
      rw [Command.commandCount_of_ofTokens h, commandCount_of_tokensFrom hread]
      simp [Line.commandCount]

end Body

/-! ## Lines -/

namespace Line

theorem commandCount_textTokens (text : List Char) : commandCount (textTokens text) = 0 := by
  unfold textTokens
  split
  · rfl
  · rfl

namespace Splitting

/-- The marks that open a command, and the braces that do so in the bodies. -/
def opened (splitting : Splitting) : Nat :=
  splitting.spans.length + (splitting.spans.map fun span => span.1.count '\x7b').sum

theorem commandCount_tokens {splitting : Splitting} {commands : List Command}
    (h : List.Forall₂ (fun span command => Body.commandOf span.1 = .ok command) splitting.spans
      commands) : commandCount (splitting.tokens commands) = splitting.opened := by
  rcases splitting with ⟨first, spans⟩
  dsimp only at h
  induction h generalizing first with
  | nil =>
      rw [tokens_nil, commandCount_textTokens]
      rfl
  | @cons span command spans commands hspan _ ih =>
      rcases span with ⟨body, between⟩
      rw [tokens_cons, commandCount_append, commandCount_textTokens, commandCount, ih between,
        Token.commandCount, Body.commandCount_of_commandOf hspan]
      simp only [opened, List.length_cons, List.map_cons, List.sum_cons]
      omega

end Splitting

/-- The commands of a line that was read, counted in any proper way to write it. -/
theorem commandCount_of_parse {text : String} {line : Line} (h : parse text = .ok line)
    {splitting : Splitting} (hwrites : splitting.Writes text.toList) :
    commandCount line = splitting.opened := by
  rcases parse_eq_ok_iff.1 h with ⟨own, hown, commands, hcommands, rfl⟩
  rw [hown.unique hwrites] at hcommands ⊢
  exact Splitting.commandCount_tokens hcommands

end Line

/-! ## Documents -/

namespace Document

open CommandLine

/-- Each line that was read is written properly, and its commands are counted so. -/
theorem exists_splittings {pieces : List String} {lines : List Line}
    (h : List.Forall₂ (fun piece line => Line.parse piece = .ok line) pieces lines) :
    ∃ splittings : List Line.Splitting,
      List.Forall₂ (fun piece splitting => splitting.Writes piece.toList) pieces splittings ∧
      splittings.length = lines.length ∧
      Line.commandCount lines.flatten = (splittings.map Line.Splitting.opened).sum := by
  induction h with
  | nil =>
      exact ⟨[], .nil, rfl, rfl⟩
  | cons hparse _ ih =>
      rcases Line.parse_eq_ok_iff.1 hparse with ⟨splitting, hwrites, -⟩
      rcases ih with ⟨splittings, hall, hlength, hcount⟩
      refine ⟨splitting :: splittings, .cons hwrites hall, ?_, ?_⟩
      · rw [List.length_cons, List.length_cons, hlength]
      · rw [List.flatten_cons, Line.commandCount_append, Line.commandCount_of_parse hparse hwrites,
          hcount, List.map_cons, List.sum_cons]

/-- The report on a template that can be read. -/
theorem check_of_ofText {file source : String} {doc : Document} {s : Surroundings}
    (htext : s.tree.readText file = .ok source) (hread : ofText file source = .ok doc)
    (manner : Manner) :
    (check manner s file).code = 0 ∧
      (check manner s file).stderr =
        manner.log [.parsed file doc.lines.length doc.commandCount] ∧
      (manner.format = .text → manner.quiet = false →
        (check manner s file).stdout =
          file ++ ": ok (" ++ Nat.repr doc.lines.length ++ " lines, " ++
            Nat.repr doc.commandCount ++ " commands)\n") ∧
      (manner.format = .json →
        (check manner s file).stdout =
          jsonLines (.object
            [("commands", .number doc.commandCount), ("file", .string file),
              ("lines", .number doc.lines.length), ("valid", .bool true)])) := by
  have hload : load s.tree file = .ok doc := FileTree.load_eq_ok.2 ⟨source, htext, hread⟩
  have hfile : doc.file = file := (ofLines_eq_ok_iff.1 hread).1
  subst hfile
  unfold check withTemplate
  rw [hload]
  refine ⟨rfl, rfl, ?_, ?_⟩
  · intro hformat hquiet
    simp [hformat, hquiet]
  · intro hformat
    simp [hformat]

/-- The commands of a template are counted in its text. A line that was read is written properly in
exactly one way, and it holds as many commands as that way has spans, and opening braces in their
bodies. So a document holds as many as its lines do by this count, and that is the number which a
check reports, on its output as in its log. -/
theorem commands_counted :
    (∀ text line, Line.parse text = .ok line →
      ∃ splitting : Line.Splitting, splitting.Writes text.toList ∧
        (∀ other : Line.Splitting, other.Writes text.toList → other = splitting) ∧
        Line.commandCount line =
          splitting.spans.length +
            (splitting.spans.map fun span => span.1.count '\x7b').sum) ∧
    ∀ file source doc, ofText file source = .ok doc →
      ∃ splittings : List Line.Splitting,
        List.Forall₂ (fun piece splitting => splitting.Writes piece.toList)
          (Text.keepingEnds source) splittings ∧
        doc.commandCount = (splittings.map Line.Splitting.opened).sum ∧
        doc.parsedEvent =
          .parsed file splittings.length (splittings.map Line.Splitting.opened).sum ∧
        ∀ (s : Surroundings) (manner : Manner), s.tree.readText file = .ok source →
          (check manner s file).code = 0 ∧
          (check manner s file).stderr =
            manner.log
              [.parsed file splittings.length (splittings.map Line.Splitting.opened).sum] ∧
          (manner.format = .text → manner.quiet = false →
            (check manner s file).stdout =
              file ++ ": ok (" ++ Nat.repr splittings.length ++ " lines, " ++
                Nat.repr (splittings.map Line.Splitting.opened).sum ++ " commands)\n") ∧
          (manner.format = .json →
            (check manner s file).stdout =
              jsonLines (.object
                [("commands", .number (splittings.map Line.Splitting.opened).sum),
                  ("file", .string file), ("lines", .number splittings.length),
                  ("valid", .bool true)])) := by
  constructor
  · intro text line h
    rcases Line.parse_eq_ok_iff.1 h with ⟨splitting, hwrites, -⟩
    refine ⟨splitting, hwrites, ?_, Line.commandCount_of_parse h hwrites⟩
    intro other hother
    exact hother.unique hwrites
  · intro file source doc hread
    rcases ofLines_eq_ok_iff.1 hread with ⟨hfile, hlines⟩
    rcases exists_splittings hlines with ⟨splittings, hwrites, hlength, hcount⟩
    refine ⟨splittings, hwrites, hcount, ?_, fun s manner htext => ?_⟩
    · rw [parsedEvent, hfile, hlength, commandCount, hcount]
    · rw [hlength, ← hcount]
      exact check_of_ofText htext hread manner

/-- A list in a list: one span, and one opening brace in its body. -/
theorem commands_counted_nested :
    ∃ splittings : List Line.Splitting,
      List.Forall₂ (fun piece splitting => splitting.Writes piece.toList)
        (Text.keepingEnds nestedSource) splittings ∧
      (splittings.map Line.Splitting.opened).sum = 2 ∧
      nested.parsedEvent = .parsed "nested" 1 2 := by
  rcases commands_counted.2 "nested" nestedSource nested ofLines_nestedSource with
    ⟨splittings, hwrites, hcount, hevent, -⟩
  have hlength : splittings.length = 1 := by
    rw [← hwrites.length_eq]
    decide
  have hnested : nested.commandCount = 2 := by
    decide
  rw [← hcount, hnested, hlength] at hevent
  exact ⟨splittings, hwrites, hcount.symm.trans hnested, hevent⟩

end Document

end TemplateVariants
