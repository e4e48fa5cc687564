import TemplateVariants.Proofs.Layout.Newlines

/-!
# Lines that stand on their own

A line around a line of the template has its line feed at its end, but nothing sets it off from what
comes before it: there it relies on the line feed of the template. Only the last line of a text can
be without one. What a list of that line appends then goes on behind the line itself
(`Document.unended_runs_on`), and this is the only way in which it goes wrong
(`Document.lists_stand_alone_iff`).
-/

namespace TemplateVariants

open ListForm Randomness

namespace Text

/-! ## Ends of lines -/

/-- Behind the text a new line begins: it is empty, or its last character is a line feed. -/
def EndsLine (text : String) : Prop :=
  ∀ c ∈ text.toList.getLast?, c = '\n'

theorem endsLine_empty : EndsLine "" := by
  simp [EndsLine]

theorem endsLine_append_of_ne {more : String} (text : String) (h : more ≠ "") :
    EndsLine (text ++ more) ↔ EndsLine more := by
  have hne : more.toList ≠ [] := fun hnil => h (String.toList_eq_nil_iff.1 hnil)
  rw [EndsLine, EndsLine, String.toList_append, List.getLast?_append_of_ne_nil _ hne]

/-- What comes behind the end of a line decides alone. -/
theorem endsLine_append {text : String} (h : EndsLine text) (more : String) :
    EndsLine (text ++ more) ↔ EndsLine more := by
  by_cases hmore : more = ""
  · rw [hmore, String.append_empty]
    exact iff_of_true h endsLine_empty
  · exact endsLine_append_of_ne text hmore

theorem IsLine.endsLine {text : String} (h : IsLine text) : EndsLine text := by
  rcases h with ⟨line, -, rfl⟩
  simp [EndsLine]

theorem OneLine.not_endsLine {text : String} (h : OneLine text) : ¬ EndsLine text := by
  intro hends
  have hne : text.toList ≠ [] := fun hnil => h.1 (String.toList_eq_nil_iff.1 hnil)
  have hlast := hends _ (List.getLast?_eq_some_getLast hne)
  apply h.2
  rw [← hlast]
  exact List.getLast_mem hne

/-- Lines behind the end of a line end in one. -/
theorem endsLine_join {lines : List String} (h : ∀ line ∈ lines, IsLine line) :
    EndsLine (String.join lines) := by
  induction lines with
  | nil =>
      exact endsLine_empty
  | cons line lines ih =>
      rcases List.forall_mem_cons.1 h with ⟨hline, hlines⟩
      rw [String.join_cons, endsLine_append hline.endsLine]
      exact ih hlines

end Text

/-! ## Stretches of an output -/

/-- A stretch of an output, which is a line of the template, with what its commands turned into, or
a synthetic line of a list. -/
inductive Stretch where
  | template (text : String)
  | synthetic (text : String)
  deriving DecidableEq

namespace Stretch

def text : Stretch → String
  | .template text | .synthetic text => text

/-- The output that is made of the stretches. -/
def join (stretches : List Stretch) : String :=
  String.join (stretches.map text)

/-- Behind the text `start`, each synthetic line stands on a line of its own: a line begins where it
begins, and it is one line with its line feed. -/
def StandAlone (start : String) (stretches : List Stretch) : Prop :=
  ∀ early line late, stretches = early ++ .synthetic line :: late →
    Text.EndsLine (start ++ join early) ∧ Text.IsLine line

variable {start : String} {stretches : List Stretch}

theorem join_nil : join [] = "" := rfl

theorem join_singleton (stretch : Stretch) : join [stretch] = stretch.text := by
  simp [join]

theorem join_append (first second : List Stretch) :
    join (first ++ second) = join first ++ join second := by
  simp [join, String.join_append]

theorem join_synthetic (lines : List String) : join (lines.map synthetic) = String.join lines := by
  rw [join, List.map_map]
  exact congrArg String.join (List.map_id lines)

theorem standAlone_nil : StandAlone start [] := by
  intro early line late h
  simp at h

theorem standAlone_append {first second : List Stretch} :
    StandAlone start (first ++ second) ↔
      StandAlone start first ∧ StandAlone (start ++ join first) second := by
  constructor
  · intro h
    constructor
    · rintro early line late rfl
      exact h early line (late ++ second) (by simp)
    · rintro early line late rfl
      have hboth := h (first ++ early) line late (by simp)
      rwa [join_append, ← String.append_assoc] at hboth
  · rintro ⟨hfirst, hsecond⟩ early line late h
    -- the line is one of the first stretches or of the second ones
    rcases List.append_eq_append_iff.1 h with ⟨between, rfl, hrest⟩ | ⟨between, rfl, hrest⟩
    · have hown := hsecond between line late hrest
      rwa [String.append_assoc, ← join_append] at hown
    · cases between with
      | nil =>
          have hown := hsecond [] line late hrest.symm
          rwa [List.append_nil, join_nil, String.append_empty] at hown
      | cons stretch between =>
          rcases List.cons.inj hrest with ⟨rfl, -⟩
          exact hfirst early line between rfl

/-- Synthetic lines stand alone behind the end of a line, and only there. -/
theorem standAlone_synthetic {lines : List String} (h : ∀ line ∈ lines, Text.IsLine line) :
    StandAlone start (lines.map synthetic) ↔ Text.EndsLine start ∨ lines = [] := by
  constructor
  · intro hstand
    cases lines with
    | nil =>
        exact .inr rfl
    | cons line lines =>
        have hfirst := (hstand [] line (lines.map synthetic) rfl).1
        rw [join_nil, String.append_empty] at hfirst
        exact .inl hfirst
  · rintro (hstart | rfl)
    · intro early line late hlines
      rcases List.map_eq_append_iff.1 hlines with ⟨first, rest, rfl, rfl, hrest⟩
      rcases List.map_eq_cons_iff.1 hrest with ⟨own, others, rfl, hown, -⟩
      cases hown
      rcases List.forall_mem_append.1 h with ⟨hfirst, hrest⟩
      have hends : Text.EndsLine (start ++ join (first.map synthetic)) := by
        rw [join_synthetic, Text.endsLine_append hstart]
        exact Text.endsLine_join hfirst
      exact ⟨hends, hrest _ List.mem_cons_self⟩
    · exact standAlone_nil

theorem standAlone_template (text : String) : StandAlone start [.template text] := by
  intro early line late h
  rcases List.singleton_eq_append_iff.1 h with ⟨-, hlate⟩ | ⟨-, hlate⟩
  · cases hlate
  · cases hlate

end Stretch

/-! ## Stretches of a named line -/

namespace Place

theorem ne_empty {span place : String} (h : Place span place) : place ≠ "" := by
  cases h with
  | text hne =>
      exact hne
  | command hone =>
      exact hone.1

theorem span_ne_empty {span place : String} (h : Place span place) : span ≠ "" := by
  cases h with
  | text hne =>
      exact hne
  | command _ =>
      simp

/-- A command does not end a line, and neither does what it turned into. -/
theorem endsLine_iff {span place : String} (h : Place span place) :
    Text.EndsLine place ↔ Text.EndsLine span := by
  cases h with
  | text _ =>
      exact Iff.rfl
  | command hone =>
      have hmark : ¬ Text.EndsLine "]~" := by
        simp [Text.EndsLine]
      rw [Text.endsLine_append_of_ne _ (by decide)]
      exact iff_of_false hone.not_endsLine hmark

theorem endsLine_join {spans places : List String} (h : List.Forall₂ Place spans places) :
    Text.EndsLine (String.join places) ↔ Text.EndsLine (String.join spans) := by
  induction h with
  | nil =>
      exact Iff.rfl
  | @cons span place spans places hfirst hrest ih =>
      rw [String.join_cons, String.join_cons]
      cases hrest with
      | nil =>
          rw [String.join_nil, String.append_empty, String.append_empty]
          exact hfirst.endsLine_iff
      | cons hnext _ =>
          -- the first place does not decide
          have hplaces := Text.join_cons_ne_empty hnext.ne_empty
          have hspans := Text.join_cons_ne_empty hnext.span_ne_empty
          rw [Text.endsLine_append_of_ne _ (hplaces _), Text.endsLine_append_of_ne _ (hspans _)]
          exact ih

end Place

namespace NamedLine

variable {named : NamedLine} {source start : String}

/-- The line of the template with the synthetic lines around it. -/
def stretches (named : NamedLine) : List Stretch :=
  named.before.map .synthetic ++ [.template named.body] ++ named.after.map .synthetic

theorem join_stretches (named : NamedLine) : Stretch.join named.stretches = named.text := by
  rw [stretches, text, Stretch.join_append, Stretch.join_append, Stretch.join_synthetic,
    Stretch.join_synthetic, Stretch.join_singleton, String.join_append, String.join_cons,
    String.append_assoc]
  rfl

/-- Behind the end of a line the lines before stand alone. The lines after do if the line itself ends
with a line feed, as in the template. -/
theorem OneLine.standAlone_stretches (h : named.OneLine) (hkeeps : named.Keeps source)
    (hlast : '\n' ∉ source.toList.dropLast) (hstart : Text.EndsLine start) :
    Stretch.StandAlone start named.stretches ↔ Text.EndsLine source ∨ named.after = [] := by
  have hbefore := h.isLine_before hkeeps hlast
  have hafter := h.isLine_after hkeeps hlast
  rcases h.exists_places hkeeps with ⟨spans, places, rfl, hbody, hplaces⟩
  have hline : Text.EndsLine (start ++ String.join named.before) :=
    (Text.endsLine_append hstart _).2 (Text.endsLine_join hbefore)
  have hends :
      Text.EndsLine (start ++ String.join named.before ++ named.body) ↔
        Text.EndsLine (String.join spans) := by
    rw [Text.endsLine_append hline, hbody, Place.endsLine_join hplaces]
  rw [stretches, Stretch.standAlone_append, Stretch.standAlone_append, Stretch.join_append,
    Stretch.join_synthetic, Stretch.join_singleton, ← String.append_assoc,
    Stretch.standAlone_synthetic hbefore, Stretch.standAlone_synthetic hafter]
  constructor
  · intro hparts
    exact hparts.2.imp_left hends.1
  · intro hdecides
    exact ⟨⟨.inl hstart, Stretch.standAlone_template _⟩, hdecides.imp_left hends.2⟩

/-- A line that ends with a line feed leaves the end of a line behind it. -/
theorem OneLine.endsLine_text (h : named.OneLine) (hkeeps : named.Keeps source)
    (hlast : '\n' ∉ source.toList.dropLast) (hsource : Text.EndsLine source) :
    Text.EndsLine named.text := by
  have hbefore := h.isLine_before hkeeps hlast
  have hafter := h.isLine_after hkeeps hlast
  rcases h.exists_places hkeeps with ⟨spans, places, rfl, hbody, hplaces⟩
  have hends : Text.EndsLine named.body := by
    rw [hbody]
    exact (Place.endsLine_join hplaces).2 hsource
  rw [NamedLine.text, String.join_append, String.join_cons,
    Text.endsLine_append (Text.endsLine_join hbefore), Text.endsLine_append hends]
  exact Text.endsLine_join hafter

/-- In the output of a text that is cut into lines, each synthetic line stands alone if the text ends
with a line feed, or if nothing stands after its last line. -/
theorem standAlone_lines {pieces : List String} {lines : List NamedLine} (hcut : Text.Cut pieces)
    (hlines : List.Forall₂ (fun source line => line.Keeps source ∧ line.OneLine) pieces lines)
    (hstart : Text.EndsLine start) :
    Stretch.StandAlone start (lines.flatMap stretches) ↔
      Text.EndsLine (String.join pieces) ∨ ∀ last ∈ lines.getLast?, last.after = [] := by
  induction hcut generalizing start lines with
  | nil =>
      cases hlines
      exact iff_of_true Stretch.standAlone_nil (.inl Text.endsLine_empty)
  | @unended piece hone =>
      -- the last line, which has no line feed
      cases hlines with
      | @cons _ line _ _ hline hrest =>
          cases hrest
          have hlast : '\n' ∉ piece.toList.dropLast := fun hmem =>
            hone.2 (List.dropLast_subset _ hmem)
          have hown := hline.2.standAlone_stretches hline.1 hlast hstart
          rw [List.flatMap_singleton, hown]
          simp
  | @ended piece pieces hpiece hcut ih =>
      cases hlines with
      | @cons _ line _ lines hline hlines =>
          have hlast := (Text.Cut.ended hpiece hcut).newline_last piece List.mem_cons_self
          have hends := hpiece.endsLine
          have hown := hline.2.standAlone_stretches hline.1 hlast hstart
          have hbehind : Text.EndsLine (start ++ line.text) := by
            rw [Text.endsLine_append hstart]
            exact hline.2.endsLine_text hline.1 hlast hends
          rw [List.flatMap_cons, Stretch.standAlone_append, hown, join_stretches,
            ih hlines hbehind, String.join_cons, Text.endsLine_append hends]
          have hrest :
              Text.EndsLine (String.join pieces) ∨ (∀ last ∈ lines.getLast?, last.after = []) ↔
                Text.EndsLine (String.join pieces) ∨
                  ∀ last ∈ (line :: lines).getLast?, last.after = [] := by
            cases hlines with
            | nil =>
                exact iff_of_true (.inl Text.endsLine_empty) (.inl Text.endsLine_empty)
            | cons _ _ =>
                rw [List.getLast?_cons_cons]
          constructor
          · intro hparts
            exact hrest.1 hparts.2
          · intro hdecides
            exact ⟨.inl hends, hrest.2 hdecides⟩

theorem join_flatMap_stretches (lines : List NamedLine) :
    Stretch.join (lines.flatMap stretches) = String.join (lines.map text) := by
  induction lines with
  | nil =>
      rfl
  | cons line lines ih =>
      rw [List.flatMap_cons, Stretch.join_append, join_stretches, ih, List.map_cons,
        String.join_cons]

end NamedLine

/-! ## The output of a compilation -/

namespace Document

/-- Where the lists of the output stand. A line around a line of the template stands on a line of its
own in the output of every text that ends with a line feed. In the output of another text all of them
do just if nothing is appended after its last line. -/
theorem lists_stand_alone_iff {G : Type} [WordSource G] {file source : String} {doc : Document}
    {options : Options} {dice : Dice G} {text : String} (hread : ofText file source = .ok doc)
    (h : (doc.compile options dice).outcome = .ok text) :
    ∃ (named : List NamedLine) (s : Session G),
      ExpandsLines (PendingLine.ofDocument doc) (options.session dice) (named.map NamedLine.line) s ∧
      List.Forall₂ (fun piece line => line.Keeps piece) (Text.keepingEnds source) named ∧
      text = Stretch.join (named.flatMap NamedLine.stretches) ∧
      (Stretch.StandAlone "" (named.flatMap NamedLine.stretches) ↔
        Text.EndsLine source ∨ ∀ last ∈ named.getLast?, last.after = []) := by
  rcases exists_kept_layout hread h with ⟨named, s, hfirst, hkept, rfl⟩
  have hkeeps := hkept.imp fun _ _ hline => hline.1
  have hstand := NamedLine.standAlone_lines (Text.cut_keepingEnds source) hkept Text.endsLine_empty
  rw [Text.join_keepingEnds] at hstand
  exact ⟨named, s, hfirst, hkeeps, (NamedLine.join_flatMap_stretches named).symm, hstand⟩

theorem nested_stands_alone :
    ∃ (named : List NamedLine) (s : Session Replay),
      ExpandsLines (PendingLine.ofDocument nested) (({} : Options).session nestedDice)
        (named.map NamedLine.line) s ∧
      nestedName ++ " = []\n" ++ nestedName ++ "\n" ++ nestedName ++ ".append(1)\n" ++
          nestedName ++ ".append([2])\n" = Stretch.join (named.flatMap NamedLine.stretches) ∧
      Stretch.StandAlone "" (named.flatMap NamedLine.stretches) := by
  rcases lists_stand_alone_iff ofLines_nestedSource nested_compiles.1 with
    ⟨named, s, hfirst, -, htext, hstand⟩
  have hends : Text.EndsLine nestedSource := by
    simp [Text.EndsLine, nestedSource]
  exact ⟨named, s, hfirst, htext, hstand.2 (.inl hends)⟩

/-! ### A text without a line feed at its end -/

def unendedSource : String := "xs = ~[collection 1 2]~"

def unended : Document where
  file := "unended"
  lines := [[.literal "xs = ", .command (.collection [.literal "1", .literal "2"])]]

/-- The line of the first pass, and the name itself as the identifier. -/
def unendedLine : NamedLine where
  line := {
    source := ⟨1, unended.lines.flatten⟩
    row := [.text "xs = ", .collection [.text "1", .text "2"] (.appended nestedName)] }
  identifiers := [nestedName]
  length_eq := rfl

theorem unended_expands {s : Session Replay} (hdice : s.dice = zeros 22) :
    ∃ s', Expands unended.lines.flatten s unendedLine.line.row s' ∧ s'.dice = zeros 1 ∧
      s'.identifiers = s.identifiers := by
  have hwriting :
      (Compiling.roll (drawWriting 2) : Compiling Cause Replay Writing) s =
        .ok (.appended nestedName) { s with dice := zeros 1 } :=
    Compiling.roll_eq_ok.2 ⟨_, by rw [hdice]; exact drawWriting_zeros 2 1, rfl⟩
  exact ⟨_, .literal (.collection (.literal (.literal (.nil _))) hwriting (.nil _)), rfl, rfl⟩

theorem unended_settles {s : Session Replay} (hdice : s.dice = zeros 1)
    (hfree : ∀ identifier, s.isClaimed identifier = false) :
    ∃ second s', ExpandsLines unendedLine.line.lines s second s' ∧
      second.flatMap ExpandedLine.lines =
        unendedLine.line.lines.map (PendingLine.rename id) := by
  have hdraw : Fresh.drawName nestedName [] s.dice = .ok nestedName (zeros 0) := by
    rw [hdice]
    rfl
  rcases Compiling.exists_introduce hdraw (hfree nestedName) with ⟨s₁, hintroduce, -⟩
  have hlookup : s₁.lookup? nestedName = some (.literal nestedName) :=
    (Compiling.lookup?_of_introduce hintroduce nestedName).trans (if_pos rfl)
  have hnone : Expansion.HaveTexts [] [] := rfl
  refine ⟨_, _, .cons (.var (.nil _) hnone hintroduce (.literal (.nil _)))
    (.cons (.literal (.get hlookup (.nil _)))
      (.cons (.get hlookup (.literal (.literal (.literal (.nil _)))))
        (.cons (.get hlookup (.literal (.literal (.literal (.nil _))))) (.nil _)))), ?_⟩
  rfl

theorem unended_compiles :
    (unended.compile {} (zeros 22)).outcome = .ok (Stretch.join unendedLine.stretches) ∧
      ∃ s, Expands unended.lines.flatten (({} : Options).session (zeros 22)) unendedLine.line.row s ∧
        ExpandsLines (PendingLine.ofDocument unended) (({} : Options).session (zeros 22))
          [unendedLine.line] s := by
  rcases unended_expands (s := ({} : Options).session (zeros 22)) rfl with
    ⟨s, hrow, hdice, hidentifiers⟩
  have hfirst :
      ExpandsLines (PendingLine.ofDocument unended) (({} : Options).session (zeros 22))
        [unendedLine.line] s := .cons hrow (.nil _)
  refine ⟨?_, s, hrow, hfirst⟩
  have hfree : ∀ identifier, s.isClaimed identifier = false := by
    intro identifier
    simp [Session.isClaimed, hidentifiers, Options.session]
  rcases unended_settles (s := s.record (.expanded unended.file 1 1 4)) hdice hfree with
    ⟨second, s', hsecond, hlines⟩
  have hdone : PendingLine.commandCount (second.flatMap ExpandedLine.lines) = 0 := by
    rw [hlines]
    decide
  rw [outcome_of_two_passes (by decide) (by decide) hfirst (by decide) hsecond hdone, hlines]
  decide

/-- The first append stands behind the line that it belongs to. -/
theorem unended_runs_on :
    ofText "unended" unendedSource = .ok unended ∧
      (∃ s, ExpandsLines (PendingLine.ofDocument unended) (({} : Options).session (zeros 22))
        [unendedLine.line] s) ∧
      unendedLine.Keeps unendedSource ∧
      (unended.compile {} (zeros 22)).outcome = .ok (Stretch.join unendedLine.stretches) ∧
      unendedLine.stretches =
        [.synthetic (nestedName ++ " = []\n"), .template ("xs = " ++ nestedName),
          .synthetic (nestedName ++ ".append(1)\n"),
          .synthetic (nestedName ++ ".append(2)\n")] ∧
      ¬ Stretch.StandAlone "" unendedLine.stretches := by
  rcases unended_compiles with ⟨hcompiles, s, hrow, hfirst⟩
  have hread : Line.parse unendedSource = .ok unended.lines.flatten := by
    with_unfolding_all rfl
  have hstretches :
      unendedLine.stretches =
        [.synthetic (nestedName ++ " = []\n"), .template ("xs = " ++ nestedName),
          .synthetic (nestedName ++ ".append(1)\n"),
          .synthetic (nestedName ++ ".append(2)\n")] := by
    decide
  refine ⟨by with_unfolding_all rfl, ⟨s, hfirst⟩, NamedLine.keeps hread hrow.isOf, hcompiles,
    hstretches, ?_⟩
  intro hstand
  rw [hstretches] at hstand
  -- before the first append stands the line without a line feed
  have hends := (hstand [_, _] _ [_] rfl).1
  have hlast := hends 'a' (by decide)
  cases hlast

end Document

end TemplateVariants
