import TemplateVariants.Proofs.Hygiene
import TemplateVariants.Proofs.Layout.Trees
import TemplateVariants.Proofs.Passes.Identifiers

/-!
# The lines of the output

The second pass gives an identifier to each list that the first pass declares around a line, and
puts identifiers in the place of the look-ups of the lists. `NamedLine` is a line of the template
with its trees and these identifiers; what it brings into the output is a function of both. The
output is made of these lines, in the order of the template (`Document.exists_layout`).

Nothing is asked of the synthetic names: where two lists of a line have the same one, it stands for
the latest of them.
-/

namespace TemplateVariants

open ListForm Randomness

theorem Use.latest?_binds_cons (name : String) (pair : String × String)
    (issued : List (String × String)) :
    latest? name (binds (pair :: issued)) =
      (latest? name (binds issued)).or (if pair.1 = name then some pair.2 else none) := by
  have hcons : binds (pair :: issued) = [.bind pair.1 pair.2] ++ binds issued := rfl
  rw [hcons, latest?_append]
  congr 1
  by_cases hname : pair.1 = name
  · simp [latest?, boundTo?, hname]
  · simp [latest?, boundTo?, hname]

/-- A name that is bound stands for something. -/
theorem Use.exists_latest?_binds {name : String} {issued : List (String × String)}
    (h : name ∈ issued.map Prod.fst) :
    ∃ identifier, latest? name (binds issued) = some identifier := by
  induction issued with
  | nil =>
      cases h
  | cons pair issued ih =>
      rw [latest?_binds_cons]
      cases hlatest : latest? name (binds issued) with
      | some identifier =>
          exact ⟨identifier, rfl⟩
      | none =>
          rcases List.mem_cons.1 h with rfl | hrest
          · exact ⟨pair.2, by simp⟩
          · rcases ih hrest with ⟨identifier, hsome⟩
            rw [hlatest] at hsome
            cases hsome

/-- The text of a line without its commands. -/
def Line.text (line : Line) : String :=
  String.join (line.filterMap Token.text?)

namespace Line

@[simp]
theorem text_nil : text [] = "" := rfl

@[simp]
theorem text_literal_cons (t : String) (line : Line) :
    text (.literal t :: line) = t ++ text line := by
  simp [text, Token.text?]

@[simp]
theorem text_append (line more : Line) : text (line ++ more) = text line ++ text more := by
  simp [text, List.filterMap_append, String.join_append]

theorem text_flatMap {α : Type} (rows : List α) (f : α → Line) :
    text (rows.flatMap f) = String.join (rows.map fun row => text (f row)) := by
  induction rows with
  | nil =>
      rfl
  | cons row rows ih =>
      simp [ih]

end Line

theorem PendingLine.text_eq (lines : List PendingLine) :
    text lines = Line.text (lines.flatMap tokens) := by
  rw [text, Line.text, List.filterMap_flatMap]

namespace Expansion

/-- The text of what takes the place of a token, with identifiers for synthetic names. -/
def resolved (ident : String → String) (expansion : Expansion) : String :=
  Line.text (expansion.result.map (Token.rename ident))

/-- What takes the place of a span of the template: text stays as it is. -/
def inPlace (ident : String → String) (span : String) : Expansion → String
  | .text _ => span
  | expansion => expansion.resolved ident

theorem inPlace_of_command {command : Command} {expansion : Expansion}
    (h : IsOf (.command command) expansion) (ident : String → String) (span : String) :
    expansion.inPlace ident span = expansion.resolved ident := by
  cases h <;> rfl

end Expansion

/-! ## Named lines -/

/-- An expanded line with the identifiers that its lists got, in the order of the lists. -/
structure NamedLine where
  line : ExpandedLine
  identifiers : List String
  length_eq : identifiers.length = line.lists.length

namespace NamedLine

/-- The names of the lists with their identifiers. -/
def naming (named : NamedLine) : List (String × String) :=
  (named.line.lists.map AppendedList.name).zip named.identifiers

/-- The identifier that stands for a synthetic name, which is the latest that the name got. -/
def identifierOf (named : NamedLine) (name : String) : String :=
  (Use.latest? name (Use.binds named.naming)).getD name

/-- A line before for each list, which declares it. -/
def before (named : NamedLine) : List String :=
  named.identifiers.map fun identifier => named.line.indent ++ identifier ++ " = []\n"

/-- The line itself. -/
def body (named : NamedLine) : String :=
  String.join (named.line.row.map (Expansion.resolved named.identifierOf))

/-- A line after for each element of each list, which appends it. -/
def after (named : NamedLine) : List String :=
  named.line.lists.flatMap fun list => list.elements.map fun element =>
    named.line.indent ++ named.identifierOf list.name ++ ".append(" ++
      element.resolved named.identifierOf ++ ")\n"

def text (named : NamedLine) : String :=
  String.join (named.before ++ named.body :: named.after)

/-- Each identifier is one that may come up for the name of its list. -/
def Issued (named : NamedLine) : Prop :=
  List.Forall₂ (fun list identifier => Fresh.Drawn list.name [] identifier) named.line.lists
    named.identifiers

/-- The line keeps the text of the template: its spans are those that its tokens were read from, and
each command span has given way to what the command turned into. -/
def Keeps (source : String) (named : NamedLine) : Prop :=
  ∃ spans, source = String.join spans ∧
    List.Forall₂ Token.Spelled named.line.source.tokens spans ∧
    List.Forall₂ Expansion.IsOf named.line.source.tokens named.line.row ∧
    named.body = String.join (List.zipWith (Expansion.inPlace named.identifierOf) spans named.line.row)

end NamedLine

/-! ## Runs over parts of a row -/

namespace Expands

variable {G : Type} [WordSource G] {tokens more : List Token} {s s' : Session G}
  {row : List Expansion}

/-- A run over two rows is one run after the other. -/
theorem exists_of_append (h : Expands (tokens ++ more) s row s') :
    ∃ first s₁ rest, row = first ++ rest ∧ Expands tokens s first s₁ ∧ Expands more s₁ rest s' := by
  induction tokens generalizing s row with
  | nil =>
      exact ⟨[], s, row, rfl, .nil s, h⟩
  | cons token tokens ih =>
      cases h with
      | literal h =>
          rcases ih h with ⟨first, s₁, rest, rfl, hfirst, hrest⟩
          exact ⟨_ :: first, s₁, rest, rfl, .literal hfirst, hrest⟩
      | var hparts htexts hintroduce h =>
          rcases ih h with ⟨first, s₁, rest, rfl, hfirst, hrest⟩
          exact ⟨_ :: first, s₁, rest, rfl, .var hparts htexts hintroduce hfirst, hrest⟩
      | get hvalue h =>
          rcases ih h with ⟨first, s₁, rest, rfl, hfirst, hrest⟩
          exact ⟨_ :: first, s₁, rest, rfl, .get hvalue hfirst, hrest⟩
      | collection hparts hwriting h =>
          rcases ih h with ⟨first, s₁, rest, rfl, hfirst, hrest⟩
          exact ⟨_ :: first, s₁, rest, rfl, .collection hparts hwriting hfirst, hrest⟩
      | build hsized htext hcount hslots hwriting h =>
          rcases ih h with ⟨first, s₁, rest, rfl, hfirst, hrest⟩
          exact ⟨_ :: first, s₁, rest, rfl, .build hsized htext hcount hslots hwriting hfirst,
            hrest⟩
      | rand hlow hhigh htexts hvalue h =>
          rcases ih h with ⟨first, s₁, rest, rfl, hfirst, hrest⟩
          exact ⟨_ :: first, s₁, rest, rfl, .rand hlow hhigh htexts hvalue hfirst, hrest⟩

/-- An indentation is copied, and the line goes on behind it. -/
theorem exists_of_startLine {indent : String} (h : Expands (startLine indent tokens) s row s') :
    ∃ rest, Expands tokens s rest s' ∧
      Line.text (row.flatMap Expansion.result) =
        indent ++ Line.text (rest.flatMap Expansion.result) := by
  unfold startLine at h
  split at h
  · rename_i hempty
    refine ⟨row, h, ?_⟩
    rw [String.isEmpty_iff.1 hempty, String.empty_append]
  · cases h with
    | literal h =>
        exact ⟨_, h, by simp [Expansion.result]⟩

/-- The name of a declared list gets an identifier. -/
theorem exists_identifier {indent : String} {list : AppendedList}
    (h : Expands (list.declaration indent) s row s') :
    ∃ identifier,
      Line.text (row.flatMap Expansion.result) = indent ++ identifier ++ " = []\n" ∧
      (∀ name, s'.lookup? name =
        if list.name = name then some (.literal identifier) else s.lookup? name) ∧
      Fresh.Drawn list.name [] identifier := by
  rcases exists_of_startLine h with ⟨rest, hrest, htext⟩
  cases hrest with
  | @var _ identifier _ _ texts _ _ _ _ _ _ hparts htexts hintroduce hrest =>
      cases hparts
      cases hrest with
      | literal hrest =>
          cases hrest
          have hlookup := Compiling.lookup?_of_introduce hintroduce
          refine ⟨identifier, ?_, fun name => hlookup name, ?_⟩
          · rw [htext]
            simp [Expansion.result, String.append_assoc]
          · -- a declaration has no candidates
            have hcandidates : texts = [] := List.length_eq_zero_iff.1 htexts.length_eq
            rcases Compiling.introduce_eq_ok.1 hintroduce with ⟨dice, hdraw, -⟩
            have hdrawn := ((Fresh.gives_identifier _ _ _).ok hdraw).1
            simpa [hcandidates] using hdrawn

/-- Declarations get identifiers, and the names stand for the latest of them. -/
theorem exists_identifiers {indent : String} {lists : List AppendedList}
    (h : Expands (lists.flatMap (AppendedList.declaration indent)) s row s') :
    ∃ identifiers : List String,
      Line.text (row.flatMap Expansion.result) =
        String.join (identifiers.map fun identifier => indent ++ identifier ++ " = []\n") ∧
      (∀ name, s'.lookup? name =
        ((Use.latest? name (Use.binds ((lists.map AppendedList.name).zip identifiers))).map
          Token.literal).or (s.lookup? name)) ∧
      List.Forall₂ (fun list identifier => Fresh.Drawn list.name [] identifier) lists
        identifiers := by
  induction lists generalizing s row with
  | nil =>
      cases h
      exact ⟨[], rfl, fun name => rfl, .nil⟩
  | cons list lists ih =>
      rw [List.flatMap_cons] at h
      rcases h.exists_of_append with ⟨first, s₁, rest, rfl, hfirst, hrest⟩
      rcases exists_identifier hfirst with ⟨identifier, hownText, hownLookup, hown⟩
      rcases ih hrest with ⟨identifiers, htext, hlookup, hdrawn⟩
      refine ⟨identifier :: identifiers, ?_, fun name => ?_, .cons hown hdrawn⟩
      · rw [List.flatMap_append, Line.text_append, hownText, htext, List.map_cons, String.join_cons]
      · rw [List.map_cons, List.zip_cons_cons, Use.latest?_binds_cons, hlookup, hownLookup]
        cases Use.latest? name (Use.binds ((lists.map AppendedList.name).zip identifiers)) with
        | some latest =>
            simp
        | none =>
            by_cases hname : list.name = name
            · simp [hname]
            · simp [hname]

end Expands

namespace Scoped

/-- It is enough to know what stands for the given names. -/
theorem map_rename_congr {names : List String} {tokens : List Token} {f g : String → String}
    (h : Scoped names tokens) (hdeclared : Line.declared tokens = [])
    (hfg : ∀ name ∈ names, f name = g name) :
    tokens.map (Token.rename f) = tokens.map (Token.rename g) := by
  induction h with
  | nil _ =>
      rfl
  | literal _ ih =>
      rw [List.map_cons, List.map_cons, ih hdeclared hfg]
      rfl
  | declare _ _ =>
      cases hdeclared
  | lookUp hname _ ih =>
      rw [List.map_cons, List.map_cons, ih hdeclared hfg, Token.rename, Token.rename, hfg _ hname]

end Scoped

/-! ## A line of the first pass in the second one -/

section Passes

variable {G : Type} [WordSource G]

namespace NamedLine

/-- The texts of the appends. -/
theorem text_fillings (named : NamedLine) :
    Line.text ((named.line.lists.flatMap (AppendedList.fillings named.line.indent)).flatten.map
        (Token.rename named.identifierOf)) = String.join named.after := by
  have hfilling :
      ∀ (list : AppendedList) (element : Expansion),
        Line.text ((startLine named.line.indent
            (.command (.get list.name) :: .literal ".append(" ::
              (element.result ++ [.literal ")\n"]))).map (Token.rename named.identifierOf)) =
          named.line.indent ++ named.identifierOf list.name ++ ".append(" ++
            element.resolved named.identifierOf ++ ")\n" := by
    intro list element
    unfold startLine
    split
    · rename_i hempty
      rw [String.isEmpty_iff.1 hempty]
      simp [Token.rename, Expansion.resolved, String.append_assoc]
    · simp [Token.rename, Expansion.resolved, String.append_assoc]
  unfold after AppendedList.fillings
  rw [← List.flatMap_id', List.map_flatMap, Line.text_flatMap, List.map_flatMap]
  congr 1
  refine List.flatMap_congr fun list _ => ?_
  rw [List.map_map]
  exact List.map_congr_left fun element _ => hfilling list element

/-- The text of the line itself. -/
theorem text_result (named : NamedLine) :
    Line.text (named.line.result.map (Token.rename named.identifierOf)) = named.body := by
  rw [ExpandedLine.result, List.map_flatMap, Line.text_flatMap]
  rfl

end NamedLine

namespace ExpandedLine

variable {line : ExpandedLine} {s s' : Session G} {row : List Expansion}

/-- What the second pass makes of a line of the first pass. -/
theorem exists_named (hsound : ∀ expansion ∈ line.row, expansion.Sound)
    (h : Expands (line.lines.flatMap PendingLine.tokens) s row s') (hs : s.Settled) :
    ∃ named : NamedLine, named.line = line ∧
      Line.text (row.flatMap Expansion.result) = named.text ∧ named.Issued := by
  have hscoped := scoped_lines hsound
  have hdeclared := declared_lines hsound
  rw [flatMap_tokens_lines] at h hscoped hdeclared
  -- before the line stand the declarations, and from the line on there are only look-ups
  rw [Scoped.append_iff, List.append_nil, AppendedList.declared_declarations] at hscoped
  rw [Line.declared_append, AppendedList.declared_declarations,
    List.append_right_eq_self] at hdeclared
  rcases h.exists_of_append with ⟨first, s₁, rest, rfl, hfirst, hrest⟩
  rcases Expands.exists_identifiers hfirst with ⟨identifiers, htext, hlookup, hissued⟩
  have hlength : identifiers.length = line.lists.length := hissued.length_eq.symm
  let named : NamedLine := ⟨line, identifiers, hlength⟩
  have hs₁ := (hfirst.sound_and_settled hs).2
  have hrename := hscoped.2.flatMap_result_eq hrest hs₁ (by rw [hdeclared]; exact List.nodup_nil)
    (by rw [hdeclared]; simp)
  -- what a name stands for at the end is the latest identifier that it got
  have hident : ∀ name ∈ line.lists.map AppendedList.name,
      s'.identifierOf name = named.identifierOf name := by
    intro name hname
    have hbound : name ∈ named.naming.map Prod.fst := by
      rw [NamedLine.naming, List.map_fst_zip (by simp [named, hlength])]
      exact hname
    rcases Use.exists_latest?_binds hbound with ⟨identifier, hlatest⟩
    have hkept : s'.lookup? name = some (.literal identifier) := by
      have hnot : name ∉ Line.declared
          (line.result ++ (line.lists.flatMap (AppendedList.fillings line.indent)).flatten) := by
        rw [hdeclared]
        exact List.not_mem_nil
      have hlatest' := hlatest
      rw [NamedLine.naming] at hlatest'
      rw [hscoped.2.lookup?_eq hrest hnot, hlookup, hlatest']
      rfl
    rw [Session.identifierOf, hkept, NamedLine.identifierOf, hlatest]
    rfl
  rw [hscoped.2.map_rename_congr hdeclared hident] at hrename
  refine ⟨named, rfl, ?_, hissued⟩
  rw [List.flatMap_append, Line.text_append, htext, hrename, List.map_append, Line.text_append,
    NamedLine.text, String.join_append, String.join_cons]
  congr 1
  exact congrArg₂ (· ++ ·) named.text_result named.text_fillings

/-- What the second pass makes of the lines of the first pass, one after the other. -/
theorem exists_allNamed {expanded : List ExpandedLine}
    (hsound : ∀ line ∈ expanded, ∀ expansion ∈ line.row, expansion.Sound)
    (h : Expands ((expanded.flatMap lines).flatMap PendingLine.tokens) s row s')
    (hs : s.Settled) :
    ∃ named : List NamedLine, named.map NamedLine.line = expanded ∧
      Line.text (row.flatMap Expansion.result) = String.join (named.map NamedLine.text) ∧
      ∀ line ∈ named, line.Issued := by
  induction expanded generalizing s row with
  | nil =>
      cases h
      exact ⟨[], rfl, rfl, by simp⟩
  | cons line expanded ih =>
      rcases List.forall_mem_cons.1 hsound with ⟨hline, hlines⟩
      rw [List.flatMap_cons, List.flatMap_append] at h
      rcases h.exists_of_append with ⟨first, s₁, rest, rfl, hfirst, hrest⟩
      rcases exists_named hline hfirst hs with ⟨named, rfl, htext, hissued⟩
      rcases ih hlines hrest (hfirst.sound_and_settled hs).2 with ⟨more, rfl, hmore, hmoreIssued⟩
      refine ⟨named :: more, rfl, ?_, List.forall_mem_cons.2 ⟨hissued, hmoreIssued⟩⟩
      rw [List.flatMap_append, Line.text_append, htext, hmore, List.map_cons, String.join_cons]

end ExpandedLine

namespace Document

variable {doc : Document} {options : Options} {dice : Dice G} {text : String}
  {expanded : List ExpandedLine} {s : Session G}

/-- After the first pass comes a second one, if only one that changes nothing. -/
theorem exists_second_pass (h : (doc.compile options dice).outcome = .ok text)
    (hfirst : ExpandsLines (PendingLine.ofDocument doc) (options.session dice) expanded s) :
    ∃ (s₁ : Session G) (second : List ExpandedLine) (s₂ : Session G), s₁.bindings = s.bindings ∧
      ExpandsLines (expanded.flatMap ExpandedLine.lines) s₁ second s₂ ∧
      text = PendingLine.text (second.flatMap ExpandedLine.lines) := by
  rcases settle_of_first_pass h hfirst with ⟨passes, lines, s', -, rfl, hlines⟩
  rcases hlines with ⟨hnone, rfl⟩ | ⟨event, second, s₂, hsecond, rfl⟩
  · have hpass :
        expandPass doc.file (expanded.flatMap ExpandedLine.lines) s =
          .ok (expanded.flatMap ExpandedLine.lines) s :=
      expandPass_of_commandCount hnone
    rcases expandPass_eq_ok_iff.1 hpass with ⟨second, hsecond, hsame⟩
    exact ⟨s, second, s, rfl, hsecond, congrArg PendingLine.text hsame⟩
  · exact ⟨s.record event, second, s₂, rfl, hsecond, rfl⟩

/-- A text that is compiled is made of the lines of the template, with their lists around them. -/
theorem exists_layout (h : (doc.compile options dice).outcome = .ok text)
    (hfirst : ExpandsLines (PendingLine.ofDocument doc) (options.session dice) expanded s) :
    ∃ named : List NamedLine, named.map NamedLine.line = expanded ∧
      text = String.join (named.map NamedLine.text) ∧ ∀ line ∈ named, line.Issued := by
  have hsettled := options.settled_session dice
  rcases hfirst.sound_and_settled hsettled with ⟨hsound, hs⟩
  rcases exists_second_pass h hfirst with ⟨s₁, second, s₂, hbindings, hsecond, rfl⟩
  rcases ExpandedLine.exists_allNamed hsound hsecond.expands (hs.of_bindings_eq hbindings) with
    ⟨named, hnamed, htext, hissued⟩
  refine ⟨named, hnamed, ?_, hissued⟩
  rw [PendingLine.text_eq, hsecond.flatMap_tokens_of_scoped (hfirst.scoped_lines hsettled), htext]

end Document

namespace NamedLine

/-- What was read from a text keeps it. -/
theorem keeps {named : NamedLine} {source : String}
    (hread : Line.parse source = .ok named.line.source.tokens)
    (hshape : List.Forall₂ Expansion.IsOf named.line.source.tokens named.line.row) :
    named.Keeps source := by
  rcases Line.exists_spans hread with ⟨spans, hspans, hsource⟩
  have hplaces :
      ∀ {tokens : List Token} {spans : List String} {row : List Expansion},
        List.Forall₂ Token.Spelled tokens spans → List.Forall₂ Expansion.IsOf tokens row →
        List.zipWith (Expansion.inPlace named.identifierOf) spans row =
          row.map (Expansion.resolved named.identifierOf) := by
    intro tokens spans row hspans hrow
    induction hspans generalizing row with
    | nil =>
        cases hrow
        rfl
    | cons hspan _ ih =>
        cases hrow with
        | cons hfirst hrest =>
            rw [List.zipWith_cons_cons, List.map_cons, ih hrest]
            congr 1
            cases hspan with
            | text _ =>
                cases hfirst
                simp [Expansion.inPlace, Expansion.resolved, Expansion.result, Token.rename]
            | command _ =>
                exact Expansion.inPlace_of_command hfirst _ _
  refine ⟨spans, hsource, hspans, hshape, ?_⟩
  rw [hplaces hspans hshape]
  rfl

end NamedLine

end Passes

end TemplateVariants
