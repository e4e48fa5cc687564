import Mathlib.Algebra.GroupWithZero.Nat
import TemplateVariants.Proofs.Layout.Lines
import TemplateVariants.Proofs.ListProgram.Execution

/-!
# Line feeds of the output

A text is read in pieces, each with no line feed but at its end. So the span of a command holds
none, and neither does an indentation with a command behind it. What commands turn into stays on its
line, and each line around a line of the template has its own line feed; so the line feeds of the
output are those of the template and one for each of these lines (`Document.output_laid_out`).
-/

namespace TemplateVariants

open ListForm Randomness

namespace Text

/-! ## Counting line feeds -/

def newlines (text : String) : Nat :=
  text.toList.count '\n'

theorem newlines_append (text more : String) :
    newlines (text ++ more) = newlines text + newlines more := by
  simp [newlines]

theorem newlines_eq_zero {text : String} (h : '\n' ∉ text.toList) : newlines text = 0 :=
  List.count_eq_zero.2 h

/-! ## Pieces of a text -/

theorem join_cons_ne_empty {text : String} (h : text ≠ "") (texts : List String) :
    String.join (text :: texts) ≠ "" := by
  rw [String.join_cons]
  exact fun hempty => h (String.append_eq_empty_iff.1 hempty).1

/-- One line with its line feed. -/
def IsLine (text : String) : Prop :=
  ∃ line, '\n' ∉ line.toList ∧ text = line ++ "\n"

theorem IsLine.newlines {text : String} (h : IsLine text) : newlines text = 1 := by
  rcases h with ⟨line, hline, rfl⟩
  rw [newlines_append, newlines_eq_zero hline]
  rfl

/-- A text that is cut behind its line feeds: only the last piece may be without one. -/
inductive Cut : List String → Prop where
  | nil : Cut []
  | unended {line : String} : OneLine line → Cut [line]
  | ended {line : String} {rest : List String} : IsLine line → Cut rest → Cut (line :: rest)

theorem cut_keepingEndsFrom {line : List Char} (h : '\n' ∉ line) (done : List (List Char))
    (s : List Char) :
    ∃ rest, keepingEndsFrom line done s = done.reverse ++ rest ∧
      Cut (rest.map String.ofList) := by
  induction s generalizing line done with
  | nil =>
      rw [keepingEndsFrom]
      cases line with
      | nil =>
          exact ⟨[], by simp, .nil⟩
      | cons c cs =>
          exact ⟨[(c :: cs).reverse], by simp,
            .unended (.of_chars (by simp) (by simpa [and_comm] using h))⟩
  | cons c s ih =>
      rw [keepingEndsFrom]
      split
      · rename_i hnewline
        rcases ih List.not_mem_nil ((c :: line).reverse :: done) with ⟨rest, hrest, hcut⟩
        refine ⟨(c :: line).reverse :: rest, by simpa using hrest, .ended ?_ hcut⟩
        refine ⟨String.ofList line.reverse, by simpa using h, ?_⟩
        apply String.toList_inj.1
        simp [hnewline]
      · rename_i hne
        exact ih (by simpa [eq_comm] using ⟨hne, h⟩) done

theorem cut_keepingEnds (s : String) : Cut (keepingEnds s) := by
  rcases cut_keepingEndsFrom List.not_mem_nil [] s.toList with ⟨rest, hrest, hcut⟩
  rw [keepingEnds, hrest]
  exact hcut

/-- A line feed in a piece is its last character. -/
theorem Cut.newline_last {pieces : List String} (h : Cut pieces) :
    ∀ piece ∈ pieces, '\n' ∉ piece.toList.dropLast := by
  induction h with
  | nil =>
      simp
  | unended hone =>
      refine List.forall_mem_singleton.2 fun hmem => hone.2 (List.dropLast_subset _ hmem)
  | ended hline _ ih =>
      rcases hline with ⟨line, hline, rfl⟩
      refine List.forall_mem_cons.2 ⟨?_, ih⟩
      simpa using hline

/-- In two texts put together a line feed at the end stands in the second one. -/
theorem newline_last_append {text more : String} (hmore : more ≠ "")
    (h : '\n' ∉ (text ++ more).toList.dropLast) :
    '\n' ∉ text.toList ∧ '\n' ∉ more.toList.dropLast := by
  have hne : more.toList ≠ [] := fun hnil => hmore (String.toList_eq_nil_iff.1 hnil)
  rw [String.toList_append, List.dropLast_append_of_ne_nil hne, List.mem_append, not_or] at h
  exact h

end Text

/-! ## Line feeds in the spans of a line -/

theorem Token.Spelled.ne_empty {token : Token} {span : String} (h : token.Spelled span) :
    span ≠ "" := by
  cases h with
  | text hne =>
      exact hne
  | command _ =>
      simp

namespace Line

variable {tokens : List Token} {spans : List String}

/-- The spans of tokens are not empty together. -/
theorem join_spans_ne_empty (h : List.Forall₂ Token.Spelled tokens spans) (hne : tokens ≠ []) :
    String.join spans ≠ "" := by
  cases h with
  | nil =>
      exact absurd rfl hne
  | cons hfirst _ =>
      exact Text.join_cons_ne_empty hfirst.ne_empty _

/-- The indentation of a piece with a command in it holds no line feed. -/
theorem newline_free_indentation (h : List.Forall₂ Token.Spelled tokens spans)
    (hlast : '\n' ∉ (String.join spans).toList.dropLast)
    (hcommand : ∃ token ∈ tokens, token.isCommand = true) :
    '\n' ∉ (indentation tokens).toList := by
  cases h with
  | nil =>
      simp [indentation]
  | @cons token span rest spans hfirst hrest =>
      cases hfirst with
      | command _ =>
          simp [indentation]
      | text hne =>
          -- the command stands behind the text
          have hbehind : rest ≠ [] := by
            rintro rfl
            rcases hcommand with ⟨other, hmem, hother⟩
            rw [List.mem_singleton.1 hmem] at hother
            cases hother
          rw [String.join_cons] at hlast
          have hparts := Text.newline_last_append (join_spans_ne_empty hrest hbehind) hlast
          dsimp only [indentation]
          split
          · exact hparts.1
          · simp

end Line

/-! ## What commands turn into -/

namespace Expansion

variable {expansion : Expansion}

/-- With identifiers that stay on their line, what takes the place of a command does. -/
theorem OneLine.resolved (h : expansion.OneLine) {ident : String → String}
    (hident : ∀ name, Body.IsWord name → Text.OneLine (ident name)) :
    Text.OneLine (expansion.resolved ident) := by
  have hrename :
      ∀ token : Token, token.OneLine →
        ∃ t, token.rename ident = .literal t ∧ Text.OneLine t := by
    intro token htoken
    cases htoken with
    | text ht =>
        exact ⟨_, rfl, ht⟩
    | lookUp hname =>
        exact ⟨_, rfl, hident _ hname⟩
  have hrest :
      ∀ tokens : List Token, (∀ token ∈ tokens, token.OneLine) →
        '\n' ∉ (Line.text (tokens.map (Token.rename ident))).toList := by
    intro tokens htokens
    induction tokens with
    | nil =>
        simp
    | cons token tokens ih =>
        rcases List.forall_mem_cons.1 htokens with ⟨hfirst, htokens⟩
        rcases hrename token hfirst with ⟨t, ht, hone⟩
        rw [List.map_cons, ht, Line.text_literal_cons]
        exact (hone.append_left (ih htokens)).2
  rcases h.result with ⟨hne, htokens⟩
  unfold Expansion.resolved
  cases hresult : expansion.result with
  | nil =>
      exact absurd hresult hne
  | cons token tokens =>
      rw [hresult] at htokens
      rcases List.forall_mem_cons.1 htokens with ⟨hfirst, htokens⟩
      rcases hrename token hfirst with ⟨t, ht, hone⟩
      rw [List.map_cons, ht, Line.text_literal_cons]
      exact hone.append_left (hrest tokens htokens)

/-- Appended lists have words as names, and their elements stay on their line. -/
theorem OneLine.of_mem_lists (h : expansion.OneLine) :
    ∀ list ∈ expansion.lists, Body.IsWord list.name ∧
      ∀ element ∈ list.elements, element.OneLine := by
  -- A list is one of a part, or the one that the collection itself is written as.
  have hcollection :
      ∀ (parts : List Expansion) (writing : Writing), (∀ part ∈ parts, part.OneLine) →
        writing.OneLine →
        (∀ part ∈ parts, ∀ list ∈ part.lists, Body.IsWord list.name ∧
          ∀ element ∈ list.elements, element.OneLine) →
        ∀ list ∈ parts.flatMap Expansion.lists ++ writing.lists parts,
          Body.IsWord list.name ∧ ∀ element ∈ list.elements, element.OneLine := by
    intro parts writing hparts hwriting ih list hlist
    rcases List.mem_append.1 hlist with hlist | hlist
    · rcases List.mem_flatMap.1 hlist with ⟨part, hpart, hlist⟩
      exact ih part hpart list hlist
    · cases writing with
      | literal _ _ =>
          cases hlist
      | appended name =>
          rw [List.mem_singleton.1 hlist]
          exact ⟨hwriting, hparts⟩
  induction h with
  | text _ =>
      simp [Expansion.lists]
  | var _ _ ih =>
      intro list hlist
      simp only [Expansion.lists, rowLists_eq_flatMap, List.mem_flatMap] at hlist
      rcases hlist with ⟨part, hpart, hlist⟩
      exact ih part hpart list hlist
  | get _ =>
      simp [Expansion.lists]
  | collection hparts hwriting ih =>
      simpa only [Expansion.lists, rowLists_eq_flatMap] using hcollection _ _ hparts hwriting ih
  | build _ hparts hwriting ihsize ih =>
      intro list hlist
      simp only [Expansion.lists, rowLists_eq_flatMap, List.append_assoc] at hlist
      rcases List.mem_append.1 hlist with hlist | hlist
      · exact ihsize list hlist
      · exact hcollection _ _ hparts hwriting ih list hlist
  | rand _ _ _ ihlower ihupper =>
      intro list hlist
      rcases List.mem_append.1 hlist with hlist | hlist
      · exact ihlower list hlist
      · exact ihupper list hlist

end Expansion

/-- The lists of a line belong to its commands: their names are words, and their elements stay on
their line. -/
theorem ExpandedLine.of_mem_lists {line : ExpandedLine}
    (hshape : List.Forall₂ Expansion.IsOf line.source.tokens line.row)
    (hone : List.Forall₂ (fun token expansion => token.isCommand = true → expansion.OneLine)
      line.source.tokens line.row)
    {list : AppendedList} (hlist : list ∈ line.lists) :
    (Body.IsWord list.name ∧ ∀ element ∈ list.elements, element.OneLine) ∧
      ∃ token ∈ line.source.tokens, token.isCommand = true := by
  unfold lists at hlist
  generalize line.source.tokens = tokens at hshape hone ⊢
  generalize line.row = row at hshape hone hlist
  induction hshape with
  | nil =>
      cases hlist
  | @cons token _ _ _ hfirst hrest ih =>
      cases hone with
      | cons hown hone =>
          rw [List.flatMap_cons] at hlist
          rcases List.mem_append.1 hlist with hlist | hlist
          · have hcommand : token.isCommand = true := by
              cases token with
              | literal _ =>
                  cases hfirst
                  cases hlist
              | command _ =>
                  rfl
            exact ⟨(hown hcommand).of_mem_lists list hlist, token, List.mem_cons_self, hcommand⟩
          · rcases ih hone hlist with ⟨hlist, other, hother, hcommand⟩
            exact ⟨hlist, other, List.mem_cons_of_mem _ hother, hcommand⟩

/-! ## Line feeds of a named line -/

/-- What stands in a line for a span of its source: text as it is, and for a command a text that
stays on its line. -/
inductive Place : String → String → Prop where
  | text {span : String} :
      span ≠ "" →
      Place span span
  | command {body place : String} :
      Text.OneLine place →
      Place ("~[" ++ body ++ "]~") place

namespace Place

end Place

/-- What was drawn for the commands of a line stays on the line. -/
structure NamedLine.OneLine (named : NamedLine) : Prop where
  identifiers : ∀ identifier ∈ named.identifiers, Text.OneLine identifier
  row : List.Forall₂ (fun token expansion => token.isCommand = true → expansion.OneLine)
    named.line.source.tokens named.line.row

namespace NamedLine

variable {named : NamedLine} {source : String}

/-- Where the names are words, the identifiers stay on the line. -/
theorem Issued.oneLine (h : named.Issued)
    (hwords : ∀ list ∈ named.line.lists, Body.IsWord list.name) :
    ∀ identifier ∈ named.identifiers, Text.OneLine identifier := by
  intro identifier hidentifier
  rcases exists_partner h.flip identifier hidentifier with ⟨list, hlist, hdrawn⟩
  exact hdrawn.oneLine (hwords list hlist).oneLine (by simp)

theorem OneLine.identifierOf (h : named.OneLine) (name : String) (hname : Body.IsWord name) :
    Text.OneLine (named.identifierOf name) := by
  unfold NamedLine.identifierOf
  cases hlatest : Use.latest? name (Use.binds named.naming) with
  | none =>
      exact hname.oneLine
  | some identifier =>
      have hmem := Use.mem_of_latest?_binds hlatest
      exact h.identifiers identifier (List.of_mem_zip hmem).2

/-- The lists of a line belong to its commands. -/
theorem OneLine.of_mem_lists (h : named.OneLine) (hkeeps : named.Keeps source)
    {list : AppendedList} (hlist : list ∈ named.line.lists) :
    (Body.IsWord list.name ∧ ∀ element ∈ list.elements, element.OneLine) ∧
      ∃ token ∈ named.line.source.tokens, token.isCommand = true := by
  rcases hkeeps with ⟨spans, -, -, hshape, -⟩
  exact ExpandedLine.of_mem_lists hshape h.row hlist

/-- A line with lists is indented without a line feed. -/
theorem OneLine.newline_free_indent (h : named.OneLine) (hkeeps : named.Keeps source)
    (hlast : '\n' ∉ source.toList.dropLast) {list : AppendedList}
    (hlist : list ∈ named.line.lists) : '\n' ∉ named.line.indent.toList := by
  have hcommand := (h.of_mem_lists hkeeps hlist).2
  rcases hkeeps with ⟨spans, rfl, hspans, -, -⟩
  exact Line.newline_free_indentation hspans hlast hcommand

/-- What stands for the spans of a line. -/
theorem OneLine.exists_places (h : named.OneLine) (hkeeps : named.Keeps source) :
    ∃ spans places, source = String.join spans ∧ named.body = String.join places ∧
      List.Forall₂ Place spans places := by
  rcases hkeeps with ⟨spans, hsource, hspans, hshape, hbody⟩
  refine ⟨spans, _, hsource, hbody, ?_⟩
  have hrow := h.row
  generalize named.line.source.tokens = tokens at hspans hshape hrow
  generalize named.line.row = row at hshape hrow
  clear hbody hsource
  induction hshape generalizing spans with
  | nil =>
      cases hspans
      exact .nil
  | @cons token expansion _ _ hfirst _ ih =>
      cases hspans with
      | @cons _ span _ spans hspan hspans =>
          cases hrow with
          | cons hone hrow =>
              refine .cons ?_ (ih spans hspans hrow)
              cases hspan with
              | text hne =>
                  cases hfirst
                  exact .text hne
              | command _ =>
                  rw [Expansion.inPlace_of_command hfirst]
                  exact .command ((hone rfl).resolved h.identifierOf)

/-- The lines before have a line feed at their end. -/
theorem OneLine.isLine_before (h : named.OneLine) (hkeeps : named.Keeps source)
    (hlast : '\n' ∉ source.toList.dropLast) : ∀ line ∈ named.before, Text.IsLine line := by
  intro line hline
  rcases List.mem_map.1 hline with ⟨identifier, hidentifier, rfl⟩
  -- there are as many lists as identifiers, so there is one
  have hlists : named.line.lists ≠ [] := by
    intro hnil
    have hlength := named.length_eq
    rw [hnil] at hlength
    rw [List.length_eq_zero_iff.1 hlength] at hidentifier
    cases hidentifier
  rcases List.exists_mem_of_ne_nil _ hlists with ⟨list, hlist⟩
  have hindent := h.newline_free_indent hkeeps hlast hlist
  have hname := (h.identifiers identifier hidentifier).2
  refine ⟨named.line.indent ++ identifier ++ " = []", ?_, ?_⟩
  · simp [hindent, hname]
  · simp [String.append_assoc]

/-- The lines after have a line feed at their end. -/
theorem OneLine.isLine_after (h : named.OneLine) (hkeeps : named.Keeps source)
    (hlast : '\n' ∉ source.toList.dropLast) : ∀ line ∈ named.after, Text.IsLine line := by
  intro line hline
  rcases List.mem_flatMap.1 hline with ⟨list, hlist, hline⟩
  rcases List.mem_map.1 hline with ⟨element, helement, rfl⟩
  rcases (h.of_mem_lists hkeeps hlist).1 with ⟨hword, helements⟩
  have hindent := h.newline_free_indent hkeeps hlast hlist
  have hname := (h.identifierOf _ hword).2
  have htext := ((helements element helement).resolved h.identifierOf).2
  refine ⟨named.line.indent ++ named.identifierOf list.name ++ ".append(" ++
    element.resolved named.identifierOf ++ ")", ?_, ?_⟩
  · simp [hindent, hname, htext]
  · simp [String.append_assoc]

end NamedLine

/-! ## The output of a compilation -/

section Compilations

variable {G : Type} [WordSource G]

/-- In a pass over lines that were read, commands turn into what stays on its line. -/
theorem ExpandsLines.oneLine {lines : List PendingLine} {s s' : Session G}
    {expanded : List ExpandedLine} (h : ExpandsLines lines s expanded s')
    (hwritten : ∀ line ∈ lines, ∀ token ∈ line.tokens, token.isCommand = true → token.Written)
    (hs : s.OneLine) :
    ∀ line ∈ expanded,
      List.Forall₂ (fun token expansion => token.isCommand = true → expansion.OneLine)
        line.source.tokens line.row := by
  induction h with
  | nil s =>
      simp
  | cons hrow _ ih =>
      rcases List.forall_mem_cons.1 hwritten with ⟨hline, hlines⟩
      rcases hrow.oneLine hline hs with ⟨hone, hs₁⟩
      refine List.forall_mem_cons.2 ⟨?_, ih hlines hs₁⟩
      have hboth := (List.forall₂_and_left _ _).2 ⟨hline, hone⟩
      exact hboth.imp fun token expansion hpair hcommand => hpair.2 (hpair.1 hcommand)

namespace Document

variable {file : String} {texts : List String} {doc : Document} {options : Options}
  {dice : Dice G} {text : String}

/-- The lines of a template that was read are kept, what is drawn for them stays on its line, and
their lists get identifiers that may come up for them. -/
theorem exists_issued_layout (hread : Document.ofLines file texts = .ok doc)
    (h : (doc.compile options dice).outcome = .ok text) :
    ∃ (named : List NamedLine) (s : Session G),
      ExpandsLines (PendingLine.ofDocument doc) (options.session dice) (named.map NamedLine.line) s ∧
      List.Forall₂ (fun source line => line.Keeps source ∧ line.OneLine) texts named ∧
      (∀ line ∈ named, line.Issued) ∧
      text = String.join (named.map NamedLine.text) := by
  rcases exists_first_pass h with ⟨expanded, s, hfirst⟩
  have hstart : (options.session dice).OneLine := by
    intro name value hvalue
    simp [Options.session, Session.lookup?] at hvalue
  have hwritten :
      ∀ line ∈ PendingLine.ofDocument doc, ∀ token ∈ line.tokens,
        token.isCommand = true → token.Written := by
    intro line hline
    refine written_of_ofLines hread line.tokens ?_
    rw [← PendingLine.map_tokens_ofDocument]
    exact List.mem_map_of_mem hline
  have hone := hfirst.oneLine hwritten hstart
  have hshape := hfirst.isOf
  have hwords : ∀ line ∈ expanded, ∀ list ∈ line.lists, Body.IsWord list.name := by
    intro line hline list hlist
    exact (ExpandedLine.of_mem_lists (hshape line hline) (hone line hline) hlist).1.1
  rcases exists_layout h hfirst with ⟨named, rfl, htext, hissued⟩
  refine ⟨named, s, hfirst, ?_, hissued, htext⟩
  -- the texts and the named lines belong together through the lines of the document
  have hsources :
      named.map (fun line => line.line.source.tokens) = doc.lines := by
    have hsource := congrArg (List.map PendingLine.tokens) hfirst.map_source
    rw [PendingLine.map_tokens_ofDocument, List.map_map, List.map_map] at hsource
    exact hsource
  have hparsed := (ofLines_eq_ok_iff.1 hread).2
  rw [← hsources, List.forall₂_map_right_iff] at hparsed
  have hmem :
      ∀ line ∈ named, line.OneLine ∧
        List.Forall₂ Expansion.IsOf line.line.source.tokens line.line.row := by
    intro line hline
    have hlineMem := List.mem_map_of_mem (f := NamedLine.line) hline
    exact ⟨⟨(hissued line hline).oneLine (hwords _ hlineMem), hone _ hlineMem⟩, hshape _ hlineMem⟩
  have hboth := (List.forall₂_and_left _ _).2 ⟨hmem, hparsed.flip⟩
  exact (hboth.imp fun line source hline =>
    ⟨NamedLine.keeps hline.2 hline.1.2, hline.1.1⟩).flip

theorem exists_kept_layout (hread : Document.ofLines file texts = .ok doc)
    (h : (doc.compile options dice).outcome = .ok text) :
    ∃ (named : List NamedLine) (s : Session G),
      ExpandsLines (PendingLine.ofDocument doc) (options.session dice) (named.map NamedLine.line) s ∧
      List.Forall₂ (fun source line => line.Keeps source ∧ line.OneLine) texts named ∧
      text = String.join (named.map NamedLine.text) := by
  rcases exists_issued_layout hread h with ⟨named, s, hfirst, hkept, -, htext⟩
  exact ⟨named, s, hfirst, hkept, htext⟩

end Document

end Compilations

/-! ### A list in a list -/

namespace Document

def nestedSource : String := "~[collection 1 \x7bcollection 2\x7d]~\n"

theorem ofLines_nestedSource :
    ofLines "nested" (Text.keepingEnds nestedSource) = .ok nested := by
  with_unfolding_all rfl

end Document

end TemplateVariants
