import TemplateVariants.Proofs.Grammar.Marks
import TemplateVariants.Proofs.Layout.Standing

/-!
# Opening marks of the output

Words and literals are written as they are, so an output may hold an opening mark. It stands in one
of the texts that the trees bring into the lines, or where two places of a template line meet
(`NamedLine.marked_join_iff`). Nothing else makes one: not the brackets and separators of a list, not
the lines around a line, and not the end of a line with the start of the next.
-/

namespace TemplateVariants

open ListForm Randomness

/-! ## Marks of texts -/

namespace Text

/-- An opening mark stands in the text. -/
def Marked (text : String) : Prop :=
  Line.HasMark '~' '[' text.toList

instance (text : String) : Decidable (Marked text) :=
  inferInstanceAs (Decidable (['~', '['] <:+: text.toList))

/-- An opening mark stands where the two texts meet. -/
def Meet (left right : String) : Prop :=
  '~' ∈ left.toList.getLast? ∧ '[' ∈ right.toList.head?

/-- Neither character of an opening mark stands in the text. -/
def MarkFree (text : String) : Prop :=
  '~' ∉ text.toList ∧ '[' ∉ text.toList

instance (text : String) : Decidable (MarkFree text) :=
  inferInstanceAs (Decidable (_ ∧ _))

variable {left right : String}

theorem MarkFree.append (hleft : MarkFree left) (hright : MarkFree right) :
    MarkFree (left ++ right) := by
  simp [MarkFree, hleft.1, hleft.2, hright.1, hright.2]

/-- What begins with such a text does not begin with the second character of a mark. -/
theorem MarkFree.head_append (h : MarkFree left) (hne : left ≠ "") (right : String) :
    '[' ∉ (left ++ right).toList.head? := by
  have hchars : left.toList ≠ [] := fun hnil => hne (String.toList_eq_nil_iff.1 hnil)
  rw [String.toList_append, List.head?_append_of_ne_nil _ hchars]
  exact fun hhead => h.2 (List.mem_of_head? hhead)

theorem not_marked_empty : ¬ Marked "" :=
  Line.not_hasMark_nil

theorem marked_append : Marked (left ++ right) ↔ Marked left ∨ Marked right ∨ Meet left right := by
  rw [Marked, String.toList_append]
  exact Line.hasMark_append

theorem not_marked_of_not_mem (h : '~' ∉ left.toList) : ¬ Marked left := by
  intro hmark
  exact h (hmark.subset (by simp))

/-- Behind a text without the first character of the mark, the marks are those of the rest. -/
theorem marked_append_of_not_mem (h : '~' ∉ left.toList) (right : String) :
    Marked (left ++ right) ↔ Marked right := by
  have hmeet : ¬ Meet left right := fun hmeet => h (List.mem_of_getLast? hmeet.1)
  rw [marked_append]
  simp [not_marked_of_not_mem h, hmeet]

/-- A text that does not begin with the second character of the mark adds its own marks only. -/
theorem marked_append_of_head (left : String) (h : '[' ∉ right.toList.head?) :
    Marked (left ++ right) ↔ Marked left ∨ Marked right := by
  have hmeet : ¬ Meet left right := fun hmeet => h hmeet.2
  rw [marked_append]
  simp [hmeet]

/-- At the end of a line no mark is open. -/
theorem EndsLine.marked_append (h : EndsLine left) (right : String) :
    Marked (left ++ right) ↔ Marked left ∨ Marked right := by
  have hmeet : ¬ Meet left right := by
    rintro ⟨hlast, -⟩
    exact absurd (h _ hlast) (by decide)
  rw [Text.marked_append]
  simp [hmeet]

/-- The texts of lines put together have the marks of the lines. -/
theorem marked_join_lines {lines : List String} (h : ∀ line ∈ lines.dropLast, EndsLine line) :
    Marked (String.join lines) ↔ ∃ line ∈ lines, Marked line := by
  induction lines with
  | nil =>
      simp [not_marked_empty]
  | cons first lines ih =>
      cases lines with
      | nil =>
          simp
      | cons second lines =>
          rw [List.dropLast_cons_cons] at h
          rcases List.forall_mem_cons.1 h with ⟨hfirst, hrest⟩
          have hrest := ih hrest
          rw [String.join_cons, hfirst.marked_append, hrest]
          exact (List.exists_mem_cons_iff Marked first (second :: lines)).symm

/-- Texts put together have their own marks, and one wherever two neighbours meet in one. -/
theorem marked_join {texts : List String} (h : ∀ text ∈ texts, text ≠ "") :
    Marked (String.join texts) ↔
      (∃ text ∈ texts, Marked text) ∨
        ∃ left right, [left, right] <:+: texts ∧ Meet left right := by
  induction texts with
  | nil =>
      simp [not_marked_empty]
  | cons first texts ih =>
      rcases List.forall_mem_cons.1 h with ⟨-, hrest⟩
      have hneighbours :
          (∃ left right, [left, right] <:+: first :: texts ∧ Meet left right) ↔
            Meet first (String.join texts) ∨
              ∃ left right, [left, right] <:+: texts ∧ Meet left right := by
        cases texts with
        | nil =>
            simp [Meet, List.infix_cons_iff]
        | cons second texts =>
            -- the second text is not empty, so what is joined begins with it
            have hsecond : second.toList ≠ [] := by
              intro hnil
              exact hrest second List.mem_cons_self (String.toList_eq_nil_iff.1 hnil)
            have hmeet : Meet first (String.join (second :: texts)) ↔ Meet first second := by
              rw [Meet, Meet, String.join_cons, String.toList_append,
                List.head?_append_of_ne_nil _ hsecond]
            rw [hmeet]
            constructor
            · rintro ⟨left, right, hinfix, hboth⟩
              rcases List.infix_cons_iff.1 hinfix with hprefix | hinfix
              · simp only [List.cons_prefix_cons] at hprefix
                rcases hprefix with ⟨rfl, rfl, -⟩
                exact .inl hboth
              · exact .inr ⟨left, right, hinfix, hboth⟩
            · rintro (hboth | ⟨left, right, hinfix, hboth⟩)
              · exact ⟨first, second, ⟨[], texts, rfl⟩, hboth⟩
              · exact ⟨left, right, List.infix_cons hinfix, hboth⟩
      rw [String.join_cons, marked_append, ih hrest, hneighbours, List.exists_mem_cons_iff]
      simp only [or_assoc, or_comm, or_left_comm]

end Text

/-- Numbers are written without the characters of a mark. -/
theorem Numeral.IsNumber.markFree {text : String} (h : IsNumber text) : Text.MarkFree text :=
  ⟨h.not_mem (by decide), h.not_mem (by decide)⟩

/-! ## Marks of written lists -/

namespace Line

theorem text_rename_append (ident : String → String) (line more : Line) :
    text ((line ++ more).map (Token.rename ident)) =
      text (line.map (Token.rename ident)) ++ text (more.map (Token.rename ident)) := by
  rw [List.map_append, text_append]

theorem text_rename_literal_cons (ident : String → String) (t : String) (line : Line) :
    text ((.literal t :: line).map (Token.rename ident)) =
      t ++ text (line.map (Token.rename ident)) := by
  rw [List.map_cons, Token.rename, text_literal_cons]

end Line

namespace ListForm

/-- A separator closes no mark and opens none. -/
theorem separator_of_drawn {spacing : String} (h : spacing = "" ∨ spacing = " ") (isBreak : Bool) :
    '~' ∉ (separator spacing isBreak).toList ∧
      ∀ more : String, '[' ∉ (separator spacing isBreak ++ more).toList.head? := by
  rcases h with rfl | rfl
  · cases isBreak with
    | false =>
        exact ⟨by decide, fun more => by simp [separator]⟩
    | true =>
        exact ⟨by decide, fun more => by simp [separator]⟩
  · cases isBreak with
    | false =>
        exact ⟨by decide, fun more => by simp [separator]⟩
    | true =>
        exact ⟨by decide, fun more => by simp [separator]⟩

/-- What stands behind the first element of a literal: the others, each after its separator, and the
closing bracket. -/
def behind (separators : List String) (rest : List Line) : Line :=
  ((separators.zip rest).flatMap fun (mark, element) => .literal mark :: element) ++ [.literal "]"]

theorem literal_cons (separators : List String) (first : Line) (rest : List Line) :
    literal separators (first :: rest) = .literal "[" :: (first ++ behind separators rest) := by
  simp [literal, behind]

theorem behind_cons (mark : String) (separators : List String) (element : Line)
    (rest : List Line) :
    behind (mark :: separators) (element :: rest) =
      .literal mark :: (element ++ behind separators rest) := by
  simp [behind]

section

variable {ident : String → String} {spacing : String} {breaks : List Bool}

/-- Behind the first element stand the marks of the others. The text does not complete a mark that
was begun before it. -/
theorem marked_behind {rest : List Line} (hspacing : spacing = "" ∨ spacing = " ")
    (hlength : breaks.length = rest.length) :
    '[' ∉ (Line.text ((behind (breaks.map (separator spacing)) rest).map
        (Token.rename ident))).toList.head? ∧
      (Text.Marked (Line.text ((behind (breaks.map (separator spacing)) rest).map
          (Token.rename ident))) ↔
        ∃ element ∈ rest, Text.Marked (Line.text (element.map (Token.rename ident)))) := by
  induction breaks generalizing rest with
  | nil =>
      have hrest : rest = [] := List.eq_nil_of_length_eq_zero hlength.symm
      have hclose : ¬ Text.Marked "]" := Text.not_marked_of_not_mem (by decide)
      subst hrest
      exact ⟨by simp [behind, Token.rename], by simpa [behind, Token.rename] using hclose⟩
  | cons isBreak breaks ih =>
      cases rest with
      | nil =>
          cases hlength
      | cons element rest =>
          rcases ih (by simpa using hlength) with ⟨hhead, hmarks⟩
          rcases separator_of_drawn hspacing isBreak with ⟨hseparator, hopens⟩
          rw [List.map_cons, behind_cons, Line.text_rename_literal_cons, Line.text_rename_append]
          refine ⟨hopens _, ?_⟩
          rw [Text.marked_append_of_not_mem hseparator, Text.marked_append_of_head _ hhead, hmarks,
            List.exists_mem_cons_iff]

/-- The marks of a literal are those of its elements. -/
theorem marked_literal {elements : List Line} (hspacing : spacing = "" ∨ spacing = " ")
    (hlength : breaks.length = elements.length - 1) :
    Text.Marked (Line.text ((literal (breaks.map (separator spacing)) elements).map
        (Token.rename ident))) ↔
      ∃ element ∈ elements, Text.Marked (Line.text (element.map (Token.rename ident))) := by
  cases elements with
  | nil =>
      have hbrackets : ¬ Text.Marked "[]" := Text.not_marked_of_not_mem (by decide)
      simpa [literal, Token.rename] using hbrackets
  | cons first rest =>
      rcases @marked_behind ident spacing breaks rest hspacing (by simpa using hlength) with
        ⟨hhead, hmarks⟩
      rw [literal_cons, Line.text_rename_literal_cons, Line.text_rename_append,
        Text.marked_append_of_not_mem (by decide), Text.marked_append_of_head _ hhead, hmarks,
        List.exists_mem_cons_iff]

end

end ListForm

/-! ## Marks of trees -/

namespace Expansion

mutual

/-- The texts that the tree brings into the output, but for numbers: those in place of the token, and
those in the lists that are filled after the line. -/
def texts : Expansion → List String
  | .text t => [t]
  | .var _ _ identifier => [identifier]
  | .get _ value => value.text?.toList
  | .collection elements _ => rowTexts elements
  | .build _ slots _ => rowTexts slots
  | .rand _ _ _ _ => []

def rowTexts : List Expansion → List String
  | [] => []
  | expansion :: row => expansion.texts ++ rowTexts row

end

@[simp]
theorem rowTexts_eq_flatMap (row : List Expansion) : rowTexts row = row.flatMap texts := by
  induction row with
  | nil =>
      rfl
  | cons expansion row ih =>
      simp [rowTexts, ih]

/-- Each list of the tree is written in a way that may be drawn for it, and each number as one. -/
inductive Drawn : Expansion → Prop where
  | intro {expansion : Expansion} :
      (∀ part ∈ expansion.parts, Drawn part) →
      (∀ writing, expansion.writing? = some writing →
        Writing.Drawn expansion.elements.length writing) →
      (∀ kind lower upper value, expansion = .rand kind lower upper value →
        Numeral.IsNumber value) →
      Drawn expansion

variable {expansion : Expansion} {ident : String → String}

/-- A mark in the line or in an element of one of the lists. -/
def Shows (ident : String → String) (expansion : Expansion) : Prop :=
  Text.Marked (expansion.resolved ident) ∨
    ∃ list ∈ expansion.lists, ∃ element ∈ list.elements, Text.Marked (element.resolved ident)

/-- Rows show the marks that their trees show. -/
theorem shows_row {row : List Expansion} :
    ((∃ part ∈ row, Text.Marked (part.resolved ident)) ∨
        ∃ list ∈ row.flatMap lists, ∃ element ∈ list.elements,
          Text.Marked (element.resolved ident)) ↔
      ∃ part ∈ row, part.Shows ident := by
  simp only [Shows, List.mem_flatMap]
  constructor
  · rintro (⟨part, hpart, hmark⟩ | ⟨list, ⟨part, hpart, hlist⟩, hmark⟩)
    · exact ⟨part, hpart, .inl hmark⟩
    · exact ⟨part, hpart, .inr ⟨list, hlist, hmark⟩⟩
  · rintro ⟨part, hpart, hmark | ⟨list, hlist, hmark⟩⟩
    · exact .inl ⟨part, hpart, hmark⟩
    · exact .inr ⟨list, ⟨part, hpart, hlist⟩, hmark⟩

/-- A list in place shows its elements there, and an appended one shows them in its own lines. -/
theorem shows_list {parts : List Expansion} {writing : Writing}
    (hwriting : Writing.Drawn parts.length writing)
    (hident : ∀ list ∈ writing.lists parts, '~' ∉ (ident list.name).toList) :
    (Text.Marked (Line.text ((writing.inline (parts.map result)).map (Token.rename ident))) ∨
        ∃ list ∈ parts.flatMap lists ++ writing.lists parts, ∃ element ∈ list.elements,
          Text.Marked (element.resolved ident)) ↔
      ∃ part ∈ parts, part.Shows ident := by
  rw [← shows_row]
  cases hwriting with
  | @literal spacing breaks hspacing hbreaks =>
      have hplace :
          Text.Marked (Line.text (((Writing.literal spacing breaks).inline
              (parts.map result)).map (Token.rename ident))) ↔
            ∃ part ∈ parts, Text.Marked (part.resolved ident) := by
        refine Iff.trans (marked_literal hspacing (by simpa using hbreaks)) ?_
        simp [resolved]
      rw [hplace, Writing.lists, List.append_nil]
  | @appended name _ _ =>
      have hown : '~' ∉ (ident name).toList := hident ⟨name, parts⟩ (List.mem_singleton_self _)
      have hplace :
          ¬ Text.Marked (Line.text (((Writing.appended name).inline
              (parts.map result)).map (Token.rename ident))) := by
        simpa [Writing.inline, Token.rename] using Text.not_marked_of_not_mem hown
      rw [or_iff_right hplace, or_comm, Writing.lists]
      simp only [List.mem_append, List.mem_singleton, or_and_right, exists_or, exists_eq_left]

/-- A row shows the marks of the texts of its trees, if each tree shows those of its own. -/
theorem exists_shows_iff {row : List Expansion}
    (h : ∀ part ∈ row, part.Shows ident ↔ ∃ text ∈ part.texts, Text.Marked text) :
    (∃ part ∈ row, part.Shows ident) ↔ ∃ text ∈ row.flatMap texts, Text.Marked text := by
  simp only [List.mem_flatMap]
  constructor
  · rintro ⟨part, hpart, hshows⟩
    rcases (h part hpart).1 hshows with ⟨text, htext, hmark⟩
    exact ⟨text, ⟨part, hpart, htext⟩, hmark⟩
  · rintro ⟨text, ⟨part, hpart, htext⟩, hmark⟩
    exact ⟨part, hpart, (h part hpart).2 ⟨text, htext, hmark⟩⟩

/-- A tree shows the marks of its texts and no others, if the identifiers of its lists hold none. -/
theorem Drawn.shows_iff (h : expansion.Drawn) (hsound : expansion.Sound)
    (hident : ∀ list ∈ expansion.lists, '~' ∉ (ident list.name).toList) :
    expansion.Shows ident ↔ ∃ text ∈ expansion.texts, Text.Marked text := by
  -- the induction is on soundness, which says where the lists of arguments are dropped
  induction hsound with
  | text t =>
      simp [Shows, texts, resolved, Token.rename]
  | @var _ _ candidates _ hnone _ =>
      have hlists : candidates.flatMap lists = [] := List.flatMap_eq_nil_iff.2 hnone
      simp [Shows, lists, hlists, texts, resolved, result, Token.rename]
  | get name t =>
      simp [Shows, lists, texts, resolved, result, Token.rename, Token.text?]
  | collection _ _ ih =>
      cases h with
      | intro hdrawn hwriting _ =>
          simp only [lists, rowLists_eq_flatMap] at hident
          rcases List.forall_mem_append.1 hident with ⟨hparts, hown⟩
          have hrow := exists_shows_iff fun part hpart => ih part hpart (hdrawn part hpart)
            fun list hlist => hparts list (List.mem_flatMap.2 ⟨part, hpart, hlist⟩)
          rw [Shows, lists, texts, rowLists_eq_flatMap, rowTexts_eq_flatMap, resolved, result,
            results_eq_map]
          exact (shows_list (hwriting _ rfl) hown).trans hrow
  | build _ hsize _ _ _ ih =>
      cases h with
      | intro hdrawn hwriting _ =>
          simp only [lists, rowLists_eq_flatMap, hsize, List.nil_append] at hident
          rcases List.forall_mem_append.1 hident with ⟨hparts, hown⟩
          have hslots := (List.forall_mem_cons.1 hdrawn).2
          have hrow := exists_shows_iff fun part hpart => ih part hpart (hslots part hpart)
            fun list hlist => hparts list (List.mem_flatMap.2 ⟨part, hpart, hlist⟩)
          rw [Shows, lists, texts, rowLists_eq_flatMap, rowTexts_eq_flatMap, resolved, result,
            results_eq_map, hsize, List.nil_append]
          exact (shows_list (hwriting _ rfl) hown).trans hrow
  | rand _ hlower _ hupper _ _ =>
      cases h with
      | intro _ _ hnumber =>
          have hvalue := Text.not_marked_of_not_mem (hnumber _ _ _ _ rfl).markFree.1
          simpa [Shows, lists, hlower, hupper, texts, resolved, result, Token.rename] using hvalue

end Expansion

section Runs

variable {G : Type} [WordSource G]

/-- In a run the lists and the numbers of the trees are written as they were drawn. -/
theorem Expands.drawn {tokens : List Token} {s s' : Session G} {row : List Expansion}
    (h : Expands tokens s row s') : ∀ expansion ∈ row, expansion.Drawn := by
  have hdrawn :
      ∀ {count : Nat} {writing : Writing} {s s' : Session G},
        (Compiling.roll (drawWriting count) : Compiling Cause G Writing) s = .ok writing s' →
        ∀ own, some writing = some own → Writing.Drawn count own := by
    intro count writing s s' hroll own hown
    cases hown
    rcases Compiling.roll_eq_ok.1 hroll with ⟨dice, hdraw, -⟩
    exact ((gives_drawWriting _).ok hdraw).1
  have hnone : ∀ (count : Nat) (own : Writing), none = some own → Writing.Drawn count own := by
    intro count own hown
    cases hown
  induction h with
  | nil s =>
      simp
  | literal _ ih =>
      exact List.forall_mem_cons.2 ⟨.intro (by simp [Expansion.parts]) (hnone _) (by simp), ih⟩
  | var _ _ _ _ ihparts ih =>
      exact List.forall_mem_cons.2 ⟨.intro ihparts (hnone _) (by simp), ih⟩
  | get _ _ ih =>
      exact List.forall_mem_cons.2 ⟨.intro (by simp [Expansion.parts]) (hnone _) (by simp), ih⟩
  | collection _ hwriting _ ihparts ih =>
      exact List.forall_mem_cons.2 ⟨.intro ihparts (hdrawn hwriting) (by simp), ih⟩
  | build _ _ _ _ hwriting _ ihsized ihslots ih =>
      have hsized := ihsized _ (List.mem_singleton_self _)
      refine List.forall_mem_cons.2 ⟨.intro ?_ (hdrawn hwriting) (by simp), ih⟩
      exact List.forall_mem_cons.2 ⟨hsized, ihslots⟩
  | rand _ _ _ hvalue _ ihlow ihhigh ih =>
      have hlow := ihlow _ (List.mem_singleton_self _)
      have hnumber := Compiling.isNumber_of_number hvalue
      refine List.forall_mem_cons.2 ⟨.intro ?_ (hnone _) ?_, ih⟩
      · exact List.forall_mem_cons.2 ⟨hlow, ihhigh⟩
      · intro kind lower upper value heq
        cases heq
        exact hnumber

end Runs

/-! ## Identifiers of lists -/

/-- An identifier that comes up for a name without marks has none. -/
theorem Fresh.Drawn.markFree {name drawn : String} (h : Fresh.Drawn name [] drawn)
    (hname : Text.MarkFree name) : Text.MarkFree drawn := by
  cases h with
  | name =>
      exact hname
  | candidate hmem =>
      cases hmem
  | letter n =>
      have hall : ∀ k : Fin 26, Text.MarkFree (Fresh.letter k) := by decide
      have hletter := hall ⟨n % 26, Nat.mod_lt n (by decide)⟩
      simpa [Fresh.letter] using hletter
  | stock hmem =>
      have hall : ∀ stock ∈ Fresh.stockNames, Text.MarkFree stock := by decide
      exact hall drawn hmem
  | numbered n =>
      have hdigits := (Numeral.isNumber_repr n).markFree
      have hline : Text.MarkFree "_" := by decide
      exact (hname.append hline).append hdigits

/-- The synthetic name of a list has no marks. -/
theorem ListForm.Writing.Drawn.markFree {count : Nat} {name : String}
    (h : Writing.Drawn count (.appended name)) : Text.MarkFree name := by
  cases h with
  | appended _ hletters =>
      have htilde : '~' ∉ alphabet := by decide
      have hbracket : '[' ∉ alphabet := by decide
      exact ⟨fun hmem => htilde (hletters _ hmem), fun hmem => hbracket (hletters _ hmem)⟩

namespace Expansion

/-- The names of the lists of a tree have no marks. -/
theorem Drawn.markFree_names {expansion : Expansion} (h : expansion.Drawn) :
    ∀ list ∈ expansion.lists, Text.MarkFree list.name := by
  induction h with
  | intro _ hwriting _ ih =>
      intro list hlist
      rw [lists_eq_parts, List.mem_append, List.mem_flatMap, List.mem_flatMap] at hlist
      rcases hlist with ⟨part, hpart, hlist⟩ | ⟨writing, hsome, hlist⟩
      · exact ih part hpart list hlist
      · -- the list of the tree itself has the name that was drawn
        have hown := hwriting writing (Option.mem_toList.1 hsome)
        cases writing with
        | literal _ _ =>
            cases hlist
        | appended name =>
            rw [List.mem_singleton.1 hlist]
            exact hown.markFree

end Expansion

/-! ## Marks of lines -/

/-- The blanks of an indentation are no marks. -/
theorem ListForm.markFree_indentation (line : Line) : Text.MarkFree (indentation line) := by
  have hblank : ∀ text : String, text.toList.all Text.isBlank = true → Text.MarkFree text := by
    intro text hall
    rw [List.all_eq_true] at hall
    constructor
    · intro hmem
      exact absurd (hall _ hmem) (by decide)
    · intro hmem
      exact absurd (hall _ hmem) (by decide)
  unfold indentation
  split
  · split
    · rename_i hindent
      rw [Bool.and_eq_true] at hindent
      exact hblank _ hindent.2
    · exact ⟨by simp, by simp⟩
  · exact ⟨by simp, by simp⟩

namespace NamedLine

variable {named : NamedLine} {source : String}

/-- A mark stands in one of the texts of the trees, or two neighbours on the line meet in one. -/
def Marked (named : NamedLine) : Prop :=
  (∃ expansion ∈ named.line.row, ∃ text ∈ expansion.texts, Text.Marked text) ∨
    ∃ left right, [left, right] <:+: named.line.row.map (Expansion.resolved named.identifierOf) ∧
      Text.Meet left right

/-- The trees are those of a run, and so are the identifiers of the lists. -/
structure Drawn (named : NamedLine) : Prop where
  sound : ∀ expansion ∈ named.line.row, expansion.Sound
  row : ∀ expansion ∈ named.line.row, expansion.Drawn
  issued : named.Issued

theorem Drawn.markFree_names (h : named.Drawn) :
    ∀ list ∈ named.line.lists, Text.MarkFree list.name := by
  intro list hlist
  rcases List.mem_flatMap.1 hlist with ⟨expansion, hexpansion, hlist⟩
  exact (h.row expansion hexpansion).markFree_names list hlist

theorem Drawn.markFree_identifiers (h : named.Drawn) :
    ∀ identifier ∈ named.identifiers, Text.MarkFree identifier := by
  intro identifier hidentifier
  rcases exists_partner h.issued.flip identifier hidentifier with ⟨list, hlist, hdrawn⟩
  exact hdrawn.markFree (h.markFree_names list hlist)

theorem Drawn.markFree_identifierOf (h : named.Drawn) {list : AppendedList}
    (hlist : list ∈ named.line.lists) : Text.MarkFree (named.identifierOf list.name) := by
  unfold NamedLine.identifierOf
  cases hlatest : Use.latest? list.name (Use.binds named.naming) with
  | none =>
      exact h.markFree_names list hlist
  | some identifier =>
      have hmem := Use.mem_of_latest?_binds hlatest
      exact h.markFree_identifiers identifier (List.of_mem_zip hmem).2

/-- The lines before add no mark. -/
theorem Drawn.not_mem_before (h : named.Drawn) : '~' ∉ (String.join named.before).toList := by
  have hindent := (markFree_indentation named.line.source.tokens).1
  rw [String.toList_join, List.mem_flatMap]
  rintro ⟨line, hline, hmem⟩
  rcases List.mem_map.1 hline with ⟨identifier, hidentifier, rfl⟩
  have hidentifier := (h.markFree_identifiers identifier hidentifier).1
  have hrest : '~' ∉ (" = []\n" : String).toList := by decide
  rw [String.toList_append, String.toList_append, List.mem_append, List.mem_append] at hmem
  rcases hmem with (hmem | hmem) | hmem
  · exact hindent hmem
  · exact hidentifier hmem
  · exact hrest hmem

/-- The lines after have the marks of the elements that they append, and do not begin with the second
character of a mark. -/
theorem Drawn.marked_after (h : named.Drawn) :
    '[' ∉ (String.join named.after).toList.head? ∧
      (Text.Marked (String.join named.after) ↔
        ∃ list ∈ named.line.lists, ∃ element ∈ list.elements,
          Text.Marked (element.resolved named.identifierOf)) := by
  have hstart :
      ∀ list ∈ named.line.lists,
        Text.MarkFree (named.line.indent ++ named.identifierOf list.name ++ ".append(") := by
    intro list hlist
    have hindent := markFree_indentation named.line.source.tokens
    have happend : Text.MarkFree ".append(" := by decide
    exact (hindent.append (h.markFree_identifierOf hlist)).append happend
  constructor
  · cases hafter : named.after with
    | nil =>
        simp
    | cons line lines =>
        have hline : line ∈ named.after := by
          rw [hafter]
          exact List.mem_cons_self
        rcases List.mem_flatMap.1 hline with ⟨list, hlist, hline⟩
        rcases List.mem_map.1 hline with ⟨element, -, rfl⟩
        rw [String.join_cons, String.append_assoc, String.append_assoc]
        exact (hstart list hlist).head_append (by simp) _
  · -- each of the lines ends with a line feed, so the marks are those of the single lines
    have hends : ∀ line ∈ named.after, Text.EndsLine line := by
      intro line hline
      rcases List.mem_flatMap.1 hline with ⟨list, -, hline⟩
      rcases List.mem_map.1 hline with ⟨element, -, rfl⟩
      rw [Text.endsLine_append_of_ne _ (by decide)]
      simp [Text.EndsLine]
    have hmarks :
        ∀ list ∈ named.line.lists, ∀ element : Expansion,
          Text.Marked (named.line.indent ++ named.identifierOf list.name ++ ".append(" ++
              element.resolved named.identifierOf ++ ")\n") ↔
            Text.Marked (element.resolved named.identifierOf) := by
      intro list hlist element
      rw [String.append_assoc, Text.marked_append_of_not_mem (hstart list hlist).1,
        Text.marked_append_of_head _ (by simp)]
      exact or_iff_left (Text.not_marked_of_not_mem (by decide))
    rw [Text.marked_join_lines fun line hline => hends line (List.dropLast_subset _ hline)]
    constructor
    · rintro ⟨line, hline, hmark⟩
      rcases List.mem_flatMap.1 hline with ⟨list, hlist, hline⟩
      rcases List.mem_map.1 hline with ⟨element, helement, rfl⟩
      exact ⟨list, hlist, element, helement, (hmarks list hlist element).1 hmark⟩
    · rintro ⟨list, hlist, element, helement, hmark⟩
      refine ⟨_, List.mem_flatMap.2 ⟨list, hlist, List.mem_map_of_mem helement⟩, ?_⟩
      exact (hmarks list hlist element).2 hmark

/-- Something stands in the place of every token of a line that was read. -/
theorem OneLine.resolved_ne_empty (h : named.OneLine) (hkeeps : named.Keeps source) :
    ∀ expansion ∈ named.line.row, expansion.resolved named.identifierOf ≠ "" := by
  rcases hkeeps with ⟨spans, -, hspans, hshape, -⟩
  have hrow := h.row
  generalize named.line.source.tokens = tokens at hspans hshape hrow
  generalize named.line.row = row at hshape hrow ⊢
  induction hshape generalizing spans with
  | nil =>
      simp
  | cons hfirst _ ih =>
      cases hspans with
      | cons hspan hspans =>
          cases hrow with
          | cons hone hrow =>
              refine List.forall_mem_cons.2 ⟨?_, ih _ hspans hrow⟩
              cases hspan with
              | text hne =>
                  cases hfirst
                  simpa [Expansion.resolved, Expansion.result, Token.rename] using hne
              | command _ =>
                  exact ((hone rfl).resolved h.identifierOf).1

/-- The marks of a line with the lines around it. -/
theorem Drawn.marked_text_iff (h : named.Drawn) (hone : named.OneLine)
    (hkeeps : named.Keeps source) : Text.Marked named.text ↔ named.Marked := by
  rcases h.marked_after with ⟨hhead, hafter⟩
  have hbody :
      Text.Marked named.body ↔
        (∃ expansion ∈ named.line.row, Text.Marked (expansion.resolved named.identifierOf)) ∨
          ∃ left right,
            [left, right] <:+: named.line.row.map (Expansion.resolved named.identifierOf) ∧
              Text.Meet left right := by
    have hne := hone.resolved_ne_empty hkeeps
    rw [body, Text.marked_join (List.forall_mem_map.2 hne)]
    simp only [List.mem_map, exists_exists_and_eq_and]
  have hshows :
      (∃ expansion ∈ named.line.row, expansion.Shows named.identifierOf) ↔
        ∃ expansion ∈ named.line.row, ∃ text ∈ expansion.texts, Text.Marked text := by
    refine exists_congr fun expansion => and_congr_right fun hexpansion => ?_
    refine (h.row expansion hexpansion).shows_iff (h.sound expansion hexpansion) ?_
    intro list hlist
    exact (h.markFree_identifierOf (List.mem_flatMap.2 ⟨expansion, hexpansion, hlist⟩)).1
  rw [text, String.join_append, String.join_cons, Text.marked_append_of_not_mem h.not_mem_before,
    Text.marked_append_of_head _ hhead, hafter, hbody, Marked, ← hshows, ← Expansion.shows_row,
    or_right_comm]
  rfl

/-- An output has the marks of its lines and no others. -/
theorem marked_join_iff {pieces : List String} {lines : List NamedLine} (hcut : Text.Cut pieces)
    (hlines : List.Forall₂ (fun source line => line.Keeps source ∧ line.OneLine) pieces lines)
    (hdrawn : ∀ line ∈ lines, line.Drawn) :
    Text.Marked (String.join (lines.map text)) ↔ ∃ line ∈ lines, line.Marked := by
  induction hcut generalizing lines with
  | nil =>
      cases hlines
      simp [Text.not_marked_empty]
  | unended _ =>
      cases hlines with
      | cons hline hrest =>
          cases hrest
          have hown := List.forall_mem_singleton.1 hdrawn
          simpa using hown.marked_text_iff hline.2 hline.1
  | ended hpiece hcut ih =>
      cases hlines with
      | cons hline hrest =>
          rcases List.forall_mem_cons.1 hdrawn with ⟨hown, hdrawn⟩
          have hlast := (Text.Cut.ended hpiece hcut).newline_last _ List.mem_cons_self
          have hends := hline.2.endsLine_text hline.1 hlast hpiece.endsLine
          rw [List.map_cons, String.join_cons, hends.marked_append, ih hrest hdrawn,
            hown.marked_text_iff hline.2 hline.1, List.exists_mem_cons_iff]

end NamedLine

end TemplateVariants
