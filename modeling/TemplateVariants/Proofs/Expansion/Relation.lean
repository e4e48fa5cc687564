import TemplateVariants.Proofs.Expansion.Basic
import TemplateVariants.Proofs.Performing

/-!
# Runs of an expansion

`Expands tokens s row s'` says that the tokens, expanded from left to right in the session `s`,
turned into the trees of `row` and left the session `s'`. There is one rule for each kind of token,
and its premises are what happened, in the order in which it happened: the arguments first, then
what the command itself drew, bound or looked up, then the note in the journal, then the tokens to
its right.

`Token.expandAll_eq_ok_iff` ties the relation to the expansion that runs: a list of tokens is
expanded with success exactly along such a run, and what it brings into the lines is what the trees
say.
-/

namespace TemplateVariants

open ListForm Randomness

namespace Expansion

/-- The note in the journal for an expanded command. -/
def note (command : Command) (expansion : Expansion) : Event :=
  .collapsed command.name expansion.lists.length
    (expansion.lists.flatMap AppendedList.elements).length

/-- The arguments came out as the given texts. -/
def HaveTexts (row : List Expansion) (texts : List String) : Prop :=
  row.map (fun expansion => Line.plainText? expansion.result) = texts.map some

theorem note_eq (command : Command) (indent : String) (expansion : Expansion) :
    .collapsed command.name (expansion.replacement indent).before.length
      (expansion.replacement indent).after.length = expansion.note command := by
  simp [note, replacement, AppendedList.fillings, List.length_flatMap]

end Expansion

section Runs

variable {G : Type} [WordSource G]

open Expansion in
inductive Expands : List Token → Session G → List Expansion → Session G → Prop where
  | nil (s : Session G) :
      Expands [] s [] s
  | literal {text : String} {tokens : List Token} {s s' : Session G} {row : List Expansion} :
      Expands tokens s row s' →
      Expands (.literal text :: tokens) s (.text text :: row) s'
  | var {name identifier : String} {candidates tokens : List Token} {texts : List String}
      {s s₁ s₂ s' : Session G} {parts row : List Expansion} :
      Expands candidates s parts s₁ →
      HaveTexts parts texts →
      Compiling.introduce name (texts.filterMap Fresh.candidate?) s₁ = .ok identifier s₂ →
      Expands tokens
        (s₂.record (note (.var name candidates) (.var name parts identifier))) row s' →
      Expands (.command (.var name candidates) :: tokens) s (.var name parts identifier :: row) s'
  | get {name : String} {value : Token} {tokens : List Token} {s s' : Session G}
      {row : List Expansion} :
      s.lookup? name = some value →
      Expands tokens (s.record (note (.get name) (.get name value))) row s' →
      Expands (.command (.get name) :: tokens) s (.get name value :: row) s'
  | collection {elements tokens : List Token} {writing : Writing} {s s₁ s₂ s' : Session G}
      {parts row : List Expansion} :
      Expands elements s parts s₁ →
      (Compiling.roll (drawWriting parts.length) : Compiling Cause G Writing) s₁ =
        .ok writing s₂ →
      Expands tokens
        (s₂.record (note (.collection elements) (.collection parts writing))) row s' →
      Expands (.command (.collection elements) :: tokens) s (.collection parts writing :: row) s'
  | build {size element : Token} {tokens : List Token} {text : String} {count : Nat}
      {writing : Writing} {s s₁ s₂ s₃ s' : Session G} {sized : Expansion}
      {slots row : List Expansion} :
      Expands [size] s [sized] s₁ →
      HaveTexts [sized] [text] →
      (Compiling.slots text : Compiling Cause G Nat) s₁ = .ok count s₁ →
      Expands (List.replicate count element) s₁ slots s₂ →
      (Compiling.roll (drawWriting slots.length) : Compiling Cause G Writing) s₂ =
        .ok writing s₃ →
      Expands tokens
        (s₃.record (note (.build size element) (.build sized slots writing))) row s' →
      Expands (.command (.build size element) :: tokens) s (.build sized slots writing :: row) s'
  | rand {kind : NumberKind} {lower upper : Token} {tokens : List Token}
      {low high value : String} {s s₁ s₂ s₃ s' : Session G} {first second : Expansion}
      {row : List Expansion} :
      Expands [lower] s [first] s₁ →
      Expands [upper] s₁ [second] s₂ →
      HaveTexts [first, second] [low, high] →
      (Compiling.number kind low high : Compiling Cause G String) s₂ = .ok value s₃ →
      Expands tokens
        (s₃.record (note (.rand kind lower upper) (.rand kind first second value))) row s' →
      Expands (.command (.rand kind lower upper) :: tokens) s
        (.rand kind first second value :: row) s'

/-! ## Rows of runs -/

namespace Expands

variable {s s₁ s' : Session G} {tokens more : List Token} {row next : List Expansion}

theorem append (h : Expands tokens s row s₁) (hnext : Expands more s₁ next s') :
    Expands (tokens ++ more) s (row ++ next) s' := by
  induction h with
  | nil _ =>
      exact hnext
  | literal _ ih =>
      exact .literal (ih hnext)
  | var hparts htexts hintroduce _ _ ih =>
      exact .var hparts htexts hintroduce (ih hnext)
  | get hvalue _ ih =>
      exact .get hvalue (ih hnext)
  | collection hparts hwriting _ _ ih =>
      exact .collection hparts hwriting (ih hnext)
  | build hsized htext hcount hslots hwriting _ _ _ ih =>
      exact .build hsized htext hcount hslots hwriting (ih hnext)
  | rand hlow hhigh htexts hvalue _ _ _ ih =>
      exact .rand hlow hhigh htexts hvalue (ih hnext)

/-- Each token turned into one tree. -/
theorem length_eq (h : Expands tokens s row s') : row.length = tokens.length := by
  induction h with
  | nil _ =>
      rfl
  | literal _ ih =>
      simp [ih]
  | var _ _ _ _ _ ih =>
      simp [ih]
  | get _ _ ih =>
      simp [ih]
  | collection _ _ _ _ ih =>
      simp [ih]
  | build _ _ _ _ _ _ _ _ ih =>
      simp [ih]
  | rand _ _ _ _ _ _ _ ih =>
      simp [ih]

end Expands

/-! ## Trees and the tokens they come from -/

namespace Expansion

/-- The tree has the shape of the token; a repeated element has a tree for each slot. -/
inductive IsOf : Token → Expansion → Prop where
  | text (t : String) :
      IsOf (.literal t) (.text t)
  | var {name identifier : String} {candidates : List Token} {parts : List Expansion} :
      List.Forall₂ IsOf candidates parts →
      IsOf (.command (.var name candidates)) (.var name parts identifier)
  | get (name : String) (value : Token) :
      IsOf (.command (.get name)) (.get name value)
  | collection {elements : List Token} {parts : List Expansion} {writing : Writing} :
      List.Forall₂ IsOf elements parts →
      IsOf (.command (.collection elements)) (.collection parts writing)
  | build {size element : Token} {count : Nat} {sized : Expansion} {slots : List Expansion}
      {writing : Writing} :
      IsOf size sized →
      List.Forall₂ IsOf (List.replicate count element) slots →
      IsOf (.command (.build size element)) (.build sized slots writing)
  | rand {kind : NumberKind} {lower upper : Token} {first second : Expansion} {value : String} :
      IsOf lower first →
      IsOf upper second →
      IsOf (.command (.rand kind lower upper)) (.rand kind first second value)

end Expansion

theorem Expands.isOf {tokens : List Token} {s s' : Session G} {row : List Expansion}
    (h : Expands tokens s row s') : List.Forall₂ Expansion.IsOf tokens row := by
  induction h with
  | nil s =>
      exact .nil
  | literal _ ih =>
      exact .cons (.text _) ih
  | var _ _ _ _ ihparts ih =>
      exact .cons (.var ihparts) ih
  | get _ _ ih =>
      exact .cons (.get _ _) ih
  | collection _ _ _ ihparts ih =>
      exact .cons (.collection ihparts) ih
  | build _ _ _ _ _ _ ihsized ihslots ih =>
      cases ihsized with
      | cons hsized _ =>
          exact .cons (.build hsized ihslots) ih
  | rand _ _ _ _ _ ihlow ihhigh ih =>
      cases ihlow with
      | cons hlow _ =>
          cases ihhigh with
          | cons hhigh _ =>
              exact .cons (.rand hlow hhigh) ih

/-! ## The relation and the expansion that runs -/

namespace Expansion

theorem HaveTexts.length_eq {row : List Expansion} {texts : List String} (h : HaveTexts row texts) :
    texts.length = row.length := by
  have := congrArg List.length h
  simpa using this.symm

/-- Plain results of a row that was expanded are the texts of the arguments. -/
theorem HaveTexts.expandTexts_eq_ok {context : Line} {indent : String} {s s' : Session G}
    {tokens : List Token} {row : List Expansion} {texts : List String} (h : HaveTexts row texts)
    (hrow : Token.expandAll context tokens s = .ok (row.map (replacement indent)) s') :
    Token.expandTexts context tokens s =
      .ok (texts.zip (row.map (replacement indent))) s' := by
  have hlength := h.length_eq
  refine Token.expandTexts_eq_ok.2 ⟨?_, ?_⟩
  · rw [List.map_snd_zip (by simp [hlength])]
    exact hrow
  · rw [List.map_fst_zip (by simp [hlength])]
    have hsnd :
        (texts.zip (row.map (replacement indent))).map
            (fun part => Line.plainText? part.2.result) =
          ((texts.zip (row.map (replacement indent))).map Prod.snd).map
            (fun r => Line.plainText? r.result) := by
      simp
    rw [hsnd, List.map_snd_zip (by simp [hlength]), List.map_map, ← h]
    rfl

end Expansion

namespace Expands

open Expansion

variable {context : Line} {s s' : Session G} {tokens : List Token} {row : List Expansion}

/-- A run of the relation is one of the expansion. -/
theorem expandAll_eq_ok (h : Expands tokens s row s') :
    Token.expandAll context tokens s =
      .ok (row.map (replacement (indentation context))) s' := by
  induction h with
  | nil s =>
      exact Token.expandAll_nil_eq_ok.2 ⟨rfl, rfl⟩
  | literal _ ih =>
      refine Token.expandAll_cons_eq_ok.2 ⟨_, _, _, ?_, ih, rfl⟩
      rw [Token.expand]
      simp
  | @var name identifier candidates tokens texts s s₁ s₂ s' parts row _ htexts hintroduce _
      ihparts ih =>
      refine Token.expandAll_cons_eq_ok.2 ⟨_, _, _, ?_, ih, rfl⟩
      refine Command.expand_command_eq_ok.2 ⟨s₂, ?_, by rw [note_eq]⟩
      refine Command.perform_var_eq_ok.2
        ⟨_, s₁, identifier, htexts.expandTexts_eq_ok ihparts, ?_, ?_⟩
      · -- candidates are chosen by their texts alone
        have hfst :
            (texts.zip (parts.map (replacement (indentation context)))).map Prod.fst = texts :=
          List.map_fst_zip (by simp [htexts.length_eq])
        rw [← hfst, List.filterMap_map] at hintroduce
        exact hintroduce
      · rw [List.map_snd_zip (by simp [htexts.length_eq]), replacement_var]
  | @get name value tokens s s' row hvalue _ ih =>
      refine Token.expandAll_cons_eq_ok.2 ⟨_, _, _, ?_, ih, rfl⟩
      refine Command.expand_command_eq_ok.2 ⟨s, ?_, by rw [note_eq]⟩
      exact Command.perform_get_eq_ok.2 ⟨value, hvalue, rfl, replacement_get _ _ _⟩
  | @collection elements tokens writing s s₁ s₂ s' parts row _ hwriting _ ihparts ih =>
      refine Token.expandAll_cons_eq_ok.2 ⟨_, _, _, ?_, ih, rfl⟩
      refine Command.expand_command_eq_ok.2 ⟨s₂, ?_, by rw [note_eq]⟩
      refine Command.perform_collection_eq_ok.2 ⟨_, s₁, writing, ihparts, ?_, ?_⟩
      · simpa using hwriting
      · rw [replacement_collection, List.map_map]
        rfl
  | @build size element tokens text count writing s s₁ s₂ s₃ s' sized slots row _ htext hcount _
      hwriting _ ihsized ihslots ih =>
      refine Token.expandAll_cons_eq_ok.2 ⟨_, _, _, ?_, ih, rfl⟩
      refine Command.expand_command_eq_ok.2 ⟨s₃, ?_, by rw [note_eq]⟩
      have hplain : Line.plainText? sized.result = some text := by
        simpa [HaveTexts] using htext
      refine Command.perform_build_eq_ok.2
        ⟨_, s₁, text, count, _, s₂, writing, Token.expandAll_singleton_eq_ok.1 ihsized, hplain,
          hcount, ihslots, ?_, ?_⟩
      · simpa using hwriting
      · rw [replacement_build, List.map_map]
        rfl
  | @rand kind lower upper tokens low high value s s₁ s₂ s₃ s' first second row _ _ htexts hvalue _
      ihlow ihhigh ih =>
      refine Token.expandAll_cons_eq_ok.2 ⟨_, _, _, ?_, ih, rfl⟩
      refine Command.expand_command_eq_ok.2 ⟨s₃, ?_, by rw [note_eq]⟩
      have hplain :
          Line.plainText? first.result = some low ∧ Line.plainText? second.result = some high := by
        simpa [HaveTexts] using htexts
      exact Command.perform_rand_eq_ok.2
        ⟨_, s₁, low, _, s₂, high, value, Token.expandAll_singleton_eq_ok.1 ihlow, hplain.1,
          Token.expandAll_singleton_eq_ok.1 ihhigh, hplain.2, hvalue, replacement_rand _ _ _ _ _⟩

/-- The rows that the expansion turns into trees along a run of the relation. -/
def Recorded (G : Type) [WordSource G] (context : Line) (tokens : List Token) : Prop :=
  ∀ (s s' : Session G) (rs : List Replacement),
    Token.expandAll context tokens s = .ok rs s' →
      ∃ row, Expands tokens s row s' ∧ rs = row.map (replacement (indentation context))

/-- Copies of an element run one after the other. -/
theorem Recorded.replicate {element : Token} (h : Recorded G context [element]) (count : Nat) :
    Recorded G context (List.replicate count element) := by
  induction count with
  | zero =>
      intro s s' rs hrun
      rcases Token.expandAll_nil_eq_ok.1 hrun with ⟨rfl, rfl⟩
      exact ⟨[], .nil s, rfl⟩
  | succ count ih =>
      intro s s' rs hrun
      rw [List.replicate_succ] at hrun
      rcases Token.expandAll_cons_eq_ok.1 hrun with ⟨r, s₁, rest, hfirst, hrest, rfl⟩
      rcases h _ _ _ (Token.expandAll_singleton_eq_ok.2 hfirst) with ⟨row, hrow, hreplaced⟩
      rcases ih _ _ _ hrest with ⟨more, hmore, rfl⟩
      refine ⟨row ++ more, hrow.append hmore, ?_⟩
      rw [List.map_append, ← hreplaced]
      rfl

/-- An argument runs as a row of one tree. -/
theorem Recorded.single {token : Token} (h : Recorded G context [token]) {r : Replacement}
    (hrun : token.expand context s = .ok r s') :
    ∃ expansion, Expands [token] s [expansion] s' ∧
      r = expansion.replacement (indentation context) := by
  rcases h _ _ _ (Token.expandAll_singleton_eq_ok.2 hrun) with ⟨row, hrow, hreplaced⟩
  rcases List.length_eq_one_iff.1 hrow.length_eq with ⟨expansion, rfl⟩
  refine ⟨expansion, hrow, ?_⟩
  simpa using hreplaced

/-- Every row that was expanded with success has a run of the relation. -/
theorem recorded (context : Line) (tokens : List Token) :
    Recorded G context tokens := by
  -- Arguments run before the rest of the row and change the session, so the statement is for all
  -- sessions; the induction goes into the arguments as well as along the row.
  induction tokens using Line.row_induction with
  | nil =>
      intro s s' rs h
      rcases Token.expandAll_nil_eq_ok.1 h with ⟨rfl, rfl⟩
      exact ⟨[], .nil s, rfl⟩
  | literal text tokens ih =>
      intro s s' rs h
      rcases Token.expandAll_cons_eq_ok.1 h with ⟨r, s₁, rest, hfirst, hrest, rfl⟩
      rw [Token.expand, Compiling.pure_eq_ok] at hfirst
      rcases hfirst with ⟨rfl, rfl⟩
      rcases ih _ _ _ hrest with ⟨row, hrow, rfl⟩
      exact ⟨_, .literal hrow, by simp⟩
  | var name candidates tokens ihcandidates ih =>
      intro s s' rs h
      rcases Token.expandAll_cons_eq_ok.1 h with ⟨r, s₁, rest, hfirst, hrest, rfl⟩
      rcases Command.expand_command_eq_ok.1 hfirst with ⟨s₂, hperform, rfl⟩
      rcases Command.perform_var_eq_ok.1 hperform with
        ⟨parts, s₃, identifier, hparts, hintroduce, rfl⟩
      rcases Token.expandTexts_eq_ok.1 hparts with ⟨hall, htexts⟩
      rcases ihcandidates _ _ _ hall with ⟨row, hrow, hreplaced⟩
      -- the texts are the plain results of the trees
      have hhave : HaveTexts row (parts.map Prod.fst) := by
        unfold HaveTexts
        rw [← htexts]
        have := congrArg (List.map fun r => Line.plainText? r.result) hreplaced
        simpa [Function.comp_def] using this.symm
      have hdrawn :
          Compiling.introduce name ((parts.map Prod.fst).filterMap Fresh.candidate?) s₃ =
            .ok identifier s₂ := by
        rw [List.filterMap_map]
        exact hintroduce
      rw [hreplaced, ← replacement_var _ name, note_eq] at hrest
      rcases ih _ _ _ hrest with ⟨more, hmore, rfl⟩
      refine ⟨_, .var hrow hhave hdrawn hmore, ?_⟩
      rw [List.map_cons, replacement_var, hreplaced]
  | get name tokens ih =>
      intro s s' rs h
      rcases Token.expandAll_cons_eq_ok.1 h with ⟨r, s₁, rest, hfirst, hrest, rfl⟩
      rcases Command.expand_command_eq_ok.1 hfirst with ⟨s₂, hperform, rfl⟩
      rcases Command.perform_get_eq_ok.1 hperform with ⟨value, hvalue, rfl, rfl⟩
      rw [← replacement_get (indentation context) name, note_eq] at hrest
      rcases ih _ _ _ hrest with ⟨more, hmore, rfl⟩
      refine ⟨_, .get hvalue hmore, ?_⟩
      rw [List.map_cons, replacement_get]
  | collection elements tokens ihelements ih =>
      intro s s' rs h
      rcases Token.expandAll_cons_eq_ok.1 h with ⟨r, s₁, rest, hfirst, hrest, rfl⟩
      rcases Command.expand_command_eq_ok.1 hfirst with ⟨s₂, hperform, rfl⟩
      rcases Command.perform_collection_eq_ok.1 hperform with
        ⟨parts, s₃, writing, hparts, hwriting, rfl⟩
      rcases ihelements _ _ _ hparts with ⟨row, hrow, rfl⟩
      rw [List.length_map] at hwriting
      rw [List.map_map, Function.comp_def] at hrest
      simp only [replacement_result] at hrest
      rw [← replacement_collection, note_eq] at hrest
      rcases ih _ _ _ hrest with ⟨more, hmore, rfl⟩
      refine ⟨_, .collection hrow hwriting hmore, ?_⟩
      rw [List.map_cons, replacement_collection, List.map_map]
      rfl
  | build size element tokens ihsize ihelement ih =>
      intro s s' rs h
      rcases Token.expandAll_cons_eq_ok.1 h with ⟨r, s₁, rest, hfirst, hrest, rfl⟩
      rcases Command.expand_command_eq_ok.1 hfirst with ⟨s₂, hperform, rfl⟩
      rcases Command.perform_build_eq_ok.1 hperform with
        ⟨sized, s₃, text, count, parts, s₄, writing, hsized, htext, hcount, hparts, hwriting, rfl⟩
      rcases ihsize.single hsized with ⟨expansion, hexpansion, rfl⟩
      -- the slots are a row of copies of the element
      rcases ihelement.replicate count _ _ _ hparts with ⟨slots, hslots, rfl⟩
      have hhave : HaveTexts [expansion] [text] := by
        simpa [HaveTexts] using htext
      rw [List.length_map] at hwriting
      rw [List.map_map, Function.comp_def] at hrest
      simp only [replacement_result] at hrest
      rw [← replacement_build, note_eq] at hrest
      rcases ih _ _ _ hrest with ⟨more, hmore, rfl⟩
      refine ⟨_, .build hexpansion hhave hcount hslots hwriting hmore, ?_⟩
      rw [List.map_cons, replacement_build, List.map_map]
      rfl
  | rand kind lower upper tokens ihlower ihupper ih =>
      intro s s' rs h
      rcases Token.expandAll_cons_eq_ok.1 h with ⟨r, s₁, rest, hfirst, hrest, rfl⟩
      rcases Command.expand_command_eq_ok.1 hfirst with ⟨s₂, hperform, rfl⟩
      rcases Command.perform_rand_eq_ok.1 hperform with
        ⟨_, s₃, low, _, s₄, high, value, hlower, hlow, hupper, hhigh, hvalue, rfl⟩
      rcases ihlower.single hlower with ⟨first, hfirst', rfl⟩
      rcases ihupper.single hupper with ⟨second, hsecond', rfl⟩
      have hhave : HaveTexts [first, second] [low, high] := by
        simp only [replacement_result] at hlow hhigh
        simp [HaveTexts, hlow, hhigh]
      rw [← replacement_rand _ kind, note_eq] at hrest
      rcases ih _ _ _ hrest with ⟨more, hmore, rfl⟩
      refine ⟨_, .rand hfirst' hsecond' hhave hvalue hmore, ?_⟩
      rw [List.map_cons, replacement_rand]

end Expands

/-- Tokens are expanded with success exactly along a run of the relation. -/
theorem Token.expandAll_eq_ok_iff {context : Line} {tokens : List Token} {s s' : Session G}
    {rs : List Replacement} :
    Token.expandAll context tokens s = .ok rs s' ↔
      ∃ row, Expands tokens s row s' ∧
        rs = row.map (Expansion.replacement (indentation context)) := by
  constructor
  · exact Expands.recorded context tokens s s' rs
  · rintro ⟨row, hrow, rfl⟩
    exact hrow.expandAll_eq_ok

end Runs

end TemplateVariants
