import TemplateVariants.Proofs.Expansion.Relation

/-!
# What holds of every expansion

In a compilation a name is only ever bound to an identifier, which is text. From this follows which
commands can be left after an expansion: none but look-ups of lists that are declared before the
line (`exists_list_of_command`), and at least one if there is such a list
(`exists_command_of_lists`). So an argument that has to be text never brings lines of its own.
-/

namespace TemplateVariants

open ListForm Randomness

/-! ## Sessions in which names stand for text -/

/-- Every name is bound to text. -/
def Session.Settled {G : Type} (s : Session G) : Prop :=
  ∀ name value, s.lookup? name = some value → value.isCommand = false

namespace Session.Settled

variable {G : Type} {s s' : Session G}

theorem of_bindings_eq (h : s.Settled) (heq : s'.bindings = s.bindings) : s'.Settled := by
  intro name value hvalue
  refine h name value ?_
  simpa [Session.lookup?, heq] using hvalue

theorem record (h : s.Settled) (event : Event) : (s.record event).Settled :=
  h.of_bindings_eq rfl

theorem roll {α ε : Type} {draw : Draw G α} {a : α} (h : s.Settled)
    (hroll : (Compiling.roll draw : Compiling ε G α) s = .ok a s') : s'.Settled := by
  rcases Compiling.roll_eq_ok.1 hroll with ⟨dice, -, rfl⟩
  exact h.of_bindings_eq rfl

theorem introduce [WordSource G] {name identifier : String} {candidates : List String}
    (h : s.Settled)
    (hintroduce : (Compiling.introduce name candidates : Compiling Cause G String) s =
      .ok identifier s') : s'.Settled := by
  intro other value hvalue
  rw [Compiling.lookup?_of_introduce hintroduce] at hvalue
  by_cases hname : name = other
  · rw [if_pos hname, Option.some.injEq] at hvalue
    subst hvalue
    rfl
  · rw [if_neg hname] at hvalue
    exact h other value hvalue

theorem number [WordSource G] {kind : NumberKind} {lower upper text : String} (h : s.Settled)
    (hnumber : (Compiling.number kind lower upper : Compiling Cause G String) s = .ok text s') :
    s'.Settled := by
  rcases Compiling.number_eq_ok hnumber with ⟨dice, rfl⟩
  exact h.of_bindings_eq rfl

end Session.Settled

/-! ## Sound trees -/

namespace Expansion

/-- Names stood for text; arguments that had to be text brought no lists; a literal has its
separators. -/
inductive Sound : Expansion → Prop where
  | text (t : String) : Sound (.text t)
  | var {name identifier : String} {candidates : List Expansion} :
      (∀ part ∈ candidates, Sound part) → (∀ part ∈ candidates, part.lists = []) →
      Sound (.var name candidates identifier)
  | get (name t : String) : Sound (.get name (.literal t))
  | collection {elements : List Expansion} {writing : Writing} :
      (∀ part ∈ elements, Sound part) → writing.Fits elements.length →
      Sound (.collection elements writing)
  | build {size : Expansion} {slots : List Expansion} {writing : Writing} :
      Sound size → size.lists = [] → (∀ part ∈ slots, Sound part) → writing.Fits slots.length →
      Sound (.build size slots writing)
  | rand {kind : NumberKind} {lower upper : Expansion} {value : String} :
      Sound lower → lower.lists = [] → Sound upper → upper.lists = [] →
      Sound (.rand kind lower upper value)

end Expansion

/-! ## Commands in written lists -/

namespace ListForm

/-- The commands of a literal are those of its elements. -/
theorem command_mem_literal {separators : List String} {elements : List Line} {token : Token}
    (hlength : separators.length = elements.length - 1) (hcommand : token.isCommand = true) :
    token ∈ literal separators elements ↔ ∃ line ∈ elements, token ∈ line := by
  have hne : ∀ text, token ≠ .literal text := by
    rintro text rfl
    cases hcommand
  cases elements with
  | nil =>
      simp [literal, hne]
  | cons first rest =>
      simp only [List.length_cons, Nat.add_sub_cancel] at hlength
      -- there are separators enough that no element is dropped
      have hrest : ∀ line, line ∈ rest ↔ ∃ mark, (mark, line) ∈ separators.zip rest := by
        intro line
        have hsnd : (separators.zip rest).map Prod.snd = rest :=
          List.map_snd_zip (by simp [hlength])
        constructor
        · intro hline
          rw [← hsnd] at hline
          simpa using hline
        · rintro ⟨mark, hmem⟩
          rw [← hsnd]
          exact List.mem_map_of_mem hmem
      simp only [literal, List.mem_cons, List.mem_append, List.mem_flatMap, Prod.exists,
        List.not_mem_nil, or_false, hne, false_or]
      constructor
      · rintro (hfirst | ⟨mark, line, hmem, htoken⟩)
        · exact ⟨first, Or.inl rfl, hfirst⟩
        · exact ⟨line, Or.inr ((hrest line).2 ⟨mark, hmem⟩), htoken⟩
      · rintro ⟨line, rfl | hline, htoken⟩
        · exact Or.inl htoken
        · rcases (hrest line).1 hline with ⟨mark, hmem⟩
          exact Or.inr ⟨mark, line, hmem, htoken⟩

end ListForm

/-- A line with a plain text holds no command. -/
theorem Line.isCommand_of_plainText? {line : Line} {text : String}
    (h : line.plainText? = some text) : ∀ token ∈ line, token.isCommand = false := by
  rcases Option.map_eq_some_iff.1 h with ⟨texts, htexts, -⟩
  clear h
  induction line generalizing texts with
  | nil =>
      simp
  | cons token line ih =>
      rw [List.mapM_cons] at htexts
      cases token with
      | literal t =>
          rcases Option.bind_eq_some_iff.1 htexts with ⟨first, -, hrest⟩
          rcases Option.bind_eq_some_iff.1 hrest with ⟨rest, hline, -⟩
          intro token htoken
          rcases List.mem_cons.1 htoken with rfl | htoken
          · rfl
          · exact ih rest hline token htoken
      | command command =>
          -- a command has no plain text
          cases htexts

namespace Expansion

theorem HaveTexts.isCommand_eq_false {row : List Expansion} {texts : List String}
    (h : HaveTexts row texts) :
    ∀ part ∈ row, ∀ token ∈ part.result, token.isCommand = false := by
  intro part hpart
  have hmem : Line.plainText? part.result ∈ texts.map some := by
    rw [← h]
    exact List.mem_map_of_mem hpart
  rcases List.mem_map.1 hmem with ⟨text, -, htext⟩
  exact Line.isCommand_of_plainText? htext.symm

namespace Sound

variable {expansion : Expansion}

/-- A command that is left looks up a list that is declared before the line. -/
theorem exists_list_of_command (h : expansion.Sound) :
    ∀ token ∈ expansion.result, token.isCommand = true →
      ∃ list ∈ expansion.lists, token = .command (.get list.name) := by
  -- Only lists hand on commands, so the induction follows the elements.
  have hwriting :
      ∀ (parts : List Expansion) (writing : Writing), writing.Fits parts.length →
        (∀ part ∈ parts, ∀ token ∈ part.result, token.isCommand = true →
          ∃ list ∈ part.lists, token = .command (.get list.name)) →
        ∀ token ∈ writing.inline (parts.map result), token.isCommand = true →
          ∃ list ∈ parts.flatMap lists ++ writing.lists parts,
            token = .command (.get list.name) := by
    intro parts writing hfits ih token htoken hcommand
    cases writing with
    | literal spacing breaks =>
        have hlength : (breaks.map (separator spacing)).length = (parts.map result).length - 1 := by
          simpa [Writing.Fits] using hfits
        rcases (command_mem_literal hlength hcommand).1 htoken with ⟨line, hline, htoken⟩
        rcases List.mem_map.1 hline with ⟨part, hpart, rfl⟩
        rcases ih part hpart token htoken hcommand with ⟨list, hlist, rfl⟩
        exact ⟨list, List.mem_append_left _ (List.mem_flatMap.2 ⟨part, hpart, hlist⟩), rfl⟩
    | appended name =>
        -- the look-up in place is that of the list itself
        refine ⟨⟨name, parts⟩, by simp [Writing.lists], ?_⟩
        simpa [Writing.inline] using htoken
  induction h with
  | text t =>
      intro token htoken hcommand
      simp only [result, List.mem_singleton] at htoken
      subst htoken
      cases hcommand
  | var _ _ _ =>
      intro token htoken hcommand
      simp only [result, List.mem_singleton] at htoken
      subst htoken
      cases hcommand
  | get name t =>
      intro token htoken hcommand
      simp only [result, List.mem_singleton] at htoken
      subst htoken
      cases hcommand
  | collection _ hfits ih =>
      simpa using hwriting _ _ hfits ih
  | build _ _ _ hfits _ ih =>
      intro token htoken hcommand
      simp only [result, results_eq_map] at htoken
      rcases hwriting _ _ hfits ih token htoken hcommand with ⟨list, hlist, rfl⟩
      refine ⟨list, ?_, rfl⟩
      simp only [lists, rowLists_eq_flatMap, List.append_assoc]
      exact List.mem_append_right _ hlist
  | rand _ _ _ _ _ _ =>
      intro token htoken hcommand
      simp only [result, List.mem_singleton] at htoken
      subst htoken
      cases hcommand

/-- Where a list is declared before the line, a command is left in it. -/
theorem exists_command_of_lists (h : expansion.Sound) (hne : expansion.lists ≠ []) :
    ∃ token ∈ expansion.result, token.isCommand = true := by
  -- A literal hands on the commands of its elements, and an appended list is looked up.
  have hwriting :
      ∀ (parts : List Expansion) (writing : Writing), writing.Fits parts.length →
        (∀ part ∈ parts, part.lists ≠ [] → ∃ token ∈ part.result, token.isCommand = true) →
        parts.flatMap lists ++ writing.lists parts ≠ [] →
        ∃ token ∈ writing.inline (parts.map result), token.isCommand = true := by
    intro parts writing hfits ih hlists
    cases writing with
    | literal spacing breaks =>
        have hlength : (breaks.map (separator spacing)).length = (parts.map result).length - 1 := by
          simpa [Writing.Fits] using hfits
        simp only [Writing.lists, List.append_nil, ne_eq, List.flatMap_eq_nil_iff,
          not_forall] at hlists
        rcases hlists with ⟨part, hpart, hpartLists⟩
        rcases ih part hpart hpartLists with ⟨token, htoken, hcommand⟩
        refine ⟨token, ?_, hcommand⟩
        exact (command_mem_literal hlength hcommand).2
          ⟨part.result, List.mem_map_of_mem hpart, htoken⟩
    | appended name =>
        exact ⟨.command (.get name), by simp [Writing.inline], rfl⟩
  induction h with
  | text t =>
      exact absurd rfl hne
  | var _ hnone _ =>
      refine absurd ?_ hne
      simpa [lists] using hnone
  | get name t =>
      exact absurd rfl hne
  | collection _ hfits ih =>
      simp only [result, results_eq_map]
      refine hwriting _ _ hfits ih ?_
      simpa only [lists, rowLists_eq_flatMap] using hne
  | build _ hsize _ hfits _ ih =>
      simp only [result, results_eq_map]
      refine hwriting _ _ hfits ih ?_
      simpa only [lists, rowLists_eq_flatMap, hsize, List.nil_append] using hne
  | rand _ hlower _ hupper _ _ =>
      refine absurd ?_ hne
      simp [hlower, hupper]

/-- An expansion without lists is plain, and the other way round. -/
theorem lists_eq_nil_iff (h : expansion.Sound) :
    expansion.lists = [] ↔ ∀ token ∈ expansion.result, token.isCommand = false := by
  constructor
  · intro hnone token htoken
    by_contra hcommand
    rcases h.exists_list_of_command token htoken (by simpa using hcommand) with ⟨list, hlist, -⟩
    rw [hnone] at hlist
    cases hlist
  · intro hplain
    by_contra hne
    rcases h.exists_command_of_lists hne with ⟨token, htoken, hcommand⟩
    rw [hplain token htoken] at hcommand
    cases hcommand

/-- The elements of a list that is filled after the line are sound, and their own lists stand among
those of the expansion. -/
theorem of_mem_lists (h : expansion.Sound) :
    ∀ list ∈ expansion.lists, ∀ part ∈ list.elements,
      part.Sound ∧ part.lists ⊆ expansion.lists := by
  -- The elements of an appended list are the parts themselves; all other lists are those of a part.
  have hwriting :
      ∀ (parts : List Expansion) (writing : Writing), (∀ part ∈ parts, part.Sound) →
        (∀ part ∈ parts, ∀ list ∈ part.lists, ∀ element ∈ list.elements,
          element.Sound ∧ element.lists ⊆ part.lists) →
        ∀ list ∈ parts.flatMap lists ++ writing.lists parts, ∀ element ∈ list.elements,
          element.Sound ∧ element.lists ⊆ parts.flatMap lists ++ writing.lists parts := by
    intro parts writing hsound ih list hlist element helement
    rcases List.mem_append.1 hlist with hlist | hlist
    · rcases List.mem_flatMap.1 hlist with ⟨part, hpart, hlist⟩
      rcases ih part hpart list hlist element helement with ⟨helementSound, hsubset⟩
      refine ⟨helementSound, fun other hother => List.mem_append_left _ ?_⟩
      exact List.mem_flatMap.2 ⟨part, hpart, hsubset hother⟩
    · cases writing with
      | literal spacing breaks =>
          cases hlist
      | appended name =>
          rcases List.mem_singleton.1 hlist with rfl
          refine ⟨hsound element helement, fun other hother => List.mem_append_left _ ?_⟩
          exact List.mem_flatMap.2 ⟨element, helement, hother⟩
  induction h with
  | text t =>
      intro list hlist
      cases hlist
  | var _ hnone _ =>
      intro list hlist
      simp only [lists, rowLists_eq_flatMap, List.mem_flatMap] at hlist
      rcases hlist with ⟨part, hpart, hlist⟩
      rw [hnone part hpart] at hlist
      cases hlist
  | get name t =>
      intro list hlist
      cases hlist
  | collection hsound _ ih =>
      simpa only [lists, rowLists_eq_flatMap] using hwriting _ _ hsound ih
  | build _ hsize hsound _ _ ih =>
      simpa only [lists, rowLists_eq_flatMap, hsize, List.nil_append] using hwriting _ _ hsound ih
  | rand _ hlower _ hupper _ _ =>
      intro list hlist
      simp [hlower, hupper] at hlist

end Sound

/-- Arguments that came out as texts bring no lists. -/
theorem HaveTexts.lists_eq_nil {row : List Expansion} {texts : List String}
    (h : HaveTexts row texts) (hsound : ∀ part ∈ row, part.Sound) :
    ∀ part ∈ row, part.lists = [] := by
  intro part hpart
  exact (hsound part hpart).lists_eq_nil_iff.2 (h.isCommand_eq_false part hpart)

end Expansion

/-! ## Runs keep to this -/

namespace Expands

variable {G : Type} [WordSource G] {s s' : Session G} {tokens : List Token} {row : List Expansion}

/-- A drawn writing fits the number of elements that it was drawn for. -/
theorem fits_of_roll {count : Nat} {writing : Writing}
    (h : (Compiling.roll (drawWriting count) : Compiling Cause G Writing) s = .ok writing s') :
    writing.Fits count := by
  rcases Compiling.roll_eq_ok.1 h with ⟨dice, hdraw, -⟩
  exact fits_of_drawWriting hdraw

/-- From a session in which names stand for text, trees are sound and names still stand for text. -/
theorem sound_and_settled (h : Expands tokens s row s') (hs : s.Settled) :
    (∀ expansion ∈ row, expansion.Sound) ∧ s'.Settled := by
  induction h with
  | nil s =>
      exact ⟨by simp, hs⟩
  | literal _ ih =>
      rcases ih hs with ⟨hsound, hs'⟩
      exact ⟨List.forall_mem_cons.2 ⟨.text _, hsound⟩, hs'⟩
  | var _ htexts hintroduce _ ihparts ih =>
      rcases ihparts hs with ⟨hparts, hs₁⟩
      rcases ih ((hs₁.introduce hintroduce).record _) with ⟨hsound, hs'⟩
      exact ⟨List.forall_mem_cons.2 ⟨.var hparts (htexts.lists_eq_nil hparts), hsound⟩, hs'⟩
  | @get name value _ _ _ _ hvalue _ ih =>
      rcases ih (hs.record _) with ⟨hsound, hs'⟩
      refine ⟨List.forall_mem_cons.2 ⟨?_, hsound⟩, hs'⟩
      have hplain := hs _ _ hvalue
      cases value with
      | literal t =>
          exact .get name t
      | command command =>
          -- what a name stands for is text
          cases hplain
  | collection _ hwriting _ ihparts ih =>
      rcases ihparts hs with ⟨hparts, hs₁⟩
      rcases ih ((hs₁.roll hwriting).record _) with ⟨hsound, hs'⟩
      exact ⟨List.forall_mem_cons.2 ⟨.collection hparts (fits_of_roll hwriting), hsound⟩, hs'⟩
  | build _ htext _ _ hwriting _ ihsized ihslots ih =>
      rcases ihsized hs with ⟨hsized, hs₁⟩
      rcases ihslots hs₁ with ⟨hslots, hs₂⟩
      rcases ih ((hs₂.roll hwriting).record _) with ⟨hsound, hs'⟩
      refine ⟨List.forall_mem_cons.2 ⟨.build ?_ ?_ hslots (fits_of_roll hwriting), hsound⟩, hs'⟩
      · exact hsized _ (List.mem_singleton_self _)
      · exact htext.lists_eq_nil hsized _ (List.mem_singleton_self _)
  | @rand _ _ _ _ _ _ _ _ _ _ _ _ first second _ _ _ htexts hvalue _ ihlow ihhigh ih =>
      rcases ihlow hs with ⟨hlow, hs₁⟩
      rcases ihhigh hs₁ with ⟨hhigh, hs₂⟩
      rcases ih ((hs₂.number hvalue).record _) with ⟨hsound, hs'⟩
      -- both bounds came out as texts, so neither brings lists
      have hboth : ∀ part ∈ [first, second], part.Sound :=
        List.forall_mem_cons.2 ⟨hlow _ (List.mem_singleton_self _), hhigh⟩
      have hnone := htexts.lists_eq_nil hboth
      refine ⟨List.forall_mem_cons.2 ⟨.rand ?_ ?_ ?_ ?_, hsound⟩, hs'⟩
      · exact hboth _ (by simp)
      · exact hnone _ (by simp)
      · exact hboth _ (by simp)
      · exact hnone _ (by simp)

end Expands

end TemplateVariants
