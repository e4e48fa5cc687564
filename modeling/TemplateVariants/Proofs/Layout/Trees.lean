import TemplateVariants.Proofs.Expansion.Relation
import TemplateVariants.Proofs.Layout.Texts

/-!
# Trees that stay on their line

Line feeds come from the template and from the lines around it, never from what a command turns
into; nor is that ever empty. `Expands.oneLine` says so of whole runs, since what names stand for
stays on its line too.
-/

namespace TemplateVariants

open ListForm Randomness

/-! ## Trees -/

namespace Expansion

/-- Every text in the tree stays on its line. -/
inductive OneLine : Expansion → Prop where
  | text {t : String} :
      Text.OneLine t → OneLine (.text t)
  | var {name identifier : String} {candidates : List Expansion} :
      (∀ part ∈ candidates, OneLine part) → Text.OneLine identifier →
      OneLine (.var name candidates identifier)
  | get {name t : String} :
      Text.OneLine t → OneLine (.get name (.literal t))
  | collection {elements : List Expansion} {writing : Writing} :
      (∀ part ∈ elements, OneLine part) → writing.OneLine →
      OneLine (.collection elements writing)
  | build {size : Expansion} {slots : List Expansion} {writing : Writing} :
      OneLine size → (∀ part ∈ slots, OneLine part) → writing.OneLine →
      OneLine (.build size slots writing)
  | rand {kind : NumberKind} {lower upper : Expansion} {value : String} :
      OneLine lower → OneLine upper → Text.OneLine value →
      OneLine (.rand kind lower upper value)

end Expansion

/-- What an expansion leaves on a line: text that stays on it, or the look-up of a word. -/
inductive Token.OneLine : Token → Prop where
  | text {t : String} : Text.OneLine t → OneLine (.literal t)
  | lookUp {name : String} : Body.IsWord name → OneLine (.command (.get name))

theorem Text.OneLine.token {t : String} (h : Text.OneLine t) : ∀ token ∈ [Token.literal t],
    token.OneLine := by
  intro token htoken
  rw [List.mem_singleton.1 htoken]
  exact .text h

namespace ListForm

theorem oneLine_separator {spacing : String} (h : '\n' ∉ spacing.toList) (isBreak : Bool) :
    Text.OneLine (separator spacing isBreak) := by
  unfold separator
  split
  · have hopen : Text.OneLine "]" := ⟨by decide, by decide⟩
    exact (((hopen.append_left h).append_left (by decide)).append_left h).append_left (by decide)
  · have hcomma : Text.OneLine "," := ⟨by decide, by decide⟩
    exact hcomma.append_left h

/-- A list stays on its line, if its elements do. -/
theorem oneLine_inline {writing : Writing} {elements : List Line} (h : writing.OneLine)
    (helements : ∀ line ∈ elements, ∀ token ∈ line, token.OneLine) :
    writing.inline elements ≠ [] ∧ ∀ token ∈ writing.inline elements, token.OneLine := by
  have hopen : (Token.literal "[").OneLine := .text ⟨by decide, by decide⟩
  have hclose : (Token.literal "]").OneLine := .text ⟨by decide, by decide⟩
  cases writing with
  | appended name =>
      exact ⟨by simp [Writing.inline], by simpa [Writing.inline] using Token.OneLine.lookUp h⟩
  | literal spacing breaks =>
      unfold Writing.inline literal
      cases elements with
      | nil =>
          exact ⟨by simp, by simpa using ⟨hopen, hclose⟩⟩
      | cons first rest =>
          rcases List.forall_mem_cons.1 helements with ⟨hfirst, hrest⟩
          refine ⟨by simp, List.forall_mem_cons.2 ⟨hopen, ?_⟩⟩
          refine List.forall_mem_append.2 ⟨List.forall_mem_append.2 ⟨hfirst, ?_⟩,
            by simpa using hclose⟩
          intro token htoken
          rcases List.mem_flatMap.1 htoken with ⟨⟨mark, line⟩, hmem, htoken⟩
          have hpair := List.of_mem_zip hmem
          rcases List.mem_cons.1 htoken with rfl | htoken
          · rcases List.mem_map.1 hpair.1 with ⟨isBreak, -, rfl⟩
            exact .text (oneLine_separator h isBreak)
          · exact hrest line hpair.2 token htoken

end ListForm

/-- A line with a plain text is made of texts. -/
theorem Line.exists_texts_of_plainText? {line : Line} {text : String}
    (h : line.plainText? = some text) :
    ∃ texts : List String, line = texts.map Token.literal ∧ text = String.join texts := by
  rcases Option.map_eq_some_iff.1 h with ⟨texts, htexts, rfl⟩
  refine ⟨texts, ?_, rfl⟩
  clear h
  induction line generalizing texts with
  | nil =>
      cases htexts
      rfl
  | cons token line ih =>
      rw [List.mapM_cons] at htexts
      rcases Option.bind_eq_some_iff.1 htexts with ⟨first, hfirst, htexts⟩
      rcases Option.bind_eq_some_iff.1 htexts with ⟨rest, hrest, hcons⟩
      cases hcons
      cases token with
      | literal t =>
          cases hfirst
          rw [List.map_cons, ← ih rest hrest]
      | command command =>
          cases hfirst

namespace Expansion

/-- Something takes the place of the token, and it stays on its line. -/
theorem OneLine.result {expansion : Expansion} (h : expansion.OneLine) :
    expansion.result ≠ [] ∧ ∀ token ∈ expansion.result, token.OneLine := by
  have hlist :
      ∀ (parts : List Expansion) (writing : Writing), writing.OneLine →
        (∀ part ∈ parts, part.result ≠ [] ∧ ∀ token ∈ part.result, token.OneLine) →
        writing.inline (parts.map Expansion.result) ≠ [] ∧
          ∀ token ∈ writing.inline (parts.map Expansion.result), token.OneLine := by
    intro parts writing hwriting ih
    refine oneLine_inline hwriting fun line hline => ?_
    rcases List.mem_map.1 hline with ⟨part, hpart, rfl⟩
    exact (ih part hpart).2
  induction h with
  | text ht =>
      exact ⟨by simp [Expansion.result], ht.token⟩
  | var _ hidentifier _ =>
      exact ⟨by simp [Expansion.result], hidentifier.token⟩
  | get ht =>
      exact ⟨by simp [Expansion.result], ht.token⟩
  | collection _ hwriting ih =>
      simpa [Expansion.result] using hlist _ _ hwriting ih
  | build _ _ hwriting _ ih =>
      simpa [Expansion.result] using hlist _ _ hwriting ih
  | rand _ _ hvalue _ _ =>
      exact ⟨by simp [Expansion.result], hvalue.token⟩

/-- The text of an argument stays on its line. -/
theorem OneLine.plainText {expansion : Expansion} {text : String} (h : expansion.OneLine)
    (htext : Line.plainText? expansion.result = some text) : Text.OneLine text := by
  rcases h.result with ⟨hne, htokens⟩
  rcases Line.exists_texts_of_plainText? htext with ⟨texts, hline, rfl⟩
  rw [hline] at hne htokens
  refine .join (fun hnil => hne (by rw [hnil]; rfl)) fun t ht => ?_
  cases htokens _ (List.mem_map_of_mem ht) with
  | text hone =>
      exact hone

/-- The texts of arguments stay on their lines. -/
theorem HaveTexts.oneLine {row : List Expansion} {texts : List String} (h : HaveTexts row texts)
    (hrow : ∀ part ∈ row, part.OneLine) : ∀ text ∈ texts, Text.OneLine text := by
  intro text htext
  have hmem : some text ∈ row.map fun part => Line.plainText? part.result := by
    rw [h]
    exact List.mem_map_of_mem htext
  rcases List.mem_map.1 hmem with ⟨part, hpart, hplain⟩
  exact (hrow part hpart).plainText hplain

end Expansion

/-! ## Runs -/

/-- What names stand for stays on its line. -/
def Session.OneLine {G : Type} (s : Session G) : Prop :=
  ∀ name value, s.lookup? name = some value → ∃ t, value = .literal t ∧ Text.OneLine t

section Runs

variable {G : Type} [WordSource G]

omit [WordSource G] in
theorem Session.OneLine.of_bindings_eq {s s' : Session G} (h : s.OneLine)
    (heq : s'.bindings = s.bindings) : s'.OneLine := by
  intro name value hvalue
  refine h name value ?_
  simpa [Session.lookup?, heq] using hvalue

/-- An identifier that a name gets stays on its line. -/
theorem Compiling.oneLine_of_introduce {name identifier : String} {candidates : List String}
    {s s' : Session G}
    (h : (introduce name candidates : Compiling Cause G String) s = .ok identifier s')
    (hname : Text.OneLine name) (hcandidates : ∀ candidate ∈ candidates, Text.OneLine candidate)
    (hs : s.OneLine) : Text.OneLine identifier ∧ s'.OneLine := by
  have hlookup := lookup?_of_introduce h
  rcases introduce_eq_ok.1 h with ⟨dice, hdraw, -⟩
  have hdrawn := ((Fresh.gives_identifier _ _ _).ok hdraw).1
  have hidentifier := hdrawn.oneLine hname hcandidates
  refine ⟨hidentifier, fun other value hvalue => ?_⟩
  rw [hlookup] at hvalue
  split at hvalue
  · cases hvalue
    exact ⟨identifier, rfl, hidentifier⟩
  · exact hs other value hvalue

/-- A drawn number is written as one. -/
theorem Compiling.isNumber_of_number {kind : NumberKind} {lower upper value : String}
    {s s' : Session G}
    (h : (number kind lower upper : Compiling Cause G String) s = .ok value s') :
    Numeral.IsNumber value := by
  cases kind with
  | integer =>
      simp only [number, bind_eq_ok, ofExcept_eq_ok] at h
      rcases h with ⟨low, s₁, ⟨-, rfl⟩, high, s₂, ⟨-, rfl⟩, h⟩
      split at h
      · simp at h
      · simp only [bind_eq_ok, pure_eq_ok] at h
        rcases h with ⟨n, s₁, -, rfl, -⟩
        exact Numeral.isNumber_toString n
  | real =>
      simp only [number, bind_eq_ok, ofExcept_eq_ok] at h
      rcases h with ⟨low, s₁, ⟨-, rfl⟩, high, s₂, ⟨-, rfl⟩, x, s₃, -, h⟩
      split at h
      · rw [← (pure_eq_ok.1 h).1]
        exact Numeral.isNumber_floatLiteral _
      · simp at h

/-- What written tokens turn into stays on its line, and so does what names stand for. -/
theorem Expands.oneLine {tokens : List Token} {s s' : Session G} {row : List Expansion}
    (h : Expands tokens s row s')
    (htokens : ∀ token ∈ tokens, token.isCommand = true → token.Written) (hs : s.OneLine) :
    List.Forall₂ (fun token expansion => token.Written → expansion.OneLine) tokens row ∧
      s'.OneLine := by
  -- The trees of arguments stay on their line, since all arguments are written.
  have hall :
      ∀ {args : List Token} {parts : List Expansion}, (∀ token ∈ args, token.Written) →
        List.Forall₂ (fun token expansion => token.Written → expansion.OneLine) args parts →
        ∀ part ∈ parts, part.OneLine := by
    intro args parts hargs hparts
    induction hparts with
    | nil =>
        simp
    | cons hfirst _ ih =>
        rcases List.forall_mem_cons.1 hargs with ⟨harg, hargs⟩
        exact List.forall_mem_cons.2 ⟨hfirst harg, ih hargs⟩
  have hcommands :
      ∀ {args : List Token}, (∀ token ∈ args, token.Written) →
        ∀ token ∈ args, token.isCommand = true → token.Written :=
    fun hargs token htoken _ => hargs token htoken
  induction h with
  | nil s =>
      exact ⟨.nil, hs⟩
  | literal _ ih =>
      rcases List.forall_mem_cons.1 htokens with ⟨-, hrest⟩
      rcases ih hrest hs with ⟨hrow, hs'⟩
      exact ⟨.cons (fun hwritten => .text hwritten.isWord.oneLine) hrow, hs'⟩
  | @var _ _ _ _ texts _ _ _ _ _ _ _ htexts hintroduce _ ihparts ih =>
      rcases List.forall_mem_cons.1 htokens with ⟨hcommand, hrest⟩
      cases hcommand rfl with
      | var hname hcandidates =>
          rcases ihparts (hcommands hcandidates) hs with ⟨hparts, hs₁⟩
          have hones := hall hcandidates hparts
          have htextsOne := htexts.oneLine hones
          have hcandidateTexts :
              ∀ candidate ∈ texts.filterMap Fresh.candidate?, Text.OneLine candidate := by
            intro candidate hcandidate
            rcases List.mem_filterMap.1 hcandidate with ⟨text, htext, hsome⟩
            exact Fresh.oneLine_of_candidate? (htextsOne text htext).2 hsome
          rcases Compiling.oneLine_of_introduce hintroduce hname.oneLine hcandidateTexts hs₁ with
            ⟨hidentifier, hs₂⟩
          rcases ih hrest (hs₂.of_bindings_eq rfl) with ⟨hrow, hs'⟩
          exact ⟨.cons (fun _ => .var hones hidentifier) hrow, hs'⟩
  | get hvalue _ ih =>
      rcases List.forall_mem_cons.1 htokens with ⟨-, hrest⟩
      rcases ih hrest (hs.of_bindings_eq rfl) with ⟨hrow, hs'⟩
      rcases hs _ _ hvalue with ⟨t, rfl, ht⟩
      exact ⟨.cons (fun _ => .get ht) hrow, hs'⟩
  | collection _ hwriting _ ihparts ih =>
      rcases List.forall_mem_cons.1 htokens with ⟨hcommand, hrest⟩
      cases hcommand rfl with
      | collection helements =>
          rcases ihparts (hcommands helements) hs with ⟨hparts, hs₁⟩
          rcases Compiling.roll_eq_ok.1 hwriting with ⟨dice, hdraw, rfl⟩
          have hwritingOne := ((gives_drawWriting _).ok hdraw).1.oneLine
          rcases ih hrest (hs₁.of_bindings_eq rfl) with ⟨hrow, hs'⟩
          exact ⟨.cons (fun _ => .collection (hall helements hparts) hwritingOne) hrow, hs'⟩
  | @build size element _ _ count _ _ _ _ _ _ _ _ _ _ _ _ _ hwriting _ ihsized ihslots ih =>
      rcases List.forall_mem_cons.1 htokens with ⟨hcommand, hrest⟩
      cases hcommand rfl with
      | build hsize _ helement =>
          have hsizes := List.forall_mem_singleton.2 hsize
          have hcopies : ∀ token ∈ List.replicate count element, token.Written := by
            intro token htoken
            rw [List.eq_of_mem_replicate htoken]
            exact helement
          rcases ihsized (hcommands hsizes) hs with ⟨hsized, hs₁⟩
          rcases ihslots (hcommands hcopies) hs₁ with ⟨hslots, hs₂⟩
          rcases Compiling.roll_eq_ok.1 hwriting with ⟨dice, hdraw, rfl⟩
          have hwritingOne := ((gives_drawWriting _).ok hdraw).1.oneLine
          rcases ih hrest (hs₂.of_bindings_eq rfl) with ⟨hrow, hs'⟩
          exact ⟨.cons (fun _ => .build (hall hsizes hsized _ (List.mem_singleton_self _))
            (hall hcopies hslots) hwritingOne) hrow, hs'⟩
  | rand _ _ _ hvalue _ ihlow ihhigh ih =>
      rcases List.forall_mem_cons.1 htokens with ⟨hcommand, hrest⟩
      cases hcommand rfl with
      | rand hlower _ hupper _ =>
          have hlowers := List.forall_mem_singleton.2 hlower
          have huppers := List.forall_mem_singleton.2 hupper
          rcases ihlow (hcommands hlowers) hs with ⟨hlow, hs₁⟩
          rcases ihhigh (hcommands huppers) hs₁ with ⟨hhigh, hs₂⟩
          have hvalueOne := (Compiling.isNumber_of_number hvalue).oneLine
          rcases Compiling.number_eq_ok hvalue with ⟨dice, rfl⟩
          rcases ih hrest (hs₂.of_bindings_eq rfl) with ⟨hrow, hs'⟩
          exact ⟨.cons (fun _ => .rand (hall hlowers hlow _ (List.mem_singleton_self _))
            (hall huppers hhigh _ (List.mem_singleton_self _)) hvalueOne) hrow, hs'⟩

end Runs

end TemplateVariants
