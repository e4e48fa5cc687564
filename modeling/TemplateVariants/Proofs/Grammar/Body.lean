import Mathlib.Data.List.TakeWhile
import TemplateVariants.Proofs.Grammar.Braces
import TemplateVariants.Proofs.Reading

/-!
# The grammar of command bodies

The text of a command is made of words and groups, with blanks around them. `Body.Laid pieces s` says
so of a text and its pieces: a word is as long as it can be, and a group is balanced. A text has
pieces exactly if its braces are balanced, and then they are the only ones it has. The tokens of a
text are read off its pieces, one for each (`Body.tokens_follow_grammar`).
-/

namespace TemplateVariants

/-- The text stands as a word in the token, at some depth. -/
inductive Token.Holds : Token → String → Prop where
  | text (t : String) :
      Holds (.literal t) t
  | arg {command : Command} {arg : Token} {t : String} :
      arg ∈ command.args →
      Holds arg t →
      Holds (.command command) t

/-- The arguments of a written command are written. -/
theorem Token.Written.of_mem_args {command : Command} (h : (Token.command command).Written) :
    ∀ arg ∈ command.args, arg.Written := by
  have hflag : ∀ flag : String, flag ≠ "" → flag.toList.all Body.isWordChar = true →
      (Token.literal flag).Written := by
    intro flag hne hall
    exact .word ⟨hne, List.all_eq_true.1 hall⟩
  cases h with
  | var hname hcandidates =>
      exact List.forall_mem_cons.2 ⟨.word hname, hcandidates⟩
  | get hname =>
      exact List.forall_mem_singleton.2 (.word hname)
  | collection helements =>
      exact helements
  | build hsize _ helement =>
      have hbuild := hflag Command.buildFlag (by decide) (by decide)
      exact List.forall_mem_cons.2 ⟨hbuild, List.forall_mem_cons.2
        ⟨hsize, List.forall_mem_singleton.2 helement⟩⟩
  | @rand kind _ _ hlower _ hupper _ =>
      have hkind : (Token.literal kind.flag).Written := by
        cases kind with
        | integer =>
            exact hflag _ (by decide) (by decide)
        | real =>
            exact hflag _ (by decide) (by decide)
      exact List.forall_mem_cons.2 ⟨hkind, List.forall_mem_cons.2
        ⟨hlower, List.forall_mem_singleton.2 hupper⟩⟩

/-- All that a written token holds are words. -/
theorem Token.Written.isWord_of_holds {token : Token} {t : String} (h : token.Written)
    (hholds : token.Holds t) : Body.IsWord t := by
  induction hholds with
  | text t =>
      exact h.isWord
  | arg harg _ ih =>
      exact ih (h.of_mem_args _ harg)

namespace Body

/-! ## Pieces -/

/-- What the text of a command is made of: words, and groups in braces. -/
inductive Piece where
  | word (text : List Char)
  | group (inner : List Char)
  deriving DecidableEq

/-- The text is made of the pieces in their order, with blanks between and around them. -/
inductive Laid : List Piece → List Char → Prop where
  | nil :
      Laid [] []
  | blank {pieces : List Piece} {c : Char} {s : List Char} :
      Text.isBlank c = true →
      Laid pieces s →
      Laid pieces (c :: s)
  | word {pieces : List Piece} {w s : List Char} :
      w ≠ [] →
      (∀ c ∈ w, isWordChar c = true) →
      (∀ c ∈ s.head?, isWordChar c = false) →
      Laid pieces s →
      Laid (.word w :: pieces) (w ++ s)
  | group {pieces : List Piece} {inner s : List Char} :
      Balanced inner →
      Laid pieces s →
      Laid (.group inner :: pieces) ('\x7b' :: (inner ++ '\x7d' :: s))

/-- The token is read off the piece. -/
inductive Piece.Reads : Piece → Token → Prop where
  | word {w : List Char} :
      Reads (.word w) (.literal (String.ofList w))
  | group {inner : List Char} {command : Command} :
      commandOf inner = .ok command →
      Reads (.group inner) (.command command)

/-! ## Characters -/

theorem isWordChar_iff {c : Char} :
    isWordChar c = true ↔ Text.isBlank c = false ∧ c ≠ '\x7b' ∧ c ≠ '\x7d' := by
  simp [isWordChar, and_assoc]

theorem isBlank_open : Text.isBlank '\x7b' = false := by decide

theorem isBlank_close : Text.isBlank '\x7d' = false := by decide

/-- Blanks and the characters of words are no braces. -/
theorem ne_brace_of_isBlank {c : Char} (h : Text.isBlank c = true) : c ≠ '\x7b' ∧ c ≠ '\x7d' := by
  constructor
  · rintro rfl
    rw [isBlank_open] at h
    cases h
  · rintro rfl
    rw [isBlank_close] at h
    cases h

theorem balanced_of_word {w : List Char} (h : ∀ c ∈ w, isWordChar c = true) : Balanced w :=
  balanced_of_forall_ne fun c hc => (isWordChar_iff.1 (h c hc)).2

/-- A run of word characters that ends there is what the reader takes as a word. -/
theorem takeWhile_word {w s : List Char} (hw : ∀ c ∈ w, isWordChar c = true)
    (hs : ∀ c ∈ s.head?, isWordChar c = false) :
    (w ++ s).takeWhile isWordChar = w ∧ (w ++ s).dropWhile isWordChar = s := by
  rw [List.takeWhile_append_of_pos hw, List.dropWhile_append_of_pos hw]
  cases s with
  | nil =>
      simp
  | cons c s =>
      have hc : isWordChar c = false := hs c rfl
      constructor
      · rw [List.takeWhile_cons_of_neg (by simp [hc]), List.append_nil]
      · rw [List.dropWhile_cons_of_neg (by simp [hc])]

/-! ## What the first character says of the pieces -/

namespace Laid

variable {pieces : List Piece} {c : Char} {s : List Char}

theorem nil_iff : Laid pieces [] ↔ pieces = [] := by
  constructor
  · intro h
    generalize hs : ([] : List Char) = s at h
    cases h with
    | nil =>
        rfl
    | blank _ _ =>
        cases hs
    | word hne _ _ _ =>
        exact absurd (List.append_eq_nil_iff.1 hs.symm).1 hne
    | group _ _ =>
        cases hs
  · rintro rfl
    exact .nil

theorem blank_iff (hc : Text.isBlank c = true) : Laid pieces (c :: s) ↔ Laid pieces s := by
  constructor
  · intro h
    generalize hcs : c :: s = cs at h
    cases h with
    | nil =>
        cases hcs
    | blank _ h =>
        cases hcs
        exact h
    | @word _ w _ hne hw _ _ =>
        -- a blank is no character of a word
        cases w with
        | nil =>
            exact absurd rfl hne
        | cons d w =>
            cases hcs
            have hd := (isWordChar_iff.1 (hw c List.mem_cons_self)).1
            rw [hc] at hd
            cases hd
    | group _ _ =>
        cases hcs
        exact absurd rfl (ne_brace_of_isBlank hc).1
  · exact .blank hc

theorem group_iff :
    Laid pieces ('\x7b' :: s) ↔
      ∃ inner rest more, s = inner ++ '\x7d' :: rest ∧ Balanced inner ∧
        pieces = .group inner :: more ∧ Laid more rest := by
  constructor
  · intro h
    generalize hcs : '\x7b' :: s = cs at h
    cases h with
    | nil =>
        cases hcs
    | blank hc _ =>
        cases hcs
        exact absurd rfl (ne_brace_of_isBlank hc).1
    | @word _ w _ hne hw _ _ =>
        cases w with
        | nil =>
            exact absurd rfl hne
        | cons d w =>
            cases hcs
            exact absurd rfl (isWordChar_iff.1 (hw _ List.mem_cons_self)).2.1
    | @group more inner rest hinner hrest =>
        cases hcs
        exact ⟨inner, rest, more, rfl, hinner, rfl, hrest⟩
  · rintro ⟨inner, rest, more, rfl, hinner, rfl, hrest⟩
    exact .group hinner hrest

/-- The group that the reader takes is the first piece. -/
theorem closeGroup_iff {inner rest : List Char} (h : closeGroup 0 [] s = some (inner, rest)) :
    Laid pieces ('\x7b' :: s) ↔ ∃ more, pieces = .group inner :: more ∧ Laid more rest := by
  rw [group_iff]
  constructor
  · rintro ⟨inner', rest', more, hs, hinner, rfl, hmore⟩
    rw [closeGroup_eq_some_iff.2 ⟨hs, hinner⟩] at h
    cases h
    exact ⟨more, rfl, hmore⟩
  · rintro ⟨more, rfl, hmore⟩
    rcases closeGroup_eq_some_iff.1 h with ⟨hs, hinner⟩
    exact ⟨inner, rest, more, hs, hinner, rfl, hmore⟩

/-- Nothing that a text is made of begins with a closing brace. -/
theorem not_close : ¬ Laid pieces ('\x7d' :: s) := by
  intro h
  generalize hcs : '\x7d' :: s = cs at h
  cases h with
  | nil =>
      cases hcs
  | blank hc _ =>
      cases hcs
      exact absurd rfl (ne_brace_of_isBlank hc).2
  | @word _ w _ hne hw _ _ =>
      cases w with
      | nil =>
          exact absurd rfl hne
      | cons d w =>
          cases hcs
          exact absurd rfl (isWordChar_iff.1 (hw _ List.mem_cons_self)).2.2
  | group _ _ =>
      cases hcs

theorem word_iff (hc : isWordChar c = true) :
    Laid pieces (c :: s) ↔
      ∃ more, pieces = .word (c :: s.takeWhile isWordChar) :: more ∧
        Laid more (s.dropWhile isWordChar) := by
  constructor
  · intro h
    generalize hcs : c :: s = cs at h
    cases h with
    | nil =>
        cases hcs
    | blank hblank _ =>
        cases hcs
        rw [(isWordChar_iff.1 hc).1] at hblank
        cases hblank
    | @word more w rest hne hw hrest hlaid =>
        cases w with
        | nil =>
            exact absurd rfl hne
        | cons d w =>
            rw [List.cons_append, List.cons.injEq] at hcs
            rcases hcs with ⟨rfl, rfl⟩
            have hboth := takeWhile_word (List.forall_mem_cons.1 hw).2 hrest
            refine ⟨more, ?_, ?_⟩
            · rw [hboth.1]
            · rw [hboth.2]
              exact hlaid
    | group _ _ =>
        cases hcs
        exact absurd rfl (isWordChar_iff.1 hc).2.1
  · rintro ⟨more, rfl, hlaid⟩
    have hword :
        Laid (.word (c :: s.takeWhile isWordChar) :: more)
          (c :: s.takeWhile isWordChar ++ s.dropWhile isWordChar) := by
      refine .word (List.cons_ne_nil _ _) ?_ ?_ hlaid
      · exact List.forall_mem_cons.2 ⟨hc, fun d hd => List.mem_takeWhile_imp hd⟩
      · intro d hd
        have hnot := List.head?_dropWhile_not isWordChar s
        rw [Option.mem_def.1 hd] at hnot
        simpa using hnot
    rwa [List.cons_append, List.takeWhile_append_dropWhile] at hword

/-- Blanks at the start do not matter. -/
theorem trimStart_iff : Laid pieces (Text.trimStart s) ↔ Laid pieces s := by
  unfold Text.trimStart
  induction s with
  | nil =>
      rfl
  | cons c s ih =>
      rw [List.dropWhile_cons]
      split
      · rename_i hc
        rw [ih, blank_iff hc]
      · rfl

/-! ## Pieces and braces -/

/-- A text is made of one list of pieces only. -/
theorem unique {pieces' : List Piece} (h : Laid pieces s) (h' : Laid pieces' s) :
    pieces = pieces' := by
  induction h generalizing pieces' with
  | nil =>
      exact (nil_iff.1 h').symm
  | blank hc _ ih =>
      exact ih ((blank_iff hc).1 h')
  | @word pieces w s hne hw hs _ ih =>
      cases w with
      | nil =>
          exact absurd rfl hne
      | cons c w =>
          rcases List.forall_mem_cons.1 hw with ⟨hc, hw⟩
          rw [List.cons_append] at h'
          rcases (word_iff hc).1 h' with ⟨more, rfl, hmore⟩
          have hboth := takeWhile_word hw hs
          rw [hboth.2] at hmore
          rw [hboth.1, ih hmore]
  | @group pieces inner s hinner _ ih =>
      -- the first piece of both is the group that the reader takes
      have hread : closeGroup 0 [] (inner ++ '\x7d' :: s) = some (inner, s) :=
        closeGroup_eq_some_iff.2 ⟨rfl, hinner⟩
      rcases (closeGroup_iff hread).1 h' with ⟨more, rfl, hmore⟩
      rw [ih hmore]

theorem balanced (h : Laid pieces s) : Balanced s := by
  induction h with
  | nil =>
      exact closes_nil.2 rfl
  | blank hc _ ih =>
      have hne := ne_brace_of_isBlank hc
      exact (closes_of_ne hne.1 hne.2).2 ih
  | word _ hw _ _ ih =>
      exact (balanced_append (balanced_of_word hw)).2 ih
  | group hinner _ ih =>
      exact (balanced_group_append hinner).2 ih

end Laid

/-- A balanced text is made of pieces. -/
theorem exists_laid {s : List Char} (h : Balanced s) : ∃ pieces, Laid pieces s := by
  -- a piece leaves less of the text, but not just its tail
  induction hlength : s.length using Nat.strong_induction_on generalizing s with
  | h n ih =>
      subst hlength
      cases s with
      | nil =>
          exact ⟨[], .nil⟩
      | cons c s =>
          by_cases hopen : c = '\x7b'
          · subst hopen
            have hs : Closes 1 s := closes_open.1 h
            rcases @Closes.exists_close 0 0 s hs with ⟨inner, rest, rfl, hinner, hrest⟩
            rcases ih rest.length (by simp; omega) hrest rfl with ⟨pieces, hpieces⟩
            exact ⟨.group inner :: pieces, .group hinner hpieces⟩
          · by_cases hclose : c = '\x7d'
            · subst hclose
              exact absurd h not_closes_close
            · have hs : Balanced s := (closes_of_ne hopen hclose).1 h
              by_cases hblank : Text.isBlank c = true
              · rcases ih s.length (by simp) hs rfl with ⟨pieces, hpieces⟩
                exact ⟨pieces, .blank hblank hpieces⟩
              · have hc : isWordChar c = true :=
                  isWordChar_iff.2 ⟨by simpa using hblank, hopen, hclose⟩
                have hrest : Balanced (s.dropWhile isWordChar) := by
                  have hword : Balanced (s.takeWhile isWordChar) :=
                    balanced_of_word fun d hd => List.mem_takeWhile_imp hd
                  rw [← balanced_append hword, List.takeWhile_append_dropWhile]
                  exact hs
                have hle := (List.dropWhile_sublist (l := s) isWordChar).length_le
                rcases ih (s.dropWhile isWordChar).length (by simp; omega) hrest rfl with
                  ⟨pieces, hpieces⟩
                exact ⟨_, (Laid.word_iff hc).2 ⟨pieces, rfl, hpieces⟩⟩

namespace Laid

/-- Two texts put together, unless a word would run on from the first into the second. -/
theorem append {pieces more : List Piece} {s t : List Char} (hs : Laid pieces s)
    (ht : Laid more t) (hfirst : ∀ c ∈ t.head?, isWordChar c = false) :
    Laid (pieces ++ more) (s ++ t) := by
  induction hs with
  | nil =>
      exact ht
  | blank hc _ ih =>
      exact .blank hc ih
  | @word pieces w s hne hw hs _ ih =>
      rw [List.append_assoc]
      refine .word hne hw ?_ ih
      intro c hc
      cases s with
      | nil =>
          exact hfirst c hc
      | cons d s =>
          exact hs c hc
  | @group pieces inner s hinner _ ih =>
      have hassoc : '\x7b' :: (inner ++ '\x7d' :: s) ++ t = '\x7b' :: (inner ++ '\x7d' :: (s ++ t)) := by
        simp
      rw [hassoc]
      exact .group hinner ih

/-- The groups among the pieces are those that the text has where no brace is open. -/
theorem mem_group_iff {pieces : List Piece} {inner s : List Char} (h : Laid pieces s) :
    .group inner ∈ pieces ↔ ∃ before after,
      s = before ++ '\x7b' :: (inner ++ '\x7d' :: after) ∧ Balanced before ∧ Balanced inner := by
  constructor
  · intro hmem
    induction h with
    | nil =>
        cases hmem
    | @blank _ c _ hc _ ih =>
        rcases ih hmem with ⟨before, after, rfl, hbefore, hinner⟩
        have hne := ne_brace_of_isBlank hc
        exact ⟨c :: before, after, rfl, (closes_of_ne hne.1 hne.2).2 hbefore, hinner⟩
    | @word _ w _ _ hw _ _ ih =>
        rcases List.mem_cons.1 hmem with hword | hmem
        · cases hword
        · rcases ih hmem with ⟨before, after, rfl, hbefore, hinner⟩
          have hboth := (balanced_append (balanced_of_word hw)).2 hbefore
          exact ⟨w ++ before, after, by simp, hboth, hinner⟩
    | @group _ first s hfirst _ ih =>
        rcases List.mem_cons.1 hmem with hgroup | hmem
        · cases hgroup
          exact ⟨[], s, rfl, closes_nil.2 rfl, hfirst⟩
        · rcases ih hmem with ⟨before, after, rfl, hbefore, hinner⟩
          have hboth := (balanced_group_append hfirst).2 hbefore
          exact ⟨'\x7b' :: (first ++ '\x7d' :: before), after, by simp, hboth, hinner⟩
  · rintro ⟨before, after, rfl, hbefore, hinner⟩
    -- what stands on both sides of the group has pieces, and with it these are all pieces
    have hafter : Balanced after := by
      rw [← balanced_group_append hinner, ← balanced_append hbefore]
      exact h.balanced
    rcases exists_laid hbefore with ⟨left, hleft⟩
    rcases exists_laid hafter with ⟨right, hright⟩
    have hall := hleft.append (.group hinner hright) (by simp [isWordChar])
    rw [h.unique hall]
    simp

end Laid

/-- A text is balanced exactly if it is made of pieces, and these are settled. -/
theorem balanced_iff {s : List Char} : Balanced s ↔ ∃! pieces, Laid pieces s := by
  constructor
  · intro h
    rcases exists_laid h with ⟨pieces, hlaid⟩
    exact ⟨pieces, hlaid, fun _ hother => hother.unique hlaid⟩
  · rintro ⟨pieces, hlaid, -⟩
    exact hlaid.balanced

/-! ## Tokens -/

/-- The tokens are read off the pieces of the text, one off each. -/
def ReadsAs (s : List Char) (tokens : List Token) : Prop :=
  ∃ pieces, Laid pieces s ∧ List.Forall₂ Piece.Reads pieces tokens

theorem readsAs_nil_iff {tokens : List Token} : ReadsAs [] tokens ↔ tokens = [] := by
  simp [ReadsAs, Laid.nil_iff]

theorem readsAs_trimStart_iff {s : List Char} {tokens : List Token} :
    ReadsAs (Text.trimStart s) tokens ↔ ReadsAs s tokens := by
  simp only [ReadsAs, Laid.trimStart_iff]

/-- Where the first piece is settled, so is the first token, if there is one. -/
theorem readsAs_iff {s rest : List Char} {piece : Piece} {tokens : List Token}
    (h : ∀ pieces, Laid pieces s ↔ ∃ more, pieces = piece :: more ∧ Laid more rest) :
    ReadsAs s tokens ↔ ∃ token more, piece.Reads token ∧ ReadsAs rest more ∧
      tokens = token :: more := by
  constructor
  · rintro ⟨pieces, hlaid, hreads⟩
    rcases (h pieces).1 hlaid with ⟨more, rfl, hmore⟩
    cases hreads with
    | cons hfirst hrest =>
        exact ⟨_, _, hfirst, ⟨more, hmore, hrest⟩, rfl⟩
  · rintro ⟨token, tokens, hfirst, ⟨more, hmore, hrest⟩, rfl⟩
    exact ⟨piece :: more, (h _).2 ⟨more, rfl, hmore⟩, .cons hfirst hrest⟩

theorem reads_word_iff {w : List Char} {token : Token} :
    (Piece.word w).Reads token ↔ token = .literal (String.ofList w) := by
  constructor
  · intro h
    cases h with
    | word =>
        rfl
  · rintro rfl
    exact .word

theorem reads_group_iff {inner : List Char} {token : Token} :
    (Piece.group inner).Reads token ↔
      ∃ command, commandOf inner = .ok command ∧ token = .command command := by
  constructor
  · intro h
    cases h with
    | group hcommand =>
        exact ⟨_, hcommand, rfl⟩
  · rintro ⟨command, hcommand, rfl⟩
    exact .group hcommand

/-- The reader gives what is read off the text, behind what it had. -/
theorem tokensFrom_eq_ok_iff {done tokens : List Token} {s : List Char} :
    tokensFrom done s = .ok tokens ↔ ∃ rest, ReadsAs s rest ∧ tokens = done.reverse ++ rest := by
  -- the first piece starts where the blanks end
  simp only [← readsAs_trimStart_iff (s := s)]
  fun_induction tokensFrom done s with
  | case1 done s hs =>
      simp [hs, readsAs_nil_iff, eq_comm]
  | case2 done s cs hgroup hs =>
      simp only [hs, reduceCtorEq, false_iff]
      rintro ⟨rest, ⟨pieces, hlaid, -⟩, -⟩
      rcases Laid.group_iff.1 hlaid with ⟨inner, rest, -, hcs, hinner, -⟩
      rw [closeGroup_eq_some_iff.2 ⟨hcs, hinner⟩] at hgroup
      cases hgroup
  | case3 done s cs inner rest hgroup cause hcause hs =>
      simp only [hs, reduceCtorEq, false_iff]
      rintro ⟨all, hall, -⟩
      rcases (readsAs_iff fun _ => Laid.closeGroup_iff hgroup).1 hall with ⟨token, -, htoken, -⟩
      rcases reads_group_iff.1 htoken with ⟨command, hcommand, -⟩
      rw [commandOf, hcause] at hcommand
      cases hcommand
  | case4 done s cs inner rest hgroup command hcommand hs ihinner ih =>
      refine Iff.trans ih ?_
      have hinner : commandOf inner = .ok command := hcommand
      simp [hs, readsAs_iff fun _ => Laid.closeGroup_iff hgroup, readsAs_trimStart_iff,
        reads_group_iff, hinner]
  | case5 done s cs hs hopen =>
      simp only [hs, reduceCtorEq, false_iff]
      rintro ⟨rest, ⟨pieces, hlaid, -⟩, -⟩
      exact Laid.not_close hlaid
  | case6 done s c cs hs hopen hclose word ih =>
      refine Iff.trans ih ?_
      have hc : isWordChar c = true := isWordChar_iff.2 ⟨Text.trimStart_head hs, hopen, hclose⟩
      simp [hs, readsAs_iff fun _ => Laid.word_iff hc, readsAs_trimStart_iff, reads_word_iff, word]

theorem tokens_eq_ok_iff {s : String} {tokens : List Token} :
    Body.tokens s = .ok tokens ↔ ReadsAs s.toList tokens := by
  rw [Body.tokens, tokensFrom_eq_ok_iff]
  simp

/-- Pieces can be read if and only if the groups among them spell commands. -/
theorem exists_reads_iff {pieces : List Piece} :
    (∃ tokens, List.Forall₂ Piece.Reads pieces tokens) ↔
      ∀ inner, .group inner ∈ pieces → ∃ command, commandOf inner = .ok command := by
  rw [exists_forall₂_iff]
  constructor
  · intro h inner hinner
    rcases h _ hinner with ⟨token, htoken⟩
    rcases reads_group_iff.1 htoken with ⟨command, hcommand, -⟩
    exact ⟨command, hcommand⟩
  · intro h piece hpiece
    cases piece with
    | word w =>
        exact ⟨_, .word⟩
    | group inner =>
        rcases h inner hpiece with ⟨command, hcommand⟩
        exact ⟨_, .group hcommand⟩

/-- The reader of command bodies takes exactly its grammar. It reads a text if and only if the
braces of the text are balanced and what stands in each group where no brace is open spells a
command. A text is balanced exactly if it is made of words and groups, which are settled then; the
tokens are read off these, each word giving itself and each group its command. All that the tokens
hold at any depth are words: not empty, and without a blank or a brace. -/
theorem tokens_follow_grammar (s : String) :
    ((∃ tokens, Body.tokens s = .ok tokens) ↔
      Balanced s.toList ∧
        ∀ before inner after,
          s.toList = before ++ '\x7b' :: (inner ++ '\x7d' :: after) →
          Balanced before →
          Balanced inner →
          ∃ command, commandOf inner = .ok command) ∧
    (Balanced s.toList ↔ ∃! pieces, Laid pieces s.toList) ∧
    (∀ tokens, Body.tokens s = .ok tokens ↔
      ∃ pieces, Laid pieces s.toList ∧ List.Forall₂ Piece.Reads pieces tokens) ∧
    ∀ tokens, Body.tokens s = .ok tokens →
      ∀ token ∈ tokens, ∀ text, token.Holds text → IsWord text := by
  refine ⟨?_, balanced_iff, fun _ => tokens_eq_ok_iff, ?_⟩
  · constructor
    · rintro ⟨tokens, htokens⟩
      rcases tokens_eq_ok_iff.1 htokens with ⟨pieces, hlaid, hreads⟩
      refine ⟨hlaid.balanced, ?_⟩
      intro before inner after hs hbefore hinner
      have hmem := hlaid.mem_group_iff.2 ⟨before, after, hs, hbefore, hinner⟩
      exact exists_reads_iff.1 ⟨tokens, hreads⟩ inner hmem
    · rintro ⟨hbalanced, hgroups⟩
      rcases exists_laid hbalanced with ⟨pieces, hlaid⟩
      have hcommands : ∀ inner, .group inner ∈ pieces → ∃ command, commandOf inner = .ok command := by
        intro inner hmem
        rcases hlaid.mem_group_iff.1 hmem with ⟨before, after, hs, hbefore, hinner⟩
        exact hgroups before inner after hs hbefore hinner
      rcases exists_reads_iff.2 hcommands with ⟨tokens, hreads⟩
      exact ⟨tokens, tokens_eq_ok_iff.2 ⟨pieces, hlaid, hreads⟩⟩
  · intro tokens htokens token htoken text hholds
    have hwritten := written_of_tokensFrom (by simp) htokens token htoken
    exact hwritten.isWord_of_holds hholds

end Body
end TemplateVariants
