import TemplateVariants.Proofs.Expansion.Sound
import TemplateVariants.Proofs.Grammar.Body

/-!
# Spellings of commands

A command is spelled by its name and its arguments, words as they are and nested commands in braces.
`Body.Spells` leaves the blanks open: between two words there has to be one, around braces and at the
ends there may be any. `Token.Built` says of a command that it was built from tokens, and so were the
commands nested in it.

A text is read as a command exactly if it is a spelling of it and the command was built and is made
of words (`Body.spellings_read_back`). `Command.spelling` is a spelling with one blank between words
and none at the ends.
-/

namespace TemplateVariants

open ListForm Randomness

/-- The tokens that spell a command: its name, and the arguments as written. -/
def Command.tokens (command : Command) : List Token :=
  .literal command.name :: command.args

/-- Text, or a command that was built from tokens of which the same holds. -/
inductive Token.Built : Token → Prop where
  | literal (text : String) :
      Built (.literal text)
  | command {tokens : List Token} {command : Command} :
      (∀ token ∈ tokens, Built token) →
      Command.ofTokens tokens = .ok command →
      Built (.command command)

/-- All texts in the token, at any depth, are words. -/
def Token.Wordy (token : Token) : Prop :=
  ∀ text, token.Holds text → Body.IsWord text

/-! ## Plain spellings -/

mutual

/-- A token with one blank between words. -/
def Token.spelling : Token → List Char
  | .literal text => text.toList
  | .command command => '\x7b' :: (command.spelling ++ ['\x7d'])

/-- A command with one blank between words, and none at the ends. -/
def Command.spelling : Command → List Char
  | .var name candidates => "var".toList ++ ' ' :: (name.toList ++ Line.spelling candidates)
  | .get name => "get".toList ++ ' ' :: name.toList
  | .collection elements => "collection".toList ++ Line.spelling elements
  | .build size element =>
      "collection".toList ++ ' ' :: (Command.buildFlag.toList ++
        ' ' :: (size.spelling ++ ' ' :: element.spelling))
  | .rand kind lower upper =>
      "rand".toList ++ ' ' :: (kind.flag.toList ++ ' ' :: (lower.spelling ++ ' ' :: upper.spelling))

/-- Tokens with a blank before each. -/
def Line.spelling : List Token → List Char
  | [] => []
  | token :: tokens => ' ' :: (token.spelling ++ Line.spelling tokens)

end

namespace Body

/-! ## Spellings -/

/-- The characters are blanks. -/
def Blanks (gap : List Char) : Prop :=
  ∀ c ∈ gap, Text.isBlank c = true

/-- The text spells the tokens: words as they are, and each command in braces. Blanks may stand
anywhere between and around them, and between two words there is one at least. A word ends where the
text starts if `afterWord` says so. -/
inductive Spells : Bool → List Token → List Char → Prop where
  | nil {afterWord : Bool} {gap : List Char} :
      Blanks gap →
      Spells afterWord [] gap
  | word {afterWord : Bool} {gap s : List Char} {text : String} {tokens : List Token} :
      Blanks gap →
      (afterWord = true → gap ≠ []) →
      Spells true tokens s →
      Spells afterWord (.literal text :: tokens) (gap ++ (text.toList ++ s))
  | command {afterWord : Bool} {gap inner s : List Char} {command : Command}
      {tokens : List Token} :
      Blanks gap →
      Spells false command.tokens inner →
      Spells false tokens s →
      Spells afterWord (.command command :: tokens) (gap ++ '\x7b' :: (inner ++ '\x7d' :: s))

theorem blanks_nil : Blanks [] := by
  intro c hc
  cases hc

theorem blanks_space : Blanks [' '] := by
  intro c hc
  rw [List.mem_singleton.1 hc]
  decide

/-- Blanks in front of a text do not change what is read off it. -/
theorem readsAs_blanks_append {gap s : List Char} {tokens : List Token} (hgap : Blanks gap) :
    ReadsAs (gap ++ s) tokens ↔ ReadsAs s tokens := by
  have htrim : Text.trimStart (gap ++ s) = Text.trimStart s :=
    List.dropWhile_append_of_pos hgap
  rw [← readsAs_trimStart_iff, htrim, readsAs_trimStart_iff]

namespace Spells

variable {afterWord : Bool} {tokens : List Token} {s : List Char}

/-- No word runs on into what is spelled behind a word. -/
theorem head?_of_afterWord (h : Spells true tokens s) :
    ∀ c ∈ s.head?, isWordChar c = false := by
  -- a blank ends a word, and so does a brace
  have hblank : ∀ {gap rest : List Char}, Blanks gap → gap ≠ [] →
      ∀ c ∈ (gap ++ rest).head?, isWordChar c = false := by
    intro gap rest hgap hne c hc
    cases gap with
    | nil =>
        exact absurd rfl hne
    | cons d gap =>
        cases hc
        have hd := hgap c List.mem_cons_self
        simp [isWordChar, hd]
  cases h with
  | nil hgap =>
      intro c hc
      have hmem : c ∈ s := List.mem_of_mem_head? hc
      simp [isWordChar, hgap c hmem]
  | word hgap hne _ =>
      exact hblank hgap (hne rfl)
  | @command _ gap inner rest _ _ hgap _ _ =>
      cases gap with
      | nil =>
          intro c hc
          cases hc
          rfl
      | cons d gap =>
          exact hblank hgap (List.cons_ne_nil d gap)

end Spells

end Body

/-! ## Commands that were built -/

namespace Command

variable {args tokens : List Token} {command : Command}

theorem args_of_ofBuildArgs (h : ofBuildArgs args = .ok command) :
    command.name = "collection" ∧ .literal buildFlag :: args = command.args := by
  unfold ofBuildArgs at h
  split at h
  · rename_i size element
    cases hsize : checkWord (fun text => (Argument.size text).map fun _ => ()) size with
    | error cause =>
        rw [hsize] at h
        cases h
    | ok u =>
        rw [hsize] at h
        cases h
        exact ⟨rfl, rfl⟩
  · cases h

theorem args_of_ofCollectionArgs (h : ofCollectionArgs args = .ok command) :
    command.name = "collection" ∧ args = command.args := by
  unfold ofCollectionArgs at h
  split at h
  · cases h
  · split at h
    · next hflag =>
        -- the flag is an argument as well
        rw [hflag]
        exact args_of_ofBuildArgs h
    · cases h
      exact ⟨rfl, rfl⟩
  · cases h
    exact ⟨rfl, rfl⟩

theorem args_of_ofVarArgs (h : ofVarArgs args = .ok command) :
    command.name = "var" ∧ args = command.args := by
  unfold ofVarArgs at h
  split at h
  · cases h
  · cases h
  · split at h
    · cases h
    · cases h
      exact ⟨rfl, rfl⟩

theorem args_of_ofGetArgs (h : ofGetArgs args = .ok command) :
    command.name = "get" ∧ args = command.args := by
  unfold ofGetArgs at h
  split at h
  · cases h
    exact ⟨rfl, rfl⟩
  · cases h
  · cases h

theorem args_of_ofRandArgs (h : ofRandArgs args = .ok command) :
    command.name = "rand" ∧ args = command.args := by
  unfold ofRandArgs at h
  split at h
  · rename_i flag lower upper
    split at h
    · cases h
    · rename_i kind hkind
      -- only the flag of the kind is read as this kind
      have hflag : flag = .literal kind.flag := by
        cases flag with
        | command _ =>
            cases hkind
        | literal text =>
            have htext : NumberKind.ofFlag? text = some kind := hkind
            unfold NumberKind.ofFlag? at htext
            split at htext
            · next heq =>
                cases htext
                rw [heq]
                rfl
            · split at htext
              · next heq =>
                  cases htext
                  rw [heq]
                  rfl
              · cases htext
      cases hlower : checkWord (Argument.checkBound kind) lower with
      | error cause =>
          rw [hlower] at h
          cases h
      | ok u =>
          cases hupper : checkWord (Argument.checkBound kind) upper with
          | error cause =>
              rw [hlower, hupper] at h
              cases h
          | ok v =>
              rw [hlower, hupper] at h
              cases h
              rw [hflag]
              exact ⟨rfl, rfl⟩
  · cases h

/-- A command keeps the tokens that it was built from. -/
theorem eq_tokens_of_ofTokens (h : ofTokens tokens = .ok command) : tokens = command.tokens := by
  have hkept : ∀ {word : String} {args : List Token},
      command.name = word ∧ args = command.args → .literal word :: args = command.tokens := by
    rintro word args ⟨rfl, rfl⟩
    rfl
  unfold ofTokens at h
  split at h
  · cases h
  · cases h
  · split at h
    · next hword =>
        rw [hword]
        exact hkept (args_of_ofVarArgs h)
    · split at h
      · next hword =>
          rw [hword]
          exact hkept (args_of_ofGetArgs h)
      · split at h
        · next hword =>
            rw [hword]
            exact hkept (args_of_ofCollectionArgs h)
        · split at h
          · next hword =>
              rw [hword]
              exact hkept (args_of_ofRandArgs h)
          · cases h

/-- A command that was built is built from its own tokens, and these were built. -/
theorem ofTokens_tokens (h : (Token.command command).Built) :
    ofTokens command.tokens = .ok command ∧ ∀ token ∈ command.tokens, token.Built := by
  cases h with
  | command htokens hcommand =>
      have hkept := eq_tokens_of_ofTokens hcommand
      rw [← hkept]
      exact ⟨hcommand, htokens⟩

/-- The tokens of a command hold words if the command does. -/
theorem wordy_tokens (h : (Token.command command).Wordy) :
    ∀ token ∈ command.tokens, token.Wordy := by
  intro token htoken text hholds
  rcases List.mem_cons.1 htoken with rfl | harg
  · cases hholds with
    | text _ =>
        -- the names of commands are words
        have hall :
            (["var", "get", "collection", "rand"].all fun name =>
              name ≠ "" && name.toList.all Body.isWordChar) = true := by
          decide
        have hname := List.all_eq_true.1 hall command.name (by cases command <;> simp [name])
        rw [Bool.and_eq_true, List.all_eq_true] at hname
        exact ⟨of_decide_eq_true hname.1, hname.2⟩
  · exact h text (.arg harg hholds)

end Command

namespace Body

/-! ## Reading a spelling -/

/-- What is spelled is read off the text again. -/
theorem Spells.readsAs {afterWord : Bool} {tokens : List Token} {s : List Char}
    (h : Spells afterWord tokens s) (hbuilt : ∀ token ∈ tokens, token.Built)
    (hwordy : ∀ token ∈ tokens, token.Wordy) : ReadsAs s tokens := by
  induction h with
  | @nil _ gap hgap =>
      have hread : ReadsAs (gap ++ []) [] := (readsAs_blanks_append hgap).2 (readsAs_nil_iff.2 rfl)
      rwa [List.append_nil] at hread
  | @word _ gap s text tokens hgap _ hrest ih =>
      rcases List.forall_mem_cons.1 hbuilt with ⟨-, hbuilt⟩
      rcases List.forall_mem_cons.1 hwordy with ⟨htext, hwordy⟩
      have hword : IsWord text := htext text (.text text)
      rcases ih hbuilt hwordy with ⟨pieces, hlaid, hreads⟩
      refine (readsAs_blanks_append hgap).2 ⟨.word text.toList :: pieces, ?_, ?_⟩
      · -- the word is as long as it can be, since what follows ends it
        have hne : text.toList ≠ [] := by
          intro hnil
          exact hword.1 (String.toList_eq_nil_iff.1 hnil)
        exact .word hne hword.2 hrest.head?_of_afterWord hlaid
      · have hpiece : (Piece.word text.toList).Reads (.literal (String.ofList text.toList)) := .word
        rw [String.ofList_toList] at hpiece
        exact .cons hpiece hreads
  | @command _ gap inner s command tokens hgap _ _ ihinner ih =>
      rcases List.forall_mem_cons.1 hbuilt with ⟨hcommand, hbuilt⟩
      rcases List.forall_mem_cons.1 hwordy with ⟨hwords, hwordy⟩
      rcases Command.ofTokens_tokens hcommand with ⟨hof, hargs⟩
      rcases ihinner hargs (Command.wordy_tokens hwords) with ⟨own, hown, hownReads⟩
      rcases ih hbuilt hwordy with ⟨pieces, hlaid, hreads⟩
      have hspelled : commandOf inner = .ok command := by
        have htokens : tokensFrom [] inner = .ok command.tokens :=
          tokensFrom_eq_ok_iff.2 ⟨command.tokens, ⟨own, hown, hownReads⟩, rfl⟩
        rw [commandOf, htokens]
        exact hof
      exact (readsAs_blanks_append hgap).2
        ⟨.group inner :: pieces, .group hown.balanced hlaid, .cons (.group hspelled) hreads⟩

/-- A spelling of a command is read as the command. -/
theorem command_of_spells {command : Command} {text : String}
    (hbuilt : (Token.command command).Built) (hwordy : (Token.command command).Wordy)
    (h : Spells false command.tokens text.toList) : Body.command text = .ok command := by
  rcases Command.ofTokens_tokens hbuilt with ⟨hof, htokens⟩
  have hreads := h.readsAs htokens (Command.wordy_tokens hwordy)
  have hread : tokensFrom [] text.toList = .ok command.tokens :=
    tokensFrom_eq_ok_iff.2 ⟨command.tokens, hreads, rfl⟩
  rw [Body.command, commandOf, hread]
  exact hof

/-! ## Where such commands come from -/

/-- The commands among the tokens of a text were built. -/
theorem built_of_tokensFrom {done tokens : List Token} {s : List Char}
    (hdone : ∀ token ∈ done, token.Built) (h : tokensFrom done s = .ok tokens) :
    ∀ token ∈ tokens, token.Built := by
  fun_induction tokensFrom done s generalizing tokens with
  | case1 =>
      cases h
      simpa using hdone
  | case2 =>
      cases h
  | case3 =>
      cases h
  | case4 done s cs inner rest hgroup command hcommand hs ihinner ih =>
      -- the group was read with nothing before it, and then the command was built from its tokens
      cases hread : tokensFrom [] inner with
      | error cause =>
          rw [hread] at hcommand
          cases hcommand
      | ok own =>
          rw [hread] at hcommand
          have hown := ihinner (by simp) hread
          exact ih (List.forall_mem_cons.2 ⟨.command hown hcommand, hdone⟩) h
  | case5 =>
      cases h
  | case6 =>
      rename_i ih
      exact ih (List.forall_mem_cons.2 ⟨.literal _, hdone⟩) h

/-- A command that was read was built, and it is made of words. -/
theorem built_of_command {text : String} {command : Command}
    (h : Body.command text = .ok command) :
    (Token.command command).Built ∧ (Token.command command).Wordy := by
  constructor
  · rw [Body.command, commandOf] at h
    cases hread : tokensFrom [] text.toList with
    | error cause =>
        rw [hread] at h
        cases h
    | ok tokens =>
        rw [hread] at h
        exact .command (built_of_tokensFrom (by simp) hread) h
  · intro word hholds
    exact (written_of_command h).isWord_of_holds hholds

/-- A text spells the tokens that are read off it, behind those that were read before. -/
theorem spells_of_tokensFrom {done tokens : List Token} {s : List Char} {afterWord : Bool}
    (h : tokensFrom done s = .ok tokens)
    (hafter : afterWord = true → ∀ c ∈ s.head?, isWordChar c = false) :
    ∃ rest, tokens = done.reverse ++ rest ∧ Spells afterWord rest s := by
  -- what stands before the first character that is not blank is the gap
  have hgap : ∀ s : List Char, Blanks (s.takeWhile Text.isBlank) :=
    fun s c hc => List.mem_takeWhile_imp hc
  have htrim : ∀ s : List Char, s.takeWhile Text.isBlank ++ Text.trimStart s = s :=
    fun s => List.takeWhile_append_dropWhile
  fun_induction tokensFrom done s generalizing tokens afterWord with
  | case1 done s hs =>
      cases h
      refine ⟨[], (List.append_nil _).symm, ?_⟩
      have hall := htrim s
      rw [hs, List.append_nil] at hall
      rw [← hall]
      exact .nil (hgap s)
  | case2 =>
      cases h
  | case3 =>
      cases h
  | case4 done s cs inner rest hgroup command hcommand hs ihinner ih =>
      cases hread : tokensFrom [] inner with
      | error cause =>
          rw [hread] at hcommand
          cases hcommand
      | ok own =>
          rw [hread] at hcommand
          have hown : Spells false command.tokens inner := by
            rcases @ihinner own false hread (fun hfalse => by cases hfalse) with
              ⟨same, hsame, hspells⟩
            rw [List.reverse_nil, List.nil_append] at hsame
            rw [← Command.eq_tokens_of_ofTokens hcommand, hsame]
            exact hspells
          rcases @ih tokens false h (fun hfalse => by cases hfalse) with ⟨more, rfl, hmore⟩
          refine ⟨.command command :: more, by simp, ?_⟩
          rw [← htrim s, hs, (closeGroup_eq_some_iff.1 hgroup).1]
          exact .command (hgap s) hown hmore
  | case5 =>
      cases h
  | case6 done s c cs hs hopen hclose word =>
      rename_i ih
      have hnext : ∀ d ∈ (cs.dropWhile isWordChar).head?, isWordChar d = false := by
        intro d hd
        have hnot := List.head?_dropWhile_not isWordChar cs
        rw [Option.mem_def.1 hd] at hnot
        simpa using hnot
      rcases ih h (fun _ => hnext) with ⟨more, rfl, hmore⟩
      refine ⟨.literal (String.ofList word) :: more, by simp, ?_⟩
      have hword : (String.ofList word).toList ++ cs.dropWhile isWordChar = Text.trimStart s := by
        rw [hs, String.toList_ofList, List.cons_append, List.takeWhile_append_dropWhile]
      have hspells :
          Spells afterWord (.literal (String.ofList word) :: more)
            (s.takeWhile Text.isBlank ++
              ((String.ofList word).toList ++ cs.dropWhile isWordChar)) := by
        refine .word (hgap s) (fun htrue hnil => ?_) hmore
        -- without a blank the word would have run on
        have hall := htrim s
        rw [hnil, List.nil_append, hs] at hall
        have hc := hafter htrue c (by rw [← hall]; rfl)
        rw [isWordChar_iff.2 ⟨Text.trimStart_head hs, hopen, hclose⟩] at hc
        cases hc
      rwa [hword, htrim s] at hspells

/-- A text spells the command that is read off it. -/
theorem spells_of_command {text : String} {command : Command}
    (h : Body.command text = .ok command) : Spells false command.tokens text.toList := by
  rw [Body.command, commandOf] at h
  cases hread : tokensFrom [] text.toList with
  | error cause =>
      rw [hread] at h
      cases h
  | ok tokens =>
      rw [hread] at h
      have hspelled : ∃ rest, tokens = [].reverse ++ rest ∧ Spells false rest text.toList :=
        spells_of_tokensFrom hread (fun hfalse => by cases hfalse)
      rcases hspelled with ⟨same, hsame, hspells⟩
      rw [List.reverse_nil, List.nil_append] at hsame
      rw [← Command.eq_tokens_of_ofTokens h, hsame]
      exact hspells

/-! ## Every command has a spelling -/

/-- Where a word would be in the way, a spelling is one anywhere. -/
theorem Spells.weaken {afterWord : Bool} {tokens : List Token} {s : List Char}
    (h : Spells true tokens s) : Spells afterWord tokens s := by
  cases h with
  | nil hgap =>
      exact .nil hgap
  | word hgap hne hrest =>
      exact .word hgap (fun _ => hne rfl) hrest
  | command hgap hinner hrest =>
      exact .command hgap hinner hrest

theorem Spells.space_word {afterWord : Bool} {text : String} {tokens : List Token} {s : List Char}
    (h : Spells true tokens s) :
    Spells afterWord (.literal text :: tokens) (' ' :: (text.toList ++ s)) :=
  .word blanks_space (fun _ => List.cons_ne_nil _ _) h

theorem Spells.first_word {text : String} {tokens : List Token} {s : List Char}
    (h : Spells true tokens s) : Spells false (.literal text :: tokens) (text.toList ++ s) :=
  .word blanks_nil (fun hafter => by cases hafter) h

mutual

theorem spells_spelling_cons (token : Token) {tokens : List Token} {s : List Char}
    (h : Spells true tokens s) : Spells true (token :: tokens) (' ' :: (token.spelling ++ s)) := by
  cases token with
  | literal text =>
      exact h.space_word
  | command command =>
      have hgroup :
          Spells true (.command command :: tokens)
            ([' '] ++ '\x7b' :: (command.spelling ++ '\x7d' :: s)) :=
        .command blanks_space (spells_spelling command) h.weaken
      simpa [Token.spelling] using hgroup

theorem spells_spelling (command : Command) : Spells false command.tokens command.spelling := by
  have hend : Spells true [] [] := .nil blanks_nil
  cases command with
  | var name candidates =>
      exact (spells_spelling_row candidates).space_word.first_word
  | get name =>
      have hname : Spells true [.literal name] (' ' :: (name.toList ++ [])) := hend.space_word
      rw [List.append_nil] at hname
      exact hname.first_word
  | collection elements =>
      exact (spells_spelling_row elements).first_word
  | build size element =>
      have hargs := spells_spelling_cons size (spells_spelling_cons element hend)
      rw [List.append_nil] at hargs
      exact hargs.space_word.first_word
  | rand kind lower upper =>
      have hargs := spells_spelling_cons lower (spells_spelling_cons upper hend)
      rw [List.append_nil] at hargs
      exact hargs.space_word.first_word

theorem spells_spelling_row (tokens : List Token) : Spells true tokens (Line.spelling tokens) := by
  cases tokens with
  | nil =>
      exact .nil blanks_nil
  | cons token tokens =>
      exact spells_spelling_cons token (spells_spelling_row tokens)

end

example :
    String.ofList (Command.collection [.literal "a", .command (.get "x")]).spelling =
      "collection a \x7bget x\x7d" := by
  decide

end Body

/-! ## Synthetic commands -/

namespace ListForm

/-- What a written list declares and asks for under its synthetic name. -/
def Synthetic (command : Command) : Prop :=
  ∃ name, command = .var name [] ∨ command = .get name

/-- A name of letters can be declared and asked for. -/
theorem built_of_drawn {name : String} {command : Command} (hlength : name.toList.length = nameLength)
    (hletters : ∀ c ∈ name.toList, c ∈ alphabet)
    (h : command = .var name [] ∨ command = .get name) :
    (Token.command command).Built ∧ (Token.command command).Wordy := by
  have hletter : ∀ c ∈ alphabet, (!c.isDigit) = true := List.all_eq_true.1 rfl
  have hword : ∀ c ∈ alphabet, Body.isWordChar c = true := List.all_eq_true.1 rfl
  have hname : Body.IsWord name := by
    refine ⟨?_, fun c hc => hword c (hletters c hc)⟩
    rintro rfl
    cases hlength
  have hdigit : Command.startsWithDigit name = false := by
    unfold Command.startsWithDigit
    split
    · next c cs hchars =>
        have hc : c ∈ name.toList := by
          rw [hchars]
          exact List.mem_cons_self
        have hnot := hletter c (hletters c hc)
        rwa [Bool.not_eq_true'] at hnot
    · rfl
  have hof : Command.ofTokens command.tokens = .ok command := by
    rcases h with rfl | rfl
    · simp [Command.ofTokens, Command.tokens, Command.name, Command.args, Command.ofVarArgs, hdigit]
    · simp [Command.ofTokens, Command.tokens, Command.name, Command.args, Command.ofGetArgs]
  have hargs : command.args = [.literal name] := by
    rcases h with rfl | rfl
    · rfl
    · rfl
  constructor
  · refine .command (fun token htoken => ?_) hof
    rw [Command.tokens, hargs] at htoken
    rcases List.mem_cons.1 htoken with rfl | htoken
    · exact .literal _
    · rw [List.mem_singleton.1 htoken]
      exact .literal _
  · intro text hholds
    cases hholds with
    | arg harg hholds =>
        rw [hargs, List.mem_singleton] at harg
        subst harg
        cases hholds with
        | text _ =>
            exact hname

/-- An indentation brings no command into a line. -/
theorem mem_of_command_mem_startLine {indent : String} {line : Line} {command : Command}
    (h : .command command ∈ startLine indent line) : .command command ∈ line := by
  unfold startLine at h
  split at h
  · exact h
  · simpa using h

section Written

variable {G : Type} [WordSource G] {context : Line} {parts : List Replacement}
  {elements : List Line} {s s' : Session G} {r : Replacement} {command : Command}

/-- The commands around and in a list that was written come from its elements and their parts, or
they are synthetic; these were built and are made of words. -/
theorem command_of_write
    (h : (write context parts elements : Compiling Cause G Replacement) s = .ok r s')
    {line : Line} (hline : line ∈ r.before ++ r.result :: r.after)
    (hcommand : .command command ∈ line) :
    (∃ part ∈ parts, ∃ other ∈ part.before ++ part.after, .command command ∈ other) ∨
      (∃ element ∈ elements, .command command ∈ element) ∨
      (Synthetic command ∧ (Token.command command).Built ∧ (Token.command command).Wordy) := by
  rcases Command.write_eq_ok.1 h with ⟨writing, hwriting, rfl⟩
  rcases Compiling.roll_eq_ok.1 hwriting with ⟨dice, hdraw, -⟩
  have hdrawn : writing.Drawn elements.length := ((gives_drawWriting _).ok hdraw).1
  -- a line of a part, or one of the list itself
  have hsplit :
      (∃ part ∈ parts, line ∈ part.before ++ part.after) ∨
        line ∈ (writing.replacement (indentation context) elements).before ++
          (writing.replacement (indentation context) elements).result ::
            (writing.replacement (indentation context) elements).after := by
    simp only [Replacement.within, List.mem_append, List.mem_cons, List.mem_flatMap] at hline ⊢
    grind
  rcases hsplit with ⟨part, hpart, hother⟩ | hown
  · exact .inl ⟨part, hpart, line, hother, hcommand⟩
  · refine .inr ?_
    cases hdrawn with
    | @literal spacing breaks _ hbreaks =>
        have hresult : line = ListForm.literal (breaks.map (separator spacing)) elements := by
          simpa [Writing.replacement, Replacement.plain] using hown
        rw [hresult] at hcommand
        exact .inl ((command_mem_literal (by rw [List.length_map, hbreaks]) rfl).1 hcommand)
    | @appended name hlength hletters =>
        have hsynthetic : ∀ {other : Command}, other = .var name [] ∨ other = .get name →
            Synthetic other ∧ (Token.command other).Built ∧ (Token.command other).Wordy := by
          intro other hother
          exact ⟨⟨name, hother⟩, built_of_drawn hlength hletters hother⟩
        simp only [Writing.replacement, appended, List.mem_append, List.mem_cons, List.mem_map,
          List.not_mem_nil, or_false] at hown
        rcases hown with rfl | rfl | ⟨element, helement, rfl⟩
        · have hmem := mem_of_command_mem_startLine hcommand
          exact .inr (hsynthetic (.inl (by simpa using hmem)))
        · exact .inr (hsynthetic (.inr (by simpa using hcommand)))
        · have hmem := mem_of_command_mem_startLine hcommand
          have hcases : command = .get name ∨ .command command ∈ element := by
            simpa using hmem
          rcases hcases with hget | hinner
          · exact .inr (hsynthetic (.inr hget))
          · exact .inl ⟨element, helement, hinner⟩

end Written

end ListForm

/-! ## Spellings and commands -/

/-- Spellings are read back. A text is read as a command exactly if the command was built from
tokens, as were those nested in it, its texts are words, and the text is one of its spellings. Each
such command has a spelling, and the synthetic commands that a written list brings are among them. -/
theorem Body.spellings_read_back :
    (∀ (text : String) (command : Command), Body.command text = .ok command ↔
      (Token.command command).Built ∧ (Token.command command).Wordy ∧
        Spells false command.tokens text.toList) ∧
    (∀ command : Command, Spells false command.tokens command.spelling) ∧
    ∀ (G : Type) [WordSource G] (context : Line) (parts : List Replacement) (elements : List Line)
      (s s' : Session G) (r : Replacement),
      (ListForm.write context parts elements : Compiling Cause G Replacement) s = .ok r s' →
      ∀ line ∈ r.before ++ r.result :: r.after, ∀ command, .command command ∈ line →
        (∃ part ∈ parts, ∃ other ∈ part.before ++ part.after, .command command ∈ other) ∨
        (∃ element ∈ elements, .command command ∈ element) ∨
        (Synthetic command ∧ (Token.command command).Built ∧ (Token.command command).Wordy) := by
  refine ⟨fun text command => ⟨fun h => ?_, ?_⟩, spells_spelling, ?_⟩
  · rcases built_of_command h with ⟨hbuilt, hwordy⟩
    exact ⟨hbuilt, hwordy, spells_of_command h⟩
  · rintro ⟨hbuilt, hwordy, hspells⟩
    exact command_of_spells hbuilt hwordy hspells
  · intro G _ context parts elements s s' r h line hline command hcommand
    exact command_of_write h hline hcommand

end TemplateVariants
