import Mathlib.Data.List.Forall2
import Mathlib.Data.List.TakeWhile
import TemplateVariants.Template.Document

/-!
# What was read

A document that was read is made of words, and its numerals were looked at: `Token.Written` says so
of an argument and of all that is nested in it. `Token.Spelled` ties a token of a line to the span
of text that it was read from. The spans of a line put together are the line again
(`Line.exists_spans`), so nothing of a text is lost or moved when it is read.
-/

namespace TemplateVariants

/-- Each element of a list has a partner if and only if there is a list of partners. -/
theorem exists_forall₂_iff {α β : Type} {R : α → β → Prop} {l : List α} :
    (∃ partners, List.Forall₂ R l partners) ↔ ∀ a ∈ l, ∃ b, R a b := by
  induction l with
  | nil =>
      simp
  | cons a l ih =>
      rw [List.forall_mem_cons, ← ih]
      constructor
      · rintro ⟨partners, h⟩
        cases h with
        | cons hfirst hrest =>
            exact ⟨⟨_, hfirst⟩, _, hrest⟩
      · rintro ⟨⟨b, hfirst⟩, partners, hrest⟩
        exact ⟨b :: partners, .cons hfirst hrest⟩

/-- Each element has its partner in the other list. -/
theorem exists_partner {α β : Type} {R : α → β → Prop} {l : List α} {partners : List β}
    (h : List.Forall₂ R l partners) : ∀ a ∈ l, ∃ b ∈ partners, R a b := by
  induction h with
  | nil =>
      simp
  | cons hfirst _ ih =>
      refine List.forall_mem_cons.2 ⟨⟨_, List.mem_cons_self, hfirst⟩, ?_⟩
      intro a ha
      rcases ih a ha with ⟨b, hb, hpair⟩
      exact ⟨b, List.mem_cons_of_mem _ hb, hpair⟩

/-! ## Commands -/

/-- A word has a character, and none that ends a word. -/
def Body.IsWord (text : String) : Prop :=
  text ≠ "" ∧ ∀ c ∈ text.toList, Body.isWordChar c = true

/-- What may stand as an argument: a word, or a command whose names are words and whose numerals, if
they are words too, can be read. -/
inductive Token.Written : Token → Prop where
  | word {text : String} :
      Body.IsWord text →
      Written (.literal text)
  | var {name : String} {candidates : List Token} :
      Body.IsWord name →
      (∀ candidate ∈ candidates, Written candidate) →
      Written (.command (.var name candidates))
  | get {name : String} :
      Body.IsWord name →
      Written (.command (.get name))
  | collection {elements : List Token} :
      (∀ element ∈ elements, Written element) →
      Written (.command (.collection elements))
  | build {size element : Token} :
      Written size →
      Command.checkWord (fun text => (Argument.size text).map fun _ => ()) size = .ok () →
      Written element →
      Written (.command (.build size element))
  | rand {kind : NumberKind} {lower upper : Token} :
      Written lower →
      Command.checkWord (Argument.checkBound kind) lower = .ok () →
      Written upper →
      Command.checkWord (Argument.checkBound kind) upper = .ok () →
      Written (.command (.rand kind lower upper))

theorem Token.Written.isWord {text : String} (h : (Token.literal text).Written) :
    Body.IsWord text := by
  cases h with
  | word hword =>
      exact hword

namespace Command

variable {args : List Token} {command : Command}

theorem written_of_ofVarArgs (hargs : ∀ token ∈ args, token.Written)
    (h : ofVarArgs args = .ok command) : (Token.command command).Written := by
  unfold ofVarArgs at h
  split at h
  · cases h
  · cases h
  · rename_i name candidates
    rcases List.forall_mem_cons.1 hargs with ⟨hname, hcandidates⟩
    split at h
    · cases h
    · cases h
      exact .var hname.isWord hcandidates

theorem written_of_ofGetArgs (hargs : ∀ token ∈ args, token.Written)
    (h : ofGetArgs args = .ok command) : (Token.command command).Written := by
  unfold ofGetArgs at h
  split at h
  · cases h
    exact .get (hargs _ List.mem_cons_self).isWord
  · cases h
  · cases h

theorem written_of_ofBuildArgs (hargs : ∀ token ∈ args, token.Written)
    (h : ofBuildArgs args = .ok command) : (Token.command command).Written := by
  unfold ofBuildArgs at h
  split at h
  · rename_i size element
    cases hsize : checkWord (fun text => (Argument.size text).map fun _ => ()) size with
    | error cause =>
        rw [hsize] at h
        cases h
    | ok u =>
        rw [hsize] at h
        cases h
        exact .build (hargs _ (by simp)) hsize (hargs _ (by simp))
  · cases h

theorem written_of_ofCollectionArgs (hargs : ∀ token ∈ args, token.Written)
    (h : ofCollectionArgs args = .ok command) : (Token.command command).Written := by
  unfold ofCollectionArgs at h
  split at h
  · cases h
  · -- the flag is a word like any other, but no element
    split at h
    · exact written_of_ofBuildArgs (List.forall_mem_cons.1 hargs).2 h
    · cases h
      exact .collection hargs
  · cases h
    exact .collection hargs

theorem written_of_ofRandArgs (hargs : ∀ token ∈ args, token.Written)
    (h : ofRandArgs args = .ok command) : (Token.command command).Written := by
  unfold ofRandArgs at h
  split at h
  · rename_i flag lower upper
    split at h
    · cases h
    · rename_i kind hkind
      cases hlower : checkWord (Argument.checkBound kind) lower with
      | error cause =>
          rw [hlower] at h
          cases h
      | ok u =>
          cases hupper : checkWord (Argument.checkBound kind) upper with
          | error cause =>
              rw [hlower, hupper] at h
              cases h
          | ok v =>
              rw [hlower, hupper] at h
              cases h
              exact .rand (hargs _ (by simp)) hlower (hargs _ (by simp)) hupper
  · cases h

/-- A command that is built from written tokens is written. -/
theorem written_of_ofTokens {tokens : List Token} (htokens : ∀ token ∈ tokens, token.Written)
    (h : ofTokens tokens = .ok command) : (Token.command command).Written := by
  unfold ofTokens at h
  split at h
  · cases h
  · cases h
  · have hargs := (List.forall_mem_cons.1 htokens).2
    split at h
    · exact written_of_ofVarArgs hargs h
    · split at h
      · exact written_of_ofGetArgs hargs h
      · split at h
        · exact written_of_ofCollectionArgs hargs h
        · split at h
          · exact written_of_ofRandArgs hargs h
          · cases h

/-- What is built from tokens that were read is written, if they are. -/
theorem written_of_bind {read : Except Cause (List Token)}
    (hread : ∀ tokens, read = .ok tokens → ∀ token ∈ tokens, token.Written)
    (h : read.bind ofTokens = .ok command) : (Token.command command).Written := by
  cases hresult : read with
  | error cause =>
      rw [hresult] at h
      cases h
  | ok tokens =>
      rw [hresult] at h
      exact written_of_ofTokens (hread tokens hresult) h

end Command

namespace Body

/-- The tokens of a text are written, if those read before are. -/
theorem written_of_tokensFrom {done tokens : List Token} {s : List Char}
    (hdone : ∀ token ∈ done, token.Written) (h : tokensFrom done s = .ok tokens) :
    ∀ token ∈ tokens, token.Written := by
  -- a group is read with nothing before it, so the statement is for every such list
  fun_induction tokensFrom done s generalizing tokens with
  | case1 =>
      cases h
      simpa using hdone
  | case2 =>
      cases h
  | case3 =>
      cases h
  | case4 done s cs inner rest hgroup command hcommand hs ihinner ih =>
      have hwritten := Command.written_of_bind (fun _ hread => ihinner (by simp) hread) hcommand
      exact ih (List.forall_mem_cons.2 ⟨hwritten, hdone⟩) h
  | case5 =>
      cases h
  | case6 done s c cs hs hopen hclose word =>
      rename_i ih
      -- the word starts where the blanks end
      have hfirst : isWordChar c = true := by
        simp [isWordChar, Text.trimStart_head hs, hopen, hclose]
      have hword : IsWord (String.ofList (c :: cs.takeWhile isWordChar)) := by
        refine ⟨by simp, ?_⟩
        rw [String.toList_ofList]
        exact List.forall_mem_cons.2 ⟨hfirst, fun c' hc' => List.mem_takeWhile_imp hc'⟩
      exact ih (List.forall_mem_cons.2 ⟨.word hword, hdone⟩) h

theorem written_of_command {text : String} {c : Command} (h : command text = .ok c) :
    (Token.command c).Written := by
  exact Command.written_of_bind (fun _ hread => written_of_tokensFrom (by simp) hread) h

end Body

/-! ## Lines -/

/-- The token was read from the span of text. -/
inductive Token.Spelled : Token → String → Prop where
  | text {t : String} :
      t ≠ "" →
      Spelled (.literal t) t
  | command {body : String} {command : Command} :
      Body.command body = .ok command →
      Spelled (.command command) ("~[" ++ body ++ "]~")

/-- A command that was read is written. -/
theorem Token.Spelled.written {token : Token} {span : String} (h : token.Spelled span)
    (hcommand : token.isCommand = true) : token.Written := by
  cases h with
  | text _ =>
      cases hcommand
  | command hbody =>
      exact Body.written_of_command hbody

namespace Line

/-- A text before a line is a token with itself as its span; nothing is no token. -/
theorem exists_spans_consText {tokens : List Token} {spans : List String} (t : List Char)
    (h : List.Forall₂ Token.Spelled tokens.reverse spans) :
    ∃ spans', List.Forall₂ Token.Spelled (consText t tokens).reverse spans' ∧
      String.join spans' = String.join spans ++ String.ofList t := by
  unfold consText
  cases t with
  | nil =>
      exact ⟨spans, h, by simp⟩
  | cons c cs =>
      refine ⟨spans ++ [String.ofList (c :: cs)], ?_, by simp [String.join_append]⟩
      rw [if_neg (by simp), List.reverse_cons]
      exact List.rel_append h (.cons (.text (by simp)) .nil)

theorem exists_spans_of_parseFrom {done line : List Token} {s : List Char} {before : List String}
    (hdone : List.Forall₂ Token.Spelled done.reverse before)
    (h : parseFrom done s = .ok line) :
    ∃ spans, List.Forall₂ Token.Spelled line spans ∧
      String.join spans = String.join before ++ String.ofList s := by
  fun_induction parseFrom done s generalizing before with
  | case1 done s _ =>
      cases h
      exact exists_spans_consText s hdone
  | case2 =>
      cases h
  | case3 =>
      cases h
  | case4 done s text opened hopen body rest hclose command hcommand ih =>
      rcases exists_spans_consText text hdone with ⟨spans, hspans, hjoin⟩
      have hbody : Body.command (String.ofList body) = .ok command := by
        rw [Body.command, String.toList_ofList]
        exact hcommand
      have hnext :
          List.Forall₂ Token.Spelled (.command command :: consText text done).reverse
            (spans ++ ["~[" ++ String.ofList body ++ "]~"]) := by
        rw [List.reverse_cons]
        exact List.rel_append hspans (.cons (.command hbody) .nil)
      rcases ih hnext h with ⟨all, hall, hallJoin⟩
      refine ⟨all, hall, ?_⟩
      -- the marks that were cut out stand around the body again
      have hs : s = text ++ '~' :: '[' :: (body ++ ']' :: '~' :: rest) := by
        have hbodyText : opened = body ++ ']' :: '~' :: rest := (cutFrom_eq hclose).symm
        rw [← hbodyText]
        exact (cutFrom_eq hopen).symm
      rw [hallJoin, hs, String.join_append, hjoin]
      apply String.toList_inj.1
      simp

/-- The spans of a line that was read are the whole of its text. -/
theorem exists_spans {text : String} {line : Line} (h : parse text = .ok line) :
    ∃ spans, List.Forall₂ Token.Spelled line spans ∧ text = String.join spans := by
  have hnil : List.Forall₂ Token.Spelled ([] : List Token).reverse [] := .nil
  rcases exists_spans_of_parseFrom hnil h with ⟨spans, hspans, hjoin⟩
  refine ⟨spans, hspans, ?_⟩
  rw [hjoin]
  simp

/-- Commands in a line that was read are written. -/
theorem written_of_parse {text : String} {line : Line} (h : parse text = .ok line) :
    ∀ token ∈ line, token.isCommand = true → token.Written := by
  rcases exists_spans h with ⟨spans, hspans, -⟩
  exact ((List.forall₂_and_left _ _).1 (hspans.imp fun _ _ hspan => ⟨hspan.written, hspan⟩)).1

end Line

/-! ## Documents -/

namespace Document

theorem parseLinesFrom_eq_ok_iff {file : String} {done lines : List Line} {number : Nat}
    {texts : List String} :
    parseLinesFrom file done number texts = .ok lines ↔
      ∃ rest, List.Forall₂ (fun text line => Line.parse text = .ok line) texts rest ∧
        lines = done.reverse ++ rest := by
  induction texts generalizing done number with
  | nil =>
      simp [parseLinesFrom, eq_comm]
  | cons text texts ih =>
      unfold parseLinesFrom
      cases hline : Line.parse text with
      | error cause =>
          simp only [reduceCtorEq, false_iff]
          rintro ⟨rest, hrest, -⟩
          cases hrest with
          | cons hfirst _ =>
              rw [hline] at hfirst
              cases hfirst
      | ok line =>
          simp only [ih]
          constructor
          · rintro ⟨rest, hrest, rfl⟩
            exact ⟨line :: rest, .cons hline hrest, by simp⟩
          · rintro ⟨rest, hrest, rfl⟩
            cases hrest with
            | @cons _ line' _ rest hfirst hrest =>
                rw [hline, Except.ok.injEq] at hfirst
                subst hfirst
                exact ⟨rest, hrest, by simp⟩

/-- A document is read exactly if each of its lines is. -/
theorem ofLines_eq_ok_iff {file : String} {texts : List String} {doc : Document} :
    ofLines file texts = .ok doc ↔
      doc.file = file ∧ List.Forall₂ (fun text line => Line.parse text = .ok line) texts doc.lines := by
  unfold ofLines
  rcases doc with ⟨docFile, docLines⟩
  constructor
  · intro h
    cases hlines : parseLinesFrom file [] 1 texts with
    | error e =>
        rw [hlines] at h
        cases h
    | ok lines =>
        rw [hlines] at h
        cases h
        rcases parseLinesFrom_eq_ok_iff.1 hlines with ⟨rest, hrest, rfl⟩
        exact ⟨rfl, hrest⟩
  · rintro ⟨rfl, hlines⟩
    rw [parseLinesFrom_eq_ok_iff.2 ⟨docLines, hlines, rfl⟩]
    rfl

/-- All commands of a document that was read are written. -/
theorem written_of_ofLines {file : String} {texts : List String} {doc : Document}
    (h : ofLines file texts = .ok doc) :
    ∀ line ∈ doc.lines, ∀ token ∈ line, token.isCommand = true → token.Written := by
  have hlines := (ofLines_eq_ok_iff.1 h).2.flip
  exact ((List.forall₂_and_left _ _).1
    (hlines.imp fun _ _ hline => ⟨Line.written_of_parse hline, hline⟩)).1

end Document

end TemplateVariants
