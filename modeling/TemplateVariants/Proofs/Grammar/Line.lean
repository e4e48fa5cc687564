import Mathlib.Data.List.Chain
import TemplateVariants.Proofs.Grammar.Marks
import TemplateVariants.Proofs.Reading

/-!
# The grammar of lines

A line is text with commands between marks. `Line.Splitting` is a way to write a line so: a text,
then bodies of commands, each with the text behind it. It is proper if no text holds an opening mark
and no body a closing one. A line is written properly in at most one way, which is the one that the
reader takes (`Line.lines_follow_grammar`).
-/

namespace TemplateVariants
namespace Line

/-! ## Splittings -/

/-- A text, then the bodies of commands, each with the text behind it. -/
structure Splitting where
  first : List Char
  spans : List (List Char × List Char)
  deriving DecidableEq

/-- A text is one literal, unless it is empty. -/
def textTokens (text : List Char) : Line :=
  if text = [] then [] else [.literal (String.ofList text)]

namespace Splitting

/-- What the splitting writes, with the marks around the bodies. -/
def text (splitting : Splitting) : List Char :=
  splitting.first ++
    splitting.spans.flatMap fun span => '~' :: '[' :: (span.1 ++ ']' :: '~' :: span.2)

/-- Every mark in what is written is one around a body. -/
structure Proper (splitting : Splitting) : Prop where
  first : ¬ HasMark '~' '[' splitting.first
  spans : ∀ span ∈ splitting.spans, ¬ HasMark ']' '~' span.1 ∧ ¬ HasMark '~' '[' span.2

/-- The splitting is a proper way to write the line. -/
def Writes (splitting : Splitting) (s : List Char) : Prop :=
  splitting.Proper ∧ splitting.text = s

/-- The texts as literals, with the commands that the bodies spell between them. -/
def tokens (splitting : Splitting) (commands : List Command) : Line :=
  textTokens splitting.first ++
    (List.zipWith (fun command span => .command command :: textTokens span.2) commands
      splitting.spans).flatten

variable {splitting : Splitting} {first body between rest opened s : List Char}
  {spans : List (List Char × List Char)}

theorem text_nil : Splitting.text ⟨first, []⟩ = first := by
  simp [Splitting.text]

theorem text_cons :
    Splitting.text ⟨first, (body, between) :: spans⟩ =
      first ++ '~' :: '[' :: (body ++ ']' :: '~' :: Splitting.text ⟨between, spans⟩) := by
  simp [Splitting.text]

theorem proper_nil : Proper ⟨first, []⟩ ↔ ¬ HasMark '~' '[' first := by
  constructor
  · intro h
    exact h.first
  · intro h
    exact ⟨h, by simp⟩

theorem proper_cons :
    Proper ⟨first, (body, between) :: spans⟩ ↔
      ¬ HasMark '~' '[' first ∧ ¬ HasMark ']' '~' body ∧ Proper ⟨between, spans⟩ := by
  constructor
  · intro h
    rcases List.forall_mem_cons.1 h.spans with ⟨hspan, hspans⟩
    exact ⟨h.first, hspan.1, hspan.2, hspans⟩
  · rintro ⟨hfirst, hbody, hrest⟩
    exact ⟨hfirst, List.forall_mem_cons.2 ⟨⟨hbody, hrest.first⟩, hrest.spans⟩⟩

/-- In a line that is written properly, the first cuts are at the marks of the first body. -/
theorem cut_of_writes (h : Writes ⟨first, (body, between) :: spans⟩ s) :
    ∃ opened rest, cut '~' '[' s = some (first, opened) ∧
      cut ']' '~' opened = some (body, rest) ∧ Writes ⟨between, spans⟩ rest := by
  rcases h with ⟨hproper, htext⟩
  rw [text_cons] at htext
  rcases proper_cons.1 hproper with ⟨hfirst, hbody, hrest⟩
  refine ⟨_, Splitting.text ⟨between, spans⟩,
    (cut_eq_some_iff (by decide)).2 ⟨htext.symm, hfirst⟩, ?_⟩
  exact ⟨(cut_eq_some_iff (by decide)).2 ⟨rfl, hbody⟩, hrest, rfl⟩

/-- A line without an opening mark is one text. -/
theorem writes_of_no_mark (h : cut '~' '[' s = none) :
    splitting.Writes s ↔ splitting = ⟨s, []⟩ := by
  constructor
  · intro hwrites
    rcases splitting with ⟨first, spans⟩
    cases spans with
    | nil =>
        rw [← hwrites.2, text_nil]
    | cons span spans =>
        rcases cut_of_writes hwrites with ⟨opened, -, hopen, -⟩
        rw [h] at hopen
        cases hopen
  · rintro rfl
    exact ⟨proper_nil.2 (cut_eq_none_iff.1 h), text_nil⟩

/-- The first text and the first body of a line are set off by its first marks. -/
theorem writes_of_mark (h : cut '~' '[' s = some (first, opened)) :
    splitting.Writes s ↔
      ∃ body rest, cut ']' '~' opened = some (body, rest) ∧
        ∃ more : Splitting, splitting = ⟨first, (body, more.first) :: more.spans⟩ ∧
          more.Writes rest := by
  constructor
  · intro hwrites
    rcases splitting with ⟨text, spans⟩
    cases spans with
    | nil =>
        -- one text has no mark to be cut at
        have hmark := cut_eq_none_iff.2 (proper_nil.1 hwrites.1)
        rw [← hwrites.2, text_nil, hmark] at h
        cases h
    | cons span spans =>
        rcases cut_of_writes hwrites with ⟨opened', rest, hopen, hclose, hrest⟩
        rw [h] at hopen
        cases hopen
        exact ⟨span.1, rest, hclose, ⟨span.2, spans⟩, rfl, hrest⟩
  · rintro ⟨body, rest, hclose, more, rfl, hmore⟩
    rcases (cut_eq_some_iff (by decide)).1 h with ⟨hs, hfirst⟩
    rcases (cut_eq_some_iff (by decide)).1 hclose with ⟨hopened, hbody⟩
    refine ⟨proper_cons.2 ⟨hfirst, hbody, hmore.1⟩, ?_⟩
    rw [text_cons, hmore.2, ← hopened, ← hs]

/-- A line is written properly in one way only. -/
theorem Writes.unique {other : Splitting} (h : splitting.Writes s) (hother : other.Writes s) :
    splitting = other := by
  rcases splitting with ⟨first, spans⟩
  induction spans generalizing first s other with
  | nil =>
      have hmark := cut_eq_none_iff.2 (proper_nil.1 h.1)
      have htext : Splitting.text ⟨first, []⟩ = first := text_nil
      rw [← htext, h.2] at hmark
      rw [(writes_of_no_mark hmark).1 hother, ← h.2, text_nil]
  | cons span spans ih =>
      rcases cut_of_writes h with ⟨opened, rest, hopen, hclose, hrest⟩
      rcases (writes_of_mark hopen).1 hother with ⟨body, rest', hclose', more, rfl, hmore⟩
      rw [hclose] at hclose'
      cases hclose'
      rw [← ih hmore _ hrest]

end Splitting

/-! ## Tokens -/

/-- The tokens are those of a splitting of the line whose bodies spell the commands among them. -/
def ReadsAs (s : List Char) (line : Line) : Prop :=
  ∃ splitting : Splitting, splitting.Writes s ∧ ∃ commands,
    List.Forall₂ (fun span command => Body.commandOf span.1 = .ok command) splitting.spans commands ∧
      line = splitting.tokens commands

namespace Splitting

variable {first body between : List Char} {spans : List (List Char × List Char)}

theorem tokens_nil : tokens ⟨first, []⟩ [] = textTokens first := by
  simp [tokens]

theorem tokens_cons {command : Command} {commands : List Command} :
    tokens ⟨first, (body, between) :: spans⟩ (command :: commands) =
      textTokens first ++ .command command :: tokens ⟨between, spans⟩ commands := by
  simp [tokens]

end Splitting

theorem readsAs_of_no_mark {s : List Char} {line : Line} (h : cut '~' '[' s = none) :
    ReadsAs s line ↔ line = textTokens s := by
  constructor
  · rintro ⟨splitting, hwrites, commands, hcommands, rfl⟩
    rw [Splitting.writes_of_no_mark h] at hwrites
    subst hwrites
    cases hcommands
    exact Splitting.tokens_nil
  · rintro rfl
    exact ⟨⟨s, []⟩, (Splitting.writes_of_no_mark h).2 rfl, [], .nil, Splitting.tokens_nil.symm⟩

theorem readsAs_of_mark {s first opened : List Char} {line : Line}
    (h : cut '~' '[' s = some (first, opened)) :
    ReadsAs s line ↔
      ∃ body rest, cut ']' '~' opened = some (body, rest) ∧
        ∃ command, Body.commandOf body = .ok command ∧
          ∃ more, ReadsAs rest more ∧ line = textTokens first ++ .command command :: more := by
  constructor
  · rintro ⟨splitting, hwrites, commands, hcommands, rfl⟩
    rcases (Splitting.writes_of_mark h).1 hwrites with ⟨body, rest, hclose, more, rfl, hmore⟩
    cases hcommands with
    | cons hcommand hcommands =>
        refine ⟨body, rest, hclose, _, hcommand, _, ⟨more, hmore, _, hcommands, rfl⟩, ?_⟩
        exact Splitting.tokens_cons
  · rintro ⟨body, rest, hclose, command, hcommand, line, ⟨more, hmore, commands, hall, rfl⟩, rfl⟩
    refine ⟨_, (Splitting.writes_of_mark h).2 ⟨body, rest, hclose, more, rfl, hmore⟩,
      command :: commands, .cons hcommand hall, ?_⟩
    exact Splitting.tokens_cons.symm

theorem reverse_consText {text : List Char} {done : Line} :
    (consText text done).reverse = done.reverse ++ textTokens text := by
  unfold consText textTokens
  cases text with
  | nil =>
      simp
  | cons c text =>
      simp

/-- The reader gives the tokens of the line behind those that it had. -/
theorem parseFrom_eq_ok_iff {done line : Line} {s : List Char} :
    parseFrom done s = .ok line ↔ ∃ more, ReadsAs s more ∧ line = done.reverse ++ more := by
  fun_induction parseFrom done s with
  | case1 done s hopen =>
      simp [readsAs_of_no_mark hopen, reverse_consText, eq_comm]
  | case2 done s text opened hopen hclose =>
      simp [readsAs_of_mark hopen, hclose]
  | case3 done s text opened hopen body rest hclose cause hcause =>
      simp [readsAs_of_mark hopen, hclose, hcause]
  | case4 done s text opened hopen body rest hclose command hcommand ih =>
      refine Iff.trans ih ?_
      simp [readsAs_of_mark hopen, hclose, hcommand, reverse_consText]

/-- The reader of lines gives what the line reads as. -/
theorem parse_eq_ok_iff {s : String} {line : Line} :
    parse s = .ok line ↔ ReadsAs s.toList line := by
  rw [parse, parseFrom_eq_ok_iff]
  simp

/-! ## Literals -/

namespace Splitting

/-- The literals are the texts, which are not empty and hold no opening mark. -/
theorem Proper.literal {splitting : Splitting} {commands : List Command} {t : String}
    (h : splitting.Proper) (ht : .literal t ∈ splitting.tokens commands) :
    t ≠ "" ∧ ¬ HasMark '~' '[' t.toList := by
  -- holds of each text, so of each literal
  have htext :
      ∀ text : List Char, ¬ HasMark '~' '[' text → .literal t ∈ textTokens text →
        t ≠ "" ∧ ¬ HasMark '~' '[' t.toList := by
    intro text hmark hmem
    unfold textTokens at hmem
    split at hmem
    · cases hmem
    · rename_i hne
      cases List.mem_singleton.1 hmem
      simpa [hne] using hmark
  rcases splitting with ⟨first, spans⟩
  induction spans generalizing first commands with
  | nil =>
      have hfirst : .literal t ∈ textTokens first := by
        simpa [tokens] using ht
      exact htext first h.first hfirst
  | cons span spans ih =>
      rcases proper_cons.1 h with ⟨hfirst, -, hrest⟩
      cases commands with
      | nil =>
          have hmem : .literal t ∈ textTokens first := by
            simpa [tokens] using ht
          exact htext first hfirst hmem
      | cons command commands =>
          rw [tokens_cons] at ht
          rcases List.mem_append.1 ht with hmem | hmem
          · exact htext first hfirst hmem
          · rcases List.mem_cons.1 hmem with hcommand | hmem
            · cases hcommand
            · exact ih _ hrest hmem

/-- Two literals do not stand next to each other. -/
theorem isChain_tokens {splitting : Splitting} {commands : List Command} :
    List.IsChain (fun left right => left.isCommand = true ∨ right.isCommand = true)
      (splitting.tokens commands) := by
  -- behind a text stands a command, and behind a command anything may stand
  have htext :
      ∀ text : List Char,
        List.IsChain (fun left right : Token => left.isCommand = true ∨ right.isCommand = true)
          (textTokens text) := by
    intro text
    unfold textTokens
    split
    · exact .nil
    · exact .singleton _
  rcases splitting with ⟨first, spans⟩
  induction spans generalizing first commands with
  | nil =>
      simpa [tokens] using htext first
  | cons span spans ih =>
      cases commands with
      | nil =>
          simpa [tokens] using htext first
      | cons command commands =>
          rw [tokens_cons]
          refine List.isChain_append.2 ⟨htext first, ?_, ?_⟩
          · exact List.isChain_cons.2 ⟨fun _ _ => .inl rfl, ih _⟩
          · rintro left - right hright
            cases hright
            exact .inr rfl

end Splitting

/-! ## The whole reader -/

/-- A line is read if and only if it is written properly with bodies that spell commands. -/
theorem exists_parse_iff {s : String} :
    (∃ line, parse s = .ok line) ↔
      ∃ splitting : Splitting, splitting.Writes s.toList ∧
        ∀ span ∈ splitting.spans, ∃ command, Body.commandOf span.1 = .ok command := by
  constructor
  · rintro ⟨line, hline⟩
    rcases parse_eq_ok_iff.1 hline with ⟨splitting, hwrites, commands, hcommands, -⟩
    exact ⟨splitting, hwrites, exists_forall₂_iff.1 ⟨commands, hcommands⟩⟩
  · rintro ⟨splitting, hwrites, hbodies⟩
    rcases exists_forall₂_iff.2 hbodies with ⟨commands, hcommands⟩
    exact ⟨_, parse_eq_ok_iff.2 ⟨splitting, hwrites, commands, hcommands, rfl⟩⟩

/-- The reader of lines takes exactly its grammar. A line is written properly in at most one way. It
is read if and only if it is written properly at all, with bodies that spell commands; its tokens are
then the texts that are not empty as literals, with these commands between them. So no literal is
empty or holds an opening mark, and no two literals stand next to each other. The lines of a text put
together are the text, and a document that was read has one line for each of them. -/
theorem lines_follow_grammar (file text : String) (s : String) :
    (∀ splitting other : Splitting,
      splitting.Writes s.toList → other.Writes s.toList → splitting = other) ∧
    ((∃ line, parse s = .ok line) ↔
      ∃ splitting : Splitting, splitting.Writes s.toList ∧
        ∀ span ∈ splitting.spans, ∃ command, Body.commandOf span.1 = .ok command) ∧
    (∀ line, parse s = .ok line ↔
      ∃ splitting : Splitting, splitting.Writes s.toList ∧ ∃ commands,
        List.Forall₂ (fun span command => Body.commandOf span.1 = .ok command)
          splitting.spans commands ∧
        line = splitting.tokens commands) ∧
    (∀ line, parse s = .ok line →
      (∀ t, .literal t ∈ line → t ≠ "" ∧ ¬ HasMark '~' '[' t.toList) ∧
        List.IsChain (fun left right => left.isCommand = true ∨ right.isCommand = true) line) ∧
    String.join (Text.keepingEnds text) = text ∧
    ∀ doc, Document.ofText file text = .ok doc ↔
      doc.file = file ∧
        List.Forall₂ (fun piece line => parse piece = .ok line) (Text.keepingEnds text) doc.lines := by
  refine ⟨?_, exists_parse_iff, fun _ => parse_eq_ok_iff, ?_, Text.join_keepingEnds text, ?_⟩
  · intro splitting other hwrites hother
    exact hwrites.unique hother
  · intro line hline
    rcases parse_eq_ok_iff.1 hline with ⟨splitting, hwrites, commands, -, rfl⟩
    exact ⟨fun t ht => hwrites.1.literal ht, Splitting.isChain_tokens⟩
  · intro doc
    exact Document.ofLines_eq_ok_iff

end Line
end TemplateVariants
