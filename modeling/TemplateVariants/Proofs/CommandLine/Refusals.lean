import TemplateVariants.CommandLine.Run
import TemplateVariants.Proofs.Json
import TemplateVariants.Proofs.Storage.Trees

/-!
# Refusals as JSON

A message about the request itself is put into a JSON object with a backslash before each quotation
mark, and before nothing else. The object says what the characters of the message say when they are
read back (`says_iff`), so the message itself exactly if it has no backslash and no control character
(`suite_refusal_reads_back_iff`). With a backslash in it the text may be no JSON at all
(`backslash_in_directory`).
-/

namespace TemplateVariants
namespace CommandLine

open Json (Blanks Chars Member Members Reads Says)

/-! ## Messages with their quotation marks escaped -/

/-- The characters of a message as they are printed. -/
def quoteEscaped (message : List Char) : List Char :=
  message.flatMap fun c => if c = '"' then ['\\', '"'] else [c]

/-- What is printed behind a message. -/
def closing : List Char :=
  ['"', '}', '\n']

section Escaping

variable {c : Char} {message l r text : List Char}

theorem quoteEscaped_cons_of_ne (h : c ≠ '"') (message : List Char) :
    quoteEscaped (c :: message) = c :: quoteEscaped message := by
  rw [quoteEscaped, List.flatMap_cons, if_neg h]
  rfl

theorem quoteEscaped_quote (message : List Char) :
    quoteEscaped ('"' :: message) = '\\' :: '"' :: quoteEscaped message := rfl

theorem length_quoteEscaped (message : List Char) :
    (quoteEscaped message).length = message.length + message.count '"' := by
  induction message with
  | nil =>
      rfl
  | cons c message ih =>
      by_cases hquote : c = '"'
      · subst hquote
        rw [quoteEscaped_quote, List.length_cons, List.length_cons, List.length_cons,
          List.count_cons_self, ih]
        omega
      · rw [quoteEscaped_cons_of_ne hquote, List.length_cons, List.length_cons,
          List.count_cons_of_ne hquote, ih]
        omega

theorem subset_quoteEscaped (message : List Char) : message ⊆ quoteEscaped message := by
  intro c hc
  rw [quoteEscaped, List.mem_flatMap]
  exact ⟨c, hc, by split <;> simp_all⟩

/-- No character is a backslash or a control character. -/
def Legible (message : List Char) : Prop :=
  ∀ c ∈ message, c ≠ '\\' ∧ 0x20 ≤ c.toNat

instance (message : List Char) : Decidable (Legible message) :=
  List.decidableBAll _ message

theorem legible_append_iff {more : List Char} :
    Legible (message ++ more) ↔ Legible message ∧ Legible more :=
  List.forall_mem_append

/-- A legible message is read back, in front of anything. -/
theorem chars_of_legible (h : Legible message) (l : List Char) :
    Chars (quoteEscaped message ++ '"' :: l) text r ↔ text = message ∧ r = l := by
  induction message generalizing text with
  | nil =>
      exact Json.chars_quote_iff
  | cons c message ih =>
      rcases List.forall_mem_cons.1 h with ⟨⟨hslash, hc⟩, hrest⟩
      have hmore :
          (∃ more, text = c :: more ∧ Chars (quoteEscaped message ++ '"' :: l) more r) ↔
            text = c :: message ∧ r = l := by
        constructor
        · rintro ⟨more, rfl, hmore⟩
          rcases (ih hrest).1 hmore with ⟨rfl, rfl⟩
          exact ⟨rfl, rfl⟩
        · rintro ⟨rfl, rfl⟩
          exact ⟨message, rfl, (ih hrest).2 ⟨rfl, rfl⟩⟩
      by_cases hquote : c = '"'
      · subst hquote
        exact Json.chars_escaped_quote_iff.trans hmore
      · rw [quoteEscaped_cons_of_ne hquote, List.cons_append,
          Json.chars_plain_iff hquote hslash hc]
        exact hmore

/-- A message that is read back is legible: each backslash in it would have to be told by two
characters, and it is told by one. -/
theorem legible_of_chars (h : Chars (quoteEscaped message ++ '"' :: r) message r) :
    Legible message := by
  rcases h.exists_body with ⟨body, hbody, hprintable, hcost⟩
  have hwhole : quoteEscaped message = body := List.append_cancel_right hbody
  rw [← hwhole] at hprintable hcost
  rw [length_quoteEscaped] at hcost
  have hnone : message.count '\\' = 0 := by
    omega
  intro c hc
  refine ⟨?_, hprintable c (subset_quoteEscaped message hc)⟩
  rintro rfl
  exact List.count_eq_zero.1 hnone hc

/-- Every quotation mark has a backslash before it, but for the one behind the message. -/
theorem quote_of_quoteEscaped {before behind : List Char}
    (h : quoteEscaped message ++ closing = before ++ '"' :: behind) :
    behind = ['}', '\n'] ∨ before.getLast? = some '\\' := by
  -- what is said of the rest of the message holds with more characters in front
  have hfront :
      ∀ {first : Char} {rest : List Char},
        behind = ['}', '\n'] ∨ rest.getLast? = some '\\' →
        behind = ['}', '\n'] ∨ (first :: rest).getLast? = some '\\' := by
    intro first rest hrest
    exact hrest.imp_right fun hlast => by rw [List.getLast?_cons, hlast, Option.getD_some]
  induction message generalizing before with
  | nil =>
      cases before with
      | nil =>
          cases h
          exact .inl rfl
      | cons first before =>
          have hrest : ['}', '\n'] = before ++ '"' :: behind := (List.cons.inj h).2
          have hmem : '"' ∈ ['}', '\n'] := by
            rw [hrest]
            simp
          simp at hmem
  | cons c message ih =>
      by_cases hquote : c = '"'
      · subst hquote
        rw [quoteEscaped_quote] at h
        cases before with
        | nil =>
            cases h
        | cons first before =>
            cases before with
            | nil =>
                cases h
                exact .inr rfl
            | cons second before =>
                have hrest := (List.cons.inj (List.cons.inj h).2).2
                exact hfront (hfront (ih hrest))
      · rw [quoteEscaped_cons_of_ne hquote] at h
        cases before with
        | nil =>
            exact absurd (List.cons.inj h).1 hquote
        | cons first before =>
            exact hfront (ih (List.cons.inj h).2)

end Escaping

/-! ## The object of a message -/

section Objects

variable {message l r : List Char} {member : String × Json.Value} {value : Json.Value}

theorem member_error
    (h : Member ('"' :: ("error".toList ++ '"' :: ':' :: ' ' :: '"' :: l)) member r) :
    ∃ text l₁, member = ("error", .string (String.ofList text)) ∧ Chars l text l₁ ∧
      Blanks l₁ r := by
  cases h with
  | mk hgap hname hcolon hspace hvalue hbehind =>
      cases hgap.eq_of_cons (by decide)
      rcases (Json.chars_append_iff (by decide)).1 hname with ⟨more, rfl, hmore⟩
      rcases Json.chars_quote_iff.1 hmore with ⟨rfl, rfl⟩
      cases hcolon.eq_of_cons (by decide)
      cases hspace with
      | none _ =>
          exact absurd hvalue Json.not_reads_space
      | more _ hquote =>
          cases hquote.eq_of_cons (by decide)
          rcases Json.reads_quote hvalue with ⟨text, rfl, hchars⟩
          exact ⟨text, _, rfl, hchars, hbehind⟩

/-- The last one of its kind stands at one place only. -/
theorem behind_eq_of_not_mem {mark : Char} {before before' behind behind' : List Char}
    (h : before ++ mark :: behind = before' ++ mark :: behind') (hbehind : mark ∉ behind)
    (hbehind' : mark ∉ behind') : behind = behind' := by
  rcases List.append_eq_append_iff.1 h with ⟨more, -, heq⟩ | ⟨more, -, heq⟩
  · cases more with
    | nil =>
        exact (List.cons.inj heq).2
    | cons first more =>
        refine absurd ?_ hbehind
        rw [(List.cons.inj heq).2]
        simp
  · cases more with
    | nil =>
        exact (List.cons.inj heq).2.symm
    | cons first more =>
        refine absurd ?_ hbehind'
        rw [(List.cons.inj heq).2]
        simp

/-- The message does not end early where the object does. -/
theorem closing_of_last {text : List Char} (hchars : Chars (quoteEscaped message ++ closing) text l)
    (hclose : Blanks l ('}' :: r)) (hend : Blanks r []) : l = ['}', '\n'] := by
  rcases hchars.exists_body with ⟨body, hbody, -, -⟩
  rcases hclose.exists_gap with ⟨gap, rfl, hgap⟩
  rcases hend.exists_gap with ⟨last, rfl, hlast⟩
  have hquote : '"' ∉ gap ++ '}' :: (last ++ []) := by
    simp only [List.mem_append, List.mem_cons, List.not_mem_nil, or_false, not_or]
    exact ⟨fun h => (hgap _ h).ne (by decide) rfl, by decide,
      fun h => (hlast _ h).ne (by decide) rfl⟩
  exact (behind_eq_of_not_mem hbody (by decide) hquote).symm

/-- No member can follow the message: its name would have to start with a quotation mark, and these
have backslashes before them. -/
theorem not_members_behind {text : List Char} {members : List (String × Json.Value)}
    {l₁ : List Char} (hchars : Chars (quoteEscaped message ++ closing) text l)
    (hcomma : Blanks l (',' :: l₁)) : ¬ Members l₁ members r := by
  intro hmembers
  rcases hchars.exists_body with ⟨body, hbody, -, -⟩
  rcases hcomma.exists_gap with ⟨gap, rfl, -⟩
  rcases hmembers.exists_member with ⟨member, l₂, hmember⟩
  rcases hmember.exists_quotes with ⟨gap', l₃, rfl, hgap', hquote⟩
  have hsplit :
      quoteEscaped message ++ closing = (body ++ '"' :: gap ++ ',' :: gap') ++ '"' :: l₃ := by
    simpa using hbody
  rcases quote_of_quoteEscaped hsplit with rfl | hlast
  · simp at hquote
  · have hmem : '\\' ∈ ',' :: gap' := by
      rw [List.getLast?_append, List.getLast?_cons, Option.some_or] at hlast
      refine List.mem_of_getLast? ?_
      rw [List.getLast?_cons, hlast]
    rcases List.mem_cons.1 hmem with hcomma | hblank
    · simp at hcomma
    · exact (hgap' _ hblank).ne (by decide) rfl

/-- What the object of a message says: it has one member, the message as it is read back, and if the
message does not end where it should then the text is no JSON at all. -/
theorem says_iff {message : String} {value : Json.Value} :
    Says ("\x7b\"error\": \"" ++ String.ofList (quoteEscaped message.toList) ++ "\"\x7d\n") value ↔
      ∃ text, Chars (quoteEscaped message.toList ++ closing) text ['}', '\n'] ∧
        value = .object [("error", .string (String.ofList text))] := by
  have htext :
      ("\x7b\"error\": \"" ++ String.ofList (quoteEscaped message.toList) ++
          "\"\x7d\n").toList =
        '{' :: '"' :: ("error".toList ++ '"' :: ':' :: ' ' :: '"' ::
          (quoteEscaped message.toList ++ closing)) := by
    simp [closing]
  rw [Says, htext]
  constructor
  · rintro ⟨l, r, hblanks, hreads, hend⟩
    cases hblanks.eq_of_cons (by decide)
    rcases Json.reads_brace hreads with ⟨members, rfl, ⟨-, hempty⟩ | hmembers⟩
    · cases hempty.eq_of_cons (by decide)
    · cases hmembers with
      | last hmember =>
          rcases member_error hmember with ⟨text, l₁, rfl, hchars, hclose⟩
          cases closing_of_last hchars hclose hend
          exact ⟨text, hchars, rfl⟩
      | more hmember hmore =>
          rcases member_error hmember with ⟨text, l₁, rfl, hchars, hcomma⟩
          exact absurd hmore (not_members_behind hchars hcomma)
  · rintro ⟨text, hchars, rfl⟩
    have hname : Chars ("error".toList ++ '"' :: ':' :: ' ' :: '"' ::
        (quoteEscaped message.toList ++ closing)) "error".toList
          (':' :: ' ' :: '"' :: (quoteEscaped message.toList ++ closing)) :=
      (Json.chars_append_iff (by decide)).2 ⟨[], by simp, .close _⟩
    have hmember := Member.mk (.none _) hname (.none _) (.more (by decide) (.none _))
      (.string hchars) (.none _)
    refine ⟨_, ['\n'], .none _, .object (.last hmember), .more (by decide) (.none _)⟩

end Objects

/-! ## Reports -/

section Reports

variable {manner : Manner}

theorem reportMessage_eq (hformat : manner.format = .json) (hquiet : manner.quiet = false)
    (message : String) :
    manner.reportMessage message =
      "\x7b\"error\": \"" ++ String.ofList (quoteEscaped message.toList) ++ "\"\x7d\n" := by
  simp [Manner.reportMessage, hformat, hquiet, quoteEscaped]

/-- A message is read back from its report exactly if it is legible. -/
theorem says_reportMessage_iff (hformat : manner.format = .json) (hquiet : manner.quiet = false)
    (message : String) :
    Says (manner.reportMessage message) (.object [("error", .string message)]) ↔
      Legible message.toList := by
  rw [reportMessage_eq hformat hquiet, says_iff]
  constructor
  · rintro ⟨text, hchars, hvalue⟩
    have hsame : message = String.ofList text := by
      simpa using hvalue
    have htext : text = message.toList := by
      rw [hsame, String.toList_ofList]
    rw [htext] at hchars
    exact legible_of_chars hchars
  · intro h
    exact ⟨message.toList, (chars_of_legible h _).2 ⟨rfl, rfl⟩, by rw [String.ofList_toList]⟩

/-- A message that is read back is all that its report says. -/
theorem eq_of_says_reportMessage (hformat : manner.format = .json) (hquiet : manner.quiet = false)
    {message : String} (h : Legible message.toList) {value : Json.Value}
    (hvalue : Says (manner.reportMessage message) value) :
    value = .object [("error", .string message)] := by
  rw [reportMessage_eq hformat hquiet, says_iff] at hvalue
  rcases hvalue with ⟨text, hchars, rfl⟩
  rw [((chars_of_legible h _).1 hchars).1, String.ofList_toList]

/-- How a run over a suite ends that is not there. -/
theorem run_of_missing_suite {s : Surroundings} {args : List String} {request : SuiteRequest}
    (hargs : Invocation.ofArguments? args = some (.run manner (.test request)))
    (hmissing : s.tree.isDirectory request.setup.directory = false) :
    run s args =
      { code := 1
        stderr := manner.reportMessage
          ("test suite directory not found: " ++ request.setup.directory)
        tree := s.tree } := by
  unfold run
  rw [hargs]
  dsimp only
  unfold test
  dsimp only
  rw [hmissing]
  rfl

/-- A run over a suite that is not there, with errors as JSON, ends with one object. The object tells
the directory exactly if that has no backslash and no control character in it, and then it tells
nothing else. The same holds of every message that is reported so. -/
theorem suite_refusal_reads_back_iff (s : Surroundings) {args : List String}
    {request : SuiteRequest}
    (hargs : Invocation.ofArguments? args = some (.run manner (.test request)))
    (hformat : manner.format = .json) (hquiet : manner.quiet = false)
    (hmissing : s.tree.isDirectory request.setup.directory = false) :
    let result := run s args
    let directory := request.setup.directory
    let refusal := "test suite directory not found: " ++ directory
    result.code = 1 ∧ result.stdout = "" ∧ result.tree = s.tree ∧
      ((∃ members, Says result.stderr (.object members) ∧ ("error", .string refusal) ∈ members) ↔
        Legible directory.toList) ∧
      (Legible directory.toList → ∀ value, Says result.stderr value ↔
        value = .object [("error", .string refusal)]) ∧
      ∀ message, Says (manner.reportMessage message) (.object [("error", .string message)]) ↔
        Legible message.toList := by
  dsimp only
  have hlegible :
      Legible ("test suite directory not found: " ++ request.setup.directory).toList ↔
        Legible request.setup.directory.toList := by
    rw [String.toList_append, legible_append_iff]
    exact and_iff_right (by decide)
  have hreads := says_reportMessage_iff hformat hquiet
  rw [run_of_missing_suite hargs hmissing]
  refine ⟨rfl, rfl, rfl, ?_, ?_, hreads⟩
  · rw [← hlegible, ← hreads]
    constructor
    · rintro ⟨members, hobject, hmember⟩
      rw [reportMessage_eq hformat hquiet] at hobject
      rcases says_iff.1 hobject with ⟨text, -, hvalue⟩
      cases hvalue
      rw [← List.mem_singleton.1 hmember] at hobject
      rwa [reportMessage_eq hformat hquiet]
    · intro hobject
      exact ⟨_, hobject, List.mem_singleton_self _⟩
  · intro hdirectory value
    have hmessage := hlegible.2 hdirectory
    constructor
    · exact eq_of_says_reportMessage hformat hquiet hmessage
    · rintro rfl
      exact (hreads _).2 hmessage

end Reports

/-! ### Directories that are not there -/

/-- What stands before the name of a request, and the request itself. -/
theorem readRun_eq_ok {args rest : List String} {outer inner : Given} {name : String}
    {request : Request} (hhead : readHead ({}, none) args = .ok (outer, name, rest))
    (hrequest : readRequest name rest = .ok (inner, request)) :
    readRun args = .ok (.run (Manner.ofGiven outer inner) request) := by
  simp only [readRun, bind, Except.bind, hhead, hrequest]
  rfl

/-- Arguments that ask for a suite. -/
theorem ofArguments?_suite (directory : String) (hplain : Shape.of directory = .plain)
    (hne : directory ≠ "") :
    Invocation.ofArguments? ["--output", "json", "test", directory] =
      some (.run { format := .json } (.test { setup := { directory } })) := by
  have hhead :
      readHead ({}, none) ["--output", "json", "test", directory] =
        .ok (⟨[(.output, "json")], []⟩, "test", [directory]) := rfl
  have hread (keys : List Key) :
      readArguments keys ({}, none) [directory] = .ok ⟨[], [directory]⟩ := by
    rw [readArguments, hplain]
    rfl
  have hsetup : Given.suiteRequest ⟨[], [directory]⟩ = .ok { setup := { directory } } := by
    have hdirectory : Given.directory ⟨[], [directory]⟩ = .ok directory := if_neg hne
    rw [Given.suiteRequest, hdirectory]
    rfl
  have hrequest :
      readRequest "test" [directory] =
        .ok (⟨[], [directory]⟩, .test { setup := { directory } }) := by
    simp only [readRequest, hread]
    change (do return (_, Request.test (← Given.suiteRequest ⟨[], [directory]⟩))) = _
    rw [hsetup]
    rfl
  have hrun :
      readRun ["--output", "json", "test", directory] =
        .ok (.run { format := .json } (.test { setup := { directory } })) :=
    readRun_eq_ok hhead hrequest
  rw [Invocation.ofArguments?, hrun]

/-- A file system with nothing in it. -/
def bareSurroundings : Surroundings where
  tree := {}
  interpreter := fun _ _ files => ⟨.error "no such program", files⟩

theorem isDirectory_bare {name : String} (hname : Path.IsName name) (hfits : FileTree.Fits name) :
    bareSurroundings.tree.isDirectory name = false := by
  have hlocate : ({} : FileTree).locate name = .ok [name] :=
    FileTree.locate_of_isName rfl hname hfits
  rw [Bool.eq_false_iff, Ne, FileTree.isDirectory_iff]
  rintro ⟨dir, hdir, hnode⟩
  cases hlocate.symm.trans hdir
  simp [bareSurroundings, FileTree.node?_empty] at hnode

/-- Quotation marks and letters beyond ASCII come back. -/
theorem suite_refusal_reads_back_quoted :
    let args := ["--output", "json", "test", "no\"süch"]
    Invocation.ofArguments? args =
        some (.run { format := .json } (.test { setup := { directory := "no\"süch" } })) ∧
      bareSurroundings.tree.isDirectory "no\"süch" = false ∧
      ∀ value, Says (run bareSurroundings args).stderr value ↔
        value = .object [("error", .string "test suite directory not found: no\"süch")] := by
  dsimp only
  have hargs := ofArguments?_suite "no\"süch" (by decide) (by decide)
  have hmissing : bareSurroundings.tree.isDirectory "no\"süch" = false :=
    isDirectory_bare (by decide) (by decide)
  rcases suite_refusal_reads_back_iff bareSurroundings hargs rfl rfl hmissing with
    ⟨-, -, -, -, hall, -⟩
  exact ⟨hargs, hmissing, hall (by decide)⟩

/-- With a backslash and then a letter that stands for nothing behind it, the text is no JSON. -/
theorem backslash_in_directory :
    let args := ["--output", "json", "test", "suites\\core"]
    Invocation.ofArguments? args =
        some (.run { format := .json } (.test { setup := { directory := "suites\\core" } })) ∧
      bareSurroundings.tree.isDirectory "suites\\core" = false ∧
      ∀ value, ¬ Says (run bareSurroundings args).stderr value := by
  dsimp only
  have hargs := ofArguments?_suite "suites\\core" (by decide) (by decide)
  have hmissing : bareSurroundings.tree.isDirectory "suites\\core" = false :=
    isDirectory_bare (by decide) (by decide)
  refine ⟨hargs, hmissing, fun value hvalue => ?_⟩
  rw [run_of_missing_suite hargs hmissing, reportMessage_eq rfl rfl] at hvalue
  rcases says_iff.1 hvalue with ⟨text, hchars, -⟩
  have hprinted :
      quoteEscaped ("test suite directory not found: " ++ "suites\\core").toList ++ closing =
        "test suite directory not found: suites".toList ++
          '\\' :: 'c' :: ("ore".toList ++ closing) := by
    decide
  rw [hprinted] at hchars
  rcases (Json.chars_append_iff (by decide)).1 hchars with ⟨more, -, hmore⟩
  cases hmore with
  | more hpiece _ =>
      cases hpiece with
      | plain _ hslash _ =>
          exact hslash rfl
      | short hshort =>
          simp [Json.shorts] at hshort

end CommandLine
end TemplateVariants
