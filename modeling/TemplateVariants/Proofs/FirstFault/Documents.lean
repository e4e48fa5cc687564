import TemplateVariants.Proofs.FirstFault.Commands
import TemplateVariants.Proofs.Passes.Later

/-!
# Where an error is

A template is read up to the first line that cannot be read, and compiled up to the first command
whose collapse fails. The error has the number of that line of the template, or of the one that the
command stands in (`Document.errors_located`). Lines that are put in around a line have its number
as their origin, whatever else was put in before them (`PassesTo.origins`); so a number is never one
of a place among the lines in the making.
-/

namespace TemplateVariants

open Randomness

/-! ## Errors with a place -/

namespace CompileError

/-- A place does not change the kind of an error and its message. -/
theorem kind_locate (e : CompileError) (file : String) (number : Nat) :
    (e.locate file number).kind = e.kind ∧ (e.locate file number).message = e.message :=
  ⟨rfl, rfl⟩

/-- An error keeps the place that it has. -/
theorem locate_of_location {e : CompileError} {place : Location} (h : e.location = some place)
    (file : String) (number : Nat) : e.locate file number = e := by
  rcases e with ⟨cause, location⟩
  cases h
  rfl

/-- The error at one place after the other. -/
def locateAll (e : CompileError) (places : List Location) : CompileError :=
  places.foldl (fun e place => e.locate place.file place.line) e

theorem locateAll_of_location {e : CompileError} {place : Location} (h : e.location = some place)
    (places : List Location) : e.locateAll places = e := by
  induction places with
  | nil =>
      rfl
  | cons other places ih =>
      rw [locateAll, List.foldl_cons, locate_of_location h]
      exact ih

theorem kind_locateAll (e : CompileError) (places : List Location) :
    (e.locateAll places).kind = e.kind ∧ (e.locateAll places).message = e.message := by
  induction places generalizing e with
  | nil =>
      exact ⟨rfl, rfl⟩
  | cons other places ih =>
      rcases e.kind_locate other.file other.line with ⟨hkind, hmessage⟩
      rcases ih (e.locate other.file other.line) with ⟨hkinds, hmessages⟩
      exact ⟨hkinds.trans hkind, hmessages.trans hmessage⟩

end CompileError

/-! ## Lines that cannot be read -/

namespace Document

theorem parseLinesFrom_eq_error {file : String} {done : List Line} {number : Nat}
    {texts : List String} {e : CompileError} :
    parseLinesFrom file done number texts = .error e ↔
      ∃ before text after cause, texts = before ++ text :: after ∧
        (∀ read ∈ before, ∃ line, Line.parse read = .ok line) ∧
        Line.parse text = .error cause ∧
        e = ⟨cause, some (.ofNumber file (number + before.length))⟩ := by
  induction texts generalizing done number with
  | nil =>
      constructor
      · intro h
        cases h
      · intro h
        rcases h with ⟨before, text, after, cause, hsplit, -⟩
        exact absurd hsplit (by simp)
  | cons first texts ih =>
      rw [parseLinesFrom]
      cases hfirst : Line.parse first with
      | error cause =>
          constructor
          · intro h
            cases h
            exact ⟨[], first, texts, cause, rfl, by simp, hfirst, rfl⟩
          · intro h
            rcases h with ⟨before, text, after, cause', hsplit, hbefore, htext, rfl⟩
            cases before with
            | nil =>
                cases hsplit
                cases hfirst.symm.trans htext
                rfl
            | cons read before =>
                cases hsplit
                rcases hbefore first List.mem_cons_self with ⟨line, hline⟩
                cases hfirst.symm.trans hline
      | ok line =>
          dsimp only
          rw [ih]
          constructor
          · intro h
            rcases h with ⟨before, text, after, cause, rfl, hbefore, htext, rfl⟩
            refine ⟨first :: before, text, after, cause, rfl, ?_, htext, ?_⟩
            · exact List.forall_mem_cons.2 ⟨⟨line, hfirst⟩, hbefore⟩
            · rw [List.length_cons, Nat.add_assoc, Nat.add_comm 1]
          · intro h
            rcases h with ⟨before, text, after, cause, hsplit, hbefore, htext, rfl⟩
            cases before with
            | nil =>
                cases hsplit
                cases hfirst.symm.trans htext
            | cons read before =>
                cases hsplit
                refine ⟨before, text, after, cause, rfl, ?_, htext, ?_⟩
                · exact fun read hread => hbefore read (List.mem_cons_of_mem _ hread)
                · rw [List.length_cons, Nat.add_assoc, Nat.add_comm 1]

/-- A template is not read exactly if one of its lines is not, and the first of these is at fault. -/
theorem ofLines_eq_error {file : String} {texts : List String} {e : CompileError} :
    ofLines file texts = .error e ↔
      ∃ before text after cause, texts = before ++ text :: after ∧
        (∀ read ∈ before, ∃ line, Line.parse read = .ok line) ∧
        Line.parse text = .error cause ∧
        e = ⟨cause, some (.ofNumber file (before.length + 1))⟩ := by
  have hmap : ofLines file texts = .error e ↔ parseLinesFrom file [] 1 texts = .error e := by
    rw [ofLines]
    cases parseLinesFrom file [] 1 texts with
    | error e' =>
        constructor
        · intro h
          cases h
          rfl
        · intro h
          cases h
          rfl
    | ok lines =>
        constructor
        · intro h
          cases h
        · intro h
          cases h
  rw [hmap, parseLinesFrom_eq_error]
  simp only [Nat.add_comm 1]

example :
    ofLines "greeting" ["good\n", "~[morning"] =
      .error ⟨.syntactic .unclosedSpan, some ⟨"greeting", 2⟩⟩ := by
  cbv

end Document

section Passes

variable {G : Type} [WordSource G]

/-! ## Lines that fail -/

/-- A line fails as its tokens do, and adds where it comes from. -/
theorem PendingLine.expand_eq_failed {file : String} {line : PendingLine} {s s' : Session G}
    {e : CompileError} :
    line.expand file s = .error (.failed e) s' ↔
      ∃ cause, Token.expandAll line.tokens line.tokens s = .error (.failed cause) s' ∧
        e = ⟨cause, some (.ofNumber file line.origin)⟩ := by
  rw [PendingLine.expand, Compiling.mapFault_eq_failed, Token.expandAll_eq_mapM]
  simp only [Compiling.bind_pure_eq_error]
  exact Iff.rfl

/-- A pass ends with the first line that fails. -/
theorem expandPass_eq_error {file : String} {lines : List PendingLine} {s s' : Session G}
    {halt : Halt CompileError} :
    expandPass file lines s = .error halt s' ↔
      ∃ before line after done s₁, lines = before ++ line :: after ∧
        expandPass file before s = .ok done s₁ ∧ line.expand file s₁ = .error halt s' := by
  rw [expandPass, Compiling.bind_pure_eq_error, Compiling.mapM_eq_error]
  constructor
  · intro h
    rcases h with ⟨before, line, after, parts, s₁, rfl, hbefore, hfails⟩
    exact ⟨before, line, after, parts.flatten, s₁, rfl,
      Compiling.bind_eq_ok.2 ⟨parts, s₁, hbefore, rfl⟩, hfails⟩
  · intro h
    rcases h with ⟨before, line, after, done, s₁, rfl, hbefore, hfails⟩
    rcases Compiling.bind_eq_ok.1 hbefore with ⟨parts, s₂, hparts, hdone⟩
    cases hdone
    exact ⟨before, line, after, parts, s₁, rfl, hparts, hfails⟩

/-! ## Origins -/

namespace PendingLine

/-- A line of a document has the number of the lines before it as its origin, counted from one. -/
theorem exists_ofDocument_append (file : String) (before : List Line) (line : Line)
    (after : List Line) :
    ∃ rest, ofDocument ⟨file, before ++ line :: after⟩ =
      ofDocument ⟨file, before⟩ ++ ⟨before.length + 1, line⟩ :: rest := by
  unfold ofDocument
  rw [List.mapIdx_append, List.mapIdx_cons, Nat.zero_add]
  exact ⟨_, rfl⟩

theorem length_ofDocument (doc : Document) : (ofDocument doc).length = doc.lines.length :=
  List.length_mapIdx

/-- Where the lines of a document are split, the document is. -/
theorem ofDocument_eq_append {doc : Document} {before after : List PendingLine}
    {line : PendingLine} (h : ofDocument doc = before ++ line :: after) :
    ∃ first more, doc.lines = first ++ line.tokens :: more ∧
      before = ofDocument ⟨doc.file, first⟩ ∧ line.origin = first.length + 1 := by
  have hlines : doc.lines = before.map tokens ++ line.tokens :: after.map tokens := by
    rw [← map_tokens_ofDocument, h, List.map_append, List.map_cons]
  rcases exists_ofDocument_append doc.file (before.map tokens) line.tokens (after.map tokens) with
    ⟨rest, hrest⟩
  rw [← hlines] at hrest
  have hlength : before.length = (ofDocument ⟨doc.file, before.map tokens⟩).length := by
    rw [length_ofDocument, List.length_map]
  have hsame := List.append_inj (h.symm.trans hrest) hlength
  exact ⟨before.map tokens, after.map tokens, hlines, hsame.1,
    congrArg origin (List.cons.inj hsame.2).1⟩

/-- The lines come from the first so many lines of a template: from all of these, in their order. -/
structure Covers (lines : List PendingLine) (count : Nat) : Prop where
  ordered : (lines.map origin).Pairwise (· ≤ ·)
  all (number : Nat) : number ∈ lines.map origin ↔ 1 ≤ number ∧ number ≤ count

theorem covers_ofDocument (doc : Document) : Covers (ofDocument doc) doc.lines.length := by
  constructor
  · rw [map_origin_ofDocument]
    exact List.pairwise_le_range'
  · intro number
    rw [map_origin_ofDocument, List.mem_range'_1]
    omega

end PendingLine

/-- The lines that take the place of one come from where it does. -/
theorem ExpandedLine.origin_of_mem_lines {line : ExpandedLine} {next : PendingLine}
    (h : next ∈ line.lines) : next.origin = line.source.origin := by
  rcases List.mem_map.1 h with ⟨tokens, -, rfl⟩
  rfl

/-- A pass keeps where lines come from, whatever it puts in around them. -/
theorem ExpandsLines.covers {lines : List PendingLine} {s s' : Session G}
    {expanded : List ExpandedLine} {count : Nat} (h : ExpandsLines lines s expanded s')
    (hcovers : PendingLine.Covers lines count) :
    PendingLine.Covers (expanded.flatMap ExpandedLine.lines) count := by
  rw [← h.map_source] at hcovers
  rcases hcovers with ⟨hordered, hall⟩
  constructor
  · rw [List.pairwise_map] at hordered ⊢
    rw [List.pairwise_map] at hordered
    rw [List.pairwise_flatMap]
    constructor
    · intro line _
      refine List.pairwise_iff_getElem.2 fun i j hi hj _ => Nat.le_of_eq ?_
      rw [ExpandedLine.origin_of_mem_lines (List.getElem_mem hi),
        ExpandedLine.origin_of_mem_lines (List.getElem_mem hj)]
    · refine hordered.imp fun {line other} hle next hnext more hmore => ?_
      rw [ExpandedLine.origin_of_mem_lines hnext, ExpandedLine.origin_of_mem_lines hmore]
      exact hle
  · intro number
    rw [← hall]
    constructor
    · intro hnumber
      rcases List.mem_map.1 hnumber with ⟨next, hnext, rfl⟩
      rcases List.mem_flatMap.1 hnext with ⟨line, hline, hnext⟩
      rw [ExpandedLine.origin_of_mem_lines hnext]
      exact List.mem_map_of_mem (List.mem_map_of_mem hline)
    · intro hnumber
      rcases List.mem_map.1 hnumber with ⟨source, hsource, rfl⟩
      rcases List.mem_map.1 hsource with ⟨line, hline, rfl⟩
      have hresult : ⟨line.source.origin, line.result⟩ ∈ line.lines := by
        simp [ExpandedLine.lines]
      exact List.mem_map.2 ⟨_, List.mem_flatMap.2 ⟨line, hline, hresult⟩, rfl⟩

/-- However many passes are made, lines keep where they come from. -/
theorem PassesTo.covers {file : String} {first lines : List PendingLine} {start s : Session G}
    {n count : Nat} (h : PassesTo file first start n lines s)
    (hcovers : PendingLine.Covers first count) : PendingLine.Covers lines count := by
  induction h with
  | none =>
      exact hcovers
  | next _ hpass ih =>
      rcases expandPass_eq_ok_iff.1 hpass with ⟨expanded, hrun, rfl⟩
      exact hrun.covers ih

/-! ## The first failure of a document -/

/-- From the session `s` on, the line with the given number holds the first command whose collapse
fails: all before it, on earlier lines and on its own, has been expanded. -/
inductive Document.FailsAt (doc : Document) (s : Session G) : Nat → Command → Cause → Prop where
  | intro {before after : List Line} {left right : Line} {top first : Command} {cause : Cause}
      {done : List PendingLine} {parts : List Replacement} {s₁ s₂ s₃ s' : Session G} :
      doc.lines = before ++ (left ++ .command top :: right) :: after →
      expandPass doc.file (PendingLine.ofDocument ⟨doc.file, before⟩) s = .ok done s₁ →
      Token.expandAll (left ++ .command top :: right) left s₁ = .ok parts s₂ →
      top.Reaches (left ++ .command top :: right) s₂ first s₃ →
      first.FailsFirst (left ++ .command top :: right) s₃ cause s' →
      FailsAt doc s (before.length + 1) first cause

/-- The first pass fails exactly if the document has a first failure, and that is its error. -/
theorem Document.expandPass_eq_failed {doc : Document} {s : Session G} {e : CompileError} :
    (∃ s', expandPass doc.file (PendingLine.ofDocument doc) s = .error (.failed e) s') ↔
      ∃ number first cause, doc.FailsAt s number first cause ∧
        e = ⟨cause, some (.ofNumber doc.file number)⟩ := by
  constructor
  · intro h
    rcases h with ⟨s', hpass⟩
    rcases expandPass_eq_error.1 hpass with ⟨before, line, after, done, s₁, hsplit, hbefore, hline⟩
    rcases PendingLine.expand_eq_failed.1 hline with ⟨cause, hrow, rfl⟩
    rcases Token.expandAll_eq_error.1 hrow with ⟨left, top, right, parts, s₂, htokens, hleft, htop⟩
    rcases Command.exists_failsFirst htop with ⟨first, s₃, hreaches, hfirst⟩
    rcases PendingLine.ofDocument_eq_append hsplit with ⟨earlier, more, hlines, rfl, horigin⟩
    rw [htokens] at hlines hleft hreaches hfirst
    refine ⟨earlier.length + 1, first, cause, .intro hlines hbefore hleft hreaches hfirst, ?_⟩
    rw [horigin]
  · intro h
    rcases h with ⟨number, first, cause, hfails, rfl⟩
    cases hfails with
    | @intro before after left right top _ _ done parts s₁ s₂ s₃ s' hlines hbefore hleft hreaches
        hfirst =>
        rcases PendingLine.exists_ofDocument_append doc.file before (left ++ .command top :: right)
          after with ⟨rest, hsplit⟩
        rw [← hlines] at hsplit
        -- the failure of the nested command is the one of its line
        have htop := hreaches.error hfirst.fails
        have hrow := Token.expandAll_eq_error.2 ⟨left, top, right, parts, s₂, rfl, hleft, htop⟩
        refine ⟨s', expandPass_eq_error.2 ⟨_, _, rest, done, s₁, hsplit, hbefore, ?_⟩⟩
        exact PendingLine.expand_eq_failed.2 ⟨cause, hrow, rfl⟩

/-- From scoped lines on there is no fault but that passes are used up. -/
theorem Settles.eq_divergence_of_scoped {file : String} {left passes calls : Nat}
    {lines : List PendingLine} {s s' : Session G} {e : CompileError}
    (h : Settles file left passes lines s calls (.error (.failed e) s')) (hs : s.Settled)
    (hscoped : Scoped [] (lines.flatMap PendingLine.tokens)) :
    e = ⟨.divergence (passes + left), none⟩ := by
  rcases (h.of_scoped hs hscoped).2 e s' rfl with ⟨rfl, -⟩
  cases h with
  | exhausted _ =>
      rfl

/-- A compilation fails for want of passes, or in its first pass. -/
theorem Document.outcome_eq_failed {doc : Document} {options : Options} {dice : Dice G}
    {e : CompileError} (h : (doc.compile options dice).outcome = .error (.failed e)) :
    e = ⟨.divergence options.maxPasses, none⟩ ∨
      ∃ s', expandPass doc.file (PendingLine.ofDocument doc) (options.session dice) =
        .error (.failed e) s' := by
  rcases compile_outcome_error_iff.1 h with ⟨s', hresult⟩
  rcases Settles.exists_calls doc.file options.maxPasses 0 (PendingLine.ofDocument doc)
    (options.session dice) with ⟨calls, hrun⟩
  rw [hresult] at hrun
  generalize options.maxPasses = left at hrun
  cases hrun with
  | exhausted _ =>
      exact .inl rfl
  | halted _ hpass =>
      exact .inr ⟨s', hpass⟩
  | again _ hpass hrest =>
      -- what the first pass leaves behind has no faults of its own
      rcases expandPass_eq_ok_iff.1 hpass with ⟨expanded, hfirst, rfl⟩
      have hsettled := (hfirst.sound_and_settled (options.settled_session dice)).2.record
      have hscoped := hfirst.scoped_lines (options.settled_session dice)
      have hdiverged := hrest.eq_divergence_of_scoped (hsettled _) hscoped
      rw [Nat.zero_add, Nat.add_comm] at hdiverged
      exact .inl hdiverged

/-- A failure in the first pass is the outcome, if there is a first pass. -/
theorem Document.outcome_of_expandPass {doc : Document} {options : Options} {dice : Dice G}
    {e : CompileError} {s' : Session G} (hpasses : options.maxPasses ≠ 0)
    (h : expandPass doc.file (PendingLine.ofDocument doc) (options.session dice) =
      .error (.failed e) s') :
    (doc.compile options dice).outcome = .error (.failed e) := by
  have hsome : PendingLine.commandCount (PendingLine.ofDocument doc) ≠ 0 := by
    intro hnone
    exact faultsIn_expandPass_of_scoped (PendingLine.scoped_of_commandCount hnone) e s' h
  obtain ⟨left, hleft⟩ := Nat.exists_eq_succ_of_ne_zero hpasses
  refine compile_outcome_error_iff.2 ⟨s', ?_⟩
  rw [hleft]
  exact (Settles.halted hsome h).settle_eq

/-- Where errors are. A template that is not read has the error of its first line that is not, at
that line. A compilation that fails has used up its passes, which is no error of a line, or it has
the error of the first command whose collapse fails, at the line of the template that the command
stands in; and this is the outcome whenever there is such a command and a pass is allowed. Lines
that are put in do not move any line to another number. Once an error has a place it keeps it, and
no place changes what kind of error it is and what it says. The number that an error tells is the
number of its line, if that is a word of 32 bits. -/
theorem Document.errors_located (file : String) (texts : List String) (doc : Document)
    (options : Options) (dice : Dice G) :
    (∀ e, ofLines file texts = .error e ↔
      ∃ before text after cause, texts = before ++ text :: after ∧
        (∀ read ∈ before, ∃ line, Line.parse read = .ok line) ∧
        Line.parse text = .error cause ∧
        e = ⟨cause, some (.ofNumber file (before.length + 1))⟩) ∧
    (∀ e, (doc.compile options dice).outcome = .error (.failed e) →
      e = ⟨.divergence options.maxPasses, none⟩ ∨
        ∃ number first cause, doc.FailsAt (options.session dice) number first cause ∧
          cause.IsOfCommand ∧ e = ⟨cause, some (.ofNumber doc.file number)⟩) ∧
    (∀ number first cause, doc.FailsAt (options.session dice) number first cause →
      options.maxPasses ≠ 0 →
        (doc.compile options dice).outcome =
          .error (.failed ⟨cause, some (.ofNumber doc.file number)⟩)) ∧
    (∀ n lines s,
      PassesTo doc.file (PendingLine.ofDocument doc) (options.session dice) n lines s →
        PendingLine.Covers lines doc.lines.length) ∧
    (∀ (e : CompileError) (places : List Location),
      (e.locateAll places).kind = e.kind ∧ (e.locateAll places).message = e.message ∧
        (e.location ≠ none → e.locateAll places = e)) ∧
    ∀ file number, number < UInt32.size → ((Location.ofNumber file number).line : Nat) = number := by
  refine ⟨fun e => ofLines_eq_error, fun e h => ?_, fun number first cause hfails hpasses => ?_,
    fun n lines s hpasses => hpasses.covers (PendingLine.covers_ofDocument doc),
    fun e places => ?_, fun file _ => Location.line_ofNumber file⟩
  · rcases outcome_eq_failed h with hdiverged | ⟨s', hpass⟩
    · exact .inl hdiverged
    · rcases expandPass_eq_failed.1 ⟨s', hpass⟩ with ⟨number, first, cause, hfails, rfl⟩
      have hcause := (faultsIn_expandPass _ _ _ _ _ hpass).1
      exact .inr ⟨number, first, cause, hfails, hcause, rfl⟩
  · rcases expandPass_eq_failed.2 ⟨number, first, cause, hfails, rfl⟩ with ⟨s', hpass⟩
    exact outcome_of_expandPass hpasses hpass
  · rcases e.kind_locateAll places with ⟨hkind, hmessage⟩
    refine ⟨hkind, hmessage, fun hplace => ?_⟩
    rcases Option.ne_none_iff_exists'.1 hplace with ⟨place, hlocation⟩
    exact CompileError.locateAll_of_location hlocation places

end Passes

end TemplateVariants
