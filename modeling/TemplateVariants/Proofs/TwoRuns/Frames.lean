import TemplateVariants.Proofs.Passes.Resolution
import TemplateVariants.Proofs.TwoRuns.Agreement

/-!
# Two templates with the same commands

Two templates that differ in the text of their literals go through the same passes. What becomes of
a line is a frame around its own text: what each of its commands gave, and the lines beside it. The
frames are the same for both templates; the lines at the end are these frames, filled with the
literals of the one template or of the other (`Document.literals_do_not_steer`).
-/

namespace TemplateVariants

open ListForm Randomness Compiling

/-! ## Templates with the same commands -/

/-- Tokens that are the same, but for the text of literals. -/
inductive Token.Like : Token → Token → Prop where
  | literal (t t' : String) :
      Like (.literal t) (.literal t')
  | command (command : Command) :
      Like (.command command) (.command command)

/-- Lines from the same place, with tokens that are the same but for the text of literals. -/
structure PendingLine.Like (line line' : PendingLine) : Prop where
  origin : line.origin = line'.origin
  tokens : List.Forall₂ Token.Like line.tokens line'.tokens

/-! ## Frames -/

/-- What becomes of a line, but for its own text: the lines before and after it, which take its
indentation, and what each of its commands gave. -/
structure Frame where
  before : List Line
  places : List Line
  after : List Line

/-- The line with its literals copied, and with what was given for each command in its place. -/
def Line.placed : Line → List Line → Line
  | [], _ => []
  | .literal t :: line, places => .literal t :: Line.placed line places
  | .command _ :: line, places => places.headD [] ++ Line.placed line places.tail

namespace PendingLine

/-- A line beside the line, with its indentation. -/
def beside (line : PendingLine) (bare : Line) : PendingLine :=
  ⟨line.origin, startLine (indentation line.tokens) bare⟩

/-- The line itself, with what was given for its commands. -/
def rebuilt (line : PendingLine) (places : List Line) : PendingLine :=
  ⟨line.origin, Line.placed line.tokens places⟩

/-- The frame around the line. -/
def framed (line : PendingLine) (frame : Frame) : List PendingLine :=
  frame.before.map line.beside ++ line.rebuilt frame.places :: frame.after.map line.beside

end PendingLine

/-- The lines, each in its frame. -/
def framedAll (lines : List PendingLine) (frames : List Frame) : List PendingLine :=
  (List.zipWith PendingLine.framed lines frames).flatten

theorem framedAll_cons (line : PendingLine) (lines : List PendingLine) (frame : Frame)
    (frames : List Frame) :
    framedAll (line :: lines) (frame :: frames) = line.framed frame ++ framedAll lines frames := by
  simp [framedAll]

/-- A line that nothing was made of yet stands alone in its frame. -/
def Frame.start (line : PendingLine) : Frame where
  before := []
  places := (line.tokens.filter Token.isCommand).map fun token => [token]
  after := []

theorem Line.placed_start {tokens tokens' : Line} (h : List.Forall₂ Token.Like tokens tokens') :
    Line.placed tokens' ((tokens.filter Token.isCommand).map fun token => [token]) = tokens' := by
  induction h with
  | nil =>
      rfl
  | cons hfirst _ ih =>
      cases hfirst with
      | literal t t' =>
          exact congrArg _ ih
      | command command =>
          exact congrArg _ ih

theorem PendingLine.framed_start {line line' : PendingLine} (h : line.Like line') :
    line'.framed (Frame.start line) = [line'] := by
  simp [framed, rebuilt, Frame.start, Line.placed_start h.tokens]

theorem framedAll_start {lines lines' : List PendingLine}
    (h : List.Forall₂ PendingLine.Like lines lines') :
    framedAll lines' (lines.map Frame.start) = lines' := by
  induction h with
  | nil =>
      rfl
  | cons hfirst _ ih =>
      rw [List.map_cons, framedAll_cons, PendingLine.framed_start hfirst, ih, List.singleton_append]

/-! ## The commands of framed lines -/

/-- Line by line the same commands stand in the lines. -/
def SameCommands : List PendingLine → List PendingLine → Prop :=
  List.Forall₂ fun line line' =>
    line.tokens.filter Token.isCommand = line'.tokens.filter Token.isCommand

theorem SameCommands.commandCount_eq {lines lines' : List PendingLine}
    (h : SameCommands lines lines') :
    PendingLine.commandCount lines = PendingLine.commandCount lines' := by
  unfold PendingLine.commandCount
  induction h with
  | nil =>
      rfl
  | cons hfirst _ ih =>
      rw [List.flatMap_cons, List.flatMap_cons, List.countP_append, List.countP_append, ih,
        List.countP_eq_length_filter, hfirst, ← List.countP_eq_length_filter]

/-- An indentation is no command. -/
theorem filter_startLine (indent : String) (line : Line) :
    (startLine indent line).filter Token.isCommand = line.filter Token.isCommand := by
  unfold startLine
  split
  · rfl
  · rfl

theorem filter_placed {tokens tokens' : Line} (h : List.Forall₂ Token.Like tokens tokens')
    (places : List Line) :
    (Line.placed tokens places).filter Token.isCommand =
      (Line.placed tokens' places).filter Token.isCommand := by
  induction h generalizing places with
  | nil =>
      rfl
  | cons hfirst _ ih =>
      cases hfirst with
      | literal t t' =>
          exact ih places
      | command command =>
          rw [Line.placed, Line.placed, List.filter_append, List.filter_append, ih]

theorem sameCommands_framed {line line' : PendingLine} (h : line.Like line') (frame : Frame) :
    SameCommands (line.framed frame) (line'.framed frame) := by
  have hbeside :
      ∀ beside : List Line, SameCommands (beside.map line.beside) (beside.map line'.beside) := by
    intro beside
    refine List.forall₂_map_left_iff.2 (List.forall₂_map_right_iff.2 (List.forall₂_same.2 ?_))
    intro bare _
    rw [PendingLine.beside, PendingLine.beside, filter_startLine, filter_startLine]
  exact List.rel_append (hbeside frame.before)
    (.cons (filter_placed h.tokens frame.places) (hbeside frame.after))

theorem sameCommands_framedAll {lines lines' : List PendingLine}
    (h : List.Forall₂ PendingLine.Like lines lines') (frames : List Frame) :
    SameCommands (framedAll lines frames) (framedAll lines' frames) := by
  induction h generalizing frames with
  | nil =>
      exact .nil
  | cons hfirst _ ih =>
      cases frames with
      | nil =>
          exact .nil
      | cons frame frames =>
          rw [framedAll_cons, framedAll_cons]
          exact List.rel_append (sameCommands_framed hfirst frame) (ih frames)

/-! ## The first pass -/

section Passes

variable {G : Type} [WordSource G]

/-- What the tokens turned into comes to what the frame has, in a line with the indentation. -/
structure Frame.Holds (frame : Frame) (indent : String) (tokens : Line)
    (parts : List Replacement) : Prop where
  before : parts.flatMap Replacement.before = frame.before.map (startLine indent)
  result : parts.flatMap Replacement.result = Line.placed tokens frame.places
  after : parts.flatMap Replacement.after = frame.after.map (startLine indent)

/-- What a line turned into is the line in its frame. -/
theorem Frame.Holds.framed_eq {frame : Frame} {line : PendingLine} {parts : List Replacement}
    (h : frame.Holds (indentation line.tokens) line.tokens parts) :
    let expanded := Replacement.within parts (.plain (parts.flatMap Replacement.result))
    ((expanded.before ++ expanded.result :: expanded.after).map fun tokens =>
        (⟨line.origin, tokens⟩ : PendingLine)) = line.framed frame := by
  have hbeside :
      line.beside =
        (fun tokens => ⟨line.origin, tokens⟩) ∘ startLine (indentation line.tokens) := rfl
  simp [PendingLine.framed, PendingLine.rebuilt, hbeside, Replacement.within, Replacement.plain,
    h.before, h.result, h.after]

/-- The tokens of two lines come to one frame. -/
theorem agree_expand_tokens {context context' tokens tokens' : Line}
    (h : List.Forall₂ Token.Like tokens tokens') :
    Agree (fun parts parts' => ∃ frame : Frame,
        frame.Holds (indentation context) tokens parts ∧
          frame.Holds (indentation context') tokens' parts')
      (tokens.mapM (Token.expand context) : Compiling Cause G _)
      (tokens'.mapM (Token.expand context')) := by
  induction h with
  | nil =>
      rw [List.mapM_nil, List.mapM_nil]
      exact agree_pure ⟨⟨[], [], []⟩, ⟨rfl, rfl, rfl⟩, ⟨rfl, rfl, rfl⟩⟩
  | @cons token token' tokens tokens' hfirst _ ih =>
      rw [List.mapM_cons, List.mapM_cons]
      cases hfirst with
      | literal t t' =>
          rw [Token.expand, Token.expand, pure_bind, pure_bind]
          refine ih.bind ?_
          rintro parts parts' ⟨frame, hframe, hframe'⟩
          refine agree_pure ⟨frame, ⟨hframe.before, ?_, hframe.after⟩,
            ⟨hframe'.before, ?_, hframe'.after⟩⟩
          · rw [List.flatMap_cons, hframe.result]
            rfl
          · rw [List.flatMap_cons, hframe'.result]
            rfl
      | command command =>
          refine (Token.agree_expand [.command command] _ List.mem_cons_self).bind ?_
          rintro _ _ ⟨bare, rfl, rfl⟩
          refine ih.bind ?_
          rintro parts parts' ⟨frame, hframe, hframe'⟩
          refine agree_pure ⟨⟨bare.before ++ frame.before, bare.result :: frame.places,
            bare.after ++ frame.after⟩, ⟨?_, ?_, ?_⟩, ⟨?_, ?_, ?_⟩⟩
          · rw [List.flatMap_cons, hframe.before, List.map_append]
            rfl
          · rw [List.flatMap_cons, hframe.result]
            rfl
          · rw [List.flatMap_cons, hframe.after, List.map_append]
            rfl
          · rw [List.flatMap_cons, hframe'.before, List.map_append]
            rfl
          · rw [List.flatMap_cons, hframe'.result]
            rfl
          · rw [List.flatMap_cons, hframe'.after, List.map_append]
            rfl

theorem PendingLine.agree_expand {line line' : PendingLine} (file : String) (h : line.Like line') :
    Agree (Made line.framed line'.framed) (line.expand file : Compiling CompileError G _)
      (line'.expand file) := by
  unfold PendingLine.expand
  rw [h.origin]
  refine Agree.mapFault ?_ _
  refine (agree_expand_tokens h.tokens).bind ?_
  rintro parts parts' ⟨frame, hframe, hframe'⟩
  refine agree_pure ⟨frame, ?_, hframe'.framed_eq⟩
  rw [← h.origin]
  exact hframe.framed_eq

theorem expandPass_nil (file : String) :
    (expandPass file [] : Compiling CompileError G _) = pure [] := by
  simp [expandPass]

theorem expandPass_cons (file : String) (line : PendingLine) (lines : List PendingLine) :
    (expandPass file (line :: lines) : Compiling CompileError G _) = do
      let first ← line.expand file
      let rest ← expandPass file lines
      return first ++ rest := by
  simp [expandPass]

/-- Both line lists are made of the frames, one around each of the lines that they started with. -/
def SameFrames (lines lines' next next' : List PendingLine) : Prop :=
  ∃ frames, frames.length = lines.length ∧ next = framedAll lines frames ∧
    next' = framedAll lines' frames

/-- A pass over two templates puts the same frames around their lines. -/
theorem agree_expandPass (file : String) {lines lines' : List PendingLine}
    (h : List.Forall₂ PendingLine.Like lines lines') :
    Agree (SameFrames lines lines') (expandPass file lines : Compiling CompileError G _)
      (expandPass file lines') := by
  induction h with
  | nil =>
      rw [expandPass_nil]
      exact agree_pure ⟨[], rfl, rfl, rfl⟩
  | cons hfirst _ ih =>
      rw [expandPass_cons, expandPass_cons]
      refine (PendingLine.agree_expand file hfirst).bind ?_
      rintro _ _ ⟨frame, rfl, rfl⟩
      refine ih.bind ?_
      rintro _ _ ⟨frames, hlength, rfl, rfl⟩
      refine agree_pure ⟨frame :: frames, by simp [hlength], ?_, ?_⟩
      · rw [framedAll_cons]
      · rw [framedAll_cons]

/-! ## Later passes -/

/-- What a first pass leaves to be expanded: declarations and look-ups. -/
inductive Token.Later : Token → Prop where
  | literal (t : String) :
      Later (.literal t)
  | declare (name : String) :
      Later (.command (.var name []))
  | lookUp (name : String) :
      Later (.command (.get name))

theorem Scoped.later {names : List String} {tokens : List Token} (h : Scoped names tokens) :
    ∀ token ∈ tokens, token.Later := by
  induction h with
  | nil names =>
      simp
  | literal _ ih =>
      exact List.forall_mem_cons.2 ⟨.literal _, ih⟩
  | declare _ ih =>
      exact List.forall_mem_cons.2 ⟨.declare _, ih⟩
  | lookUp _ _ ih =>
      exact List.forall_mem_cons.2 ⟨.lookUp _, ih⟩

/-- Nothing but declarations and look-ups is left in the lines. -/
def LaterLines (lines : List PendingLine) : Prop :=
  ∀ token ∈ lines.flatMap PendingLine.tokens, token.Later

theorem laterLines_append {lines more : List PendingLine} :
    LaterLines (lines ++ more) ↔ LaterLines lines ∧ LaterLines more := by
  rw [LaterLines, List.flatMap_append, List.forall_mem_append]
  rfl

theorem laterLines_cons {line : PendingLine} {lines : List PendingLine} :
    LaterLines (line :: lines) ↔ (∀ token ∈ line.tokens, token.Later) ∧ LaterLines lines := by
  rw [LaterLines, List.flatMap_cons, List.forall_mem_append]
  rfl

theorem SameCommands.laterLines {lines lines' : List PendingLine} (h : SameCommands lines lines')
    (hlater : LaterLines lines) : LaterLines lines' := by
  induction h with
  | nil =>
      exact hlater
  | @cons line line' lines lines' hfirst _ ih =>
      rw [laterLines_cons] at hlater ⊢
      refine ⟨?_, ih hlater.2⟩
      intro token htoken
      cases token with
      | literal t =>
          exact .literal t
      | command command =>
          -- the command stands in the other line too
          have hmem : Token.command command ∈ line'.tokens.filter Token.isCommand :=
            List.mem_filter.2 ⟨htoken, rfl⟩
          rw [← hfirst] at hmem
          exact hlater.1 _ (List.mem_filter.1 hmem).1

/-- What a token turns into, without the lines beside it. -/
def Token.meaning (token : Token) : Compiling Cause G Line := do
  return (← token.expand []).result

/-- What the tokens of a line turn into, one after the other. -/
def Line.meaning (tokens : Line) : Compiling Cause G Line := do
  return (← tokens.mapM Token.meaning).flatten

/-- In every line it is the same tokens that take the place of a later token, and no line is put
beside it. -/
theorem Token.Later.expand_eq {token : Token} (h : token.Later) (context : Line) :
    (token.expand context : Compiling Cause G _) = do return .plain (← token.meaning) := by
  unfold Token.meaning
  cases h with
  | literal t =>
      simp [Token.expand, Replacement.plain]
  | declare name =>
      simp [Token.expand, Command.perform, Token.expandTexts, Compiling.noted, Replacement.plain,
        Replacement.within]
  | lookUp name =>
      simp [Token.expand, Command.perform, Compiling.noted, Replacement.plain]

theorem Line.meaning_append (tokens more : Line) :
    (Line.meaning (tokens ++ more) : Compiling Cause G Line) = do
      let first ← Line.meaning tokens
      let rest ← Line.meaning more
      return first ++ rest := by
  simp [Line.meaning]

theorem Line.meaning_literal_cons (t : String) (tokens : Line) :
    (Line.meaning (.literal t :: tokens) : Compiling Cause G Line) = do
      return .literal t :: (← Line.meaning tokens) := by
  simp [Line.meaning, Token.meaning, Token.expand, Replacement.plain]

/-- A line of later tokens is rebuilt, and stays one line. -/
theorem PendingLine.expand_eq_meaning (file : String) {line : PendingLine}
    (h : ∀ token ∈ line.tokens, token.Later) :
    (line.expand file : Compiling CompileError G _) =
      mapFault (fun cause => CompileError.locate ⟨cause, none⟩ file line.origin) (do
        return [⟨line.origin, ← Line.meaning line.tokens⟩]) := by
  -- each token is expanded as it is in any line
  have htokens :
      ∀ context tokens : Line, (∀ token ∈ tokens, token.Later) →
        (tokens.mapM (Token.expand context) : Compiling Cause G _) = do
          return (← tokens.mapM Token.meaning).map Replacement.plain := by
    intro context tokens hlater
    induction tokens with
    | nil =>
        simp
    | cons token tokens ih =>
        rcases List.forall_mem_cons.1 hlater with ⟨htoken, hrest⟩
        rw [List.mapM_cons, List.mapM_cons, htoken.expand_eq, ih hrest]
        simp
  unfold PendingLine.expand Line.meaning
  rw [htokens line.tokens line.tokens h]
  have hnone : ∀ made : List Line, made.flatMap (fun _ => ([] : List Line)) = [] := by
    intro made
    exact List.flatMap_eq_nil_iff.2 fun _ _ => rfl
  simp [Replacement.within, Replacement.plain, List.flatMap_map, List.flatMap_id', hnone]

/-- Later lines are expanded alike where their tokens are. -/
theorem agree_expand_of_meaning {μ : Type} (file : String) {origin origin' : Nat}
    {tokens tokens' : Line} {f f' : μ → Line} (horigin : origin = origin')
    (hlater : ∀ token ∈ tokens, token.Later) (hlater' : ∀ token ∈ tokens', token.Later)
    (h : Agree (Made f f') (Line.meaning tokens : Compiling Cause G Line)
      (Line.meaning tokens')) :
    Agree (Made (fun m => [⟨origin, f m⟩]) fun m => [⟨origin', f' m⟩])
      (PendingLine.expand file ⟨origin, tokens⟩ : Compiling CompileError G _)
      (PendingLine.expand file ⟨origin', tokens'⟩) := by
  rw [PendingLine.expand_eq_meaning file hlater, PendingLine.expand_eq_meaning file hlater',
    horigin]
  refine Agree.mapFault (h.bind ?_) _
  rintro _ _ ⟨m, rfl, rfl⟩
  exact agree_pure ⟨m, rfl, rfl⟩

theorem agree_meaning_startLine (indent indent' : String) (bare : Line) :
    Agree (Made (startLine indent) (startLine indent'))
      (Line.meaning (startLine indent bare) : Compiling Cause G Line)
      (Line.meaning (startLine indent' bare)) := by
  -- an indentation is text in front of the line
  have hindent :
      ∀ indent : String, (Line.meaning (startLine indent bare) : Compiling Cause G Line) = do
        return startLine indent (← Line.meaning bare) := by
    intro indent
    by_cases hempty : indent.isEmpty = true
    · simp [startLine, hempty]
    · simp [startLine, hempty, Line.meaning_literal_cons]
  rw [hindent indent, hindent indent']
  refine agree_bind ?_
  intro made
  exact agree_pure ⟨made, rfl, rfl⟩

theorem agree_meaning_placed {tokens tokens' : Line} (h : List.Forall₂ Token.Like tokens tokens')
    (places : List Line) :
    Agree (Made (Line.placed tokens) (Line.placed tokens'))
      (Line.meaning (Line.placed tokens places) : Compiling Cause G Line)
      (Line.meaning (Line.placed tokens' places)) := by
  induction h generalizing places with
  | nil =>
      have hnil : (Line.meaning [] : Compiling Cause G Line) = pure [] := by
        simp [Line.meaning]
      rw [Line.placed, hnil]
      exact agree_pure ⟨[], rfl, rfl⟩
  | cons hfirst _ ih =>
      cases hfirst with
      | literal t t' =>
          rw [Line.placed, Line.placed, Line.meaning_literal_cons, Line.meaning_literal_cons]
          refine (ih places).bind ?_
          rintro _ _ ⟨made, rfl, rfl⟩
          exact agree_pure ⟨made, rfl, rfl⟩
      | command command =>
          rw [Line.placed, Line.placed, Line.meaning_append, Line.meaning_append]
          refine agree_bind ?_
          intro first
          refine (ih places.tail).bind ?_
          rintro _ _ ⟨made, rfl, rfl⟩
          exact agree_pure ⟨first :: made, rfl, rfl⟩

theorem expandPass_append (file : String) (lines more : List PendingLine) :
    (expandPass file (lines ++ more) : Compiling CompileError G _) = do
      let first ← expandPass file lines
      let rest ← expandPass file more
      return first ++ rest := by
  simp [expandPass]

/-- Lines beside two lines stay beside them. -/
theorem agree_expandPass_beside (file : String) {line line' : PendingLine}
    (horigin : line.origin = line'.origin) {bares : List Line}
    (hlater : LaterLines (bares.map line.beside)) (hlater' : LaterLines (bares.map line'.beside)) :
    Agree (Made (List.map line.beside) (List.map line'.beside))
      (expandPass file (bares.map line.beside) : Compiling CompileError G _)
      (expandPass file (bares.map line'.beside)) := by
  induction bares with
  | nil =>
      rw [List.map_nil, List.map_nil, expandPass_nil]
      exact agree_pure ⟨[], rfl, rfl⟩
  | cons bare bares ih =>
      rw [List.map_cons, laterLines_cons] at hlater hlater'
      rw [List.map_cons, List.map_cons, expandPass_cons, expandPass_cons]
      have hfirst :
          Agree (Made (fun made => [line.beside made]) fun made => [line'.beside made])
            ((line.beside bare).expand file : Compiling CompileError G _)
            ((line'.beside bare).expand file) :=
        agree_expand_of_meaning file horigin hlater.1 hlater'.1 (agree_meaning_startLine _ _ bare)
      refine hfirst.bind ?_
      rintro _ _ ⟨made, rfl, rfl⟩
      refine (ih hlater.2 hlater'.2).bind ?_
      rintro _ _ ⟨rest, rfl, rfl⟩
      exact agree_pure ⟨made :: rest, rfl, rfl⟩

/-- A later pass over a line in its frame leaves it in a frame. -/
theorem agree_expandPass_framed (file : String) {line line' : PendingLine} (h : line.Like line')
    {frame : Frame} (hlater : LaterLines (line.framed frame))
    (hlater' : LaterLines (line'.framed frame)) :
    Agree (Made line.framed line'.framed)
      (expandPass file (line.framed frame) : Compiling CompileError G _)
      (expandPass file (line'.framed frame)) := by
  unfold PendingLine.framed at hlater hlater' ⊢
  rw [laterLines_append, laterLines_cons] at hlater hlater'
  have hown :
      Agree (Made (fun places => [line.rebuilt places]) fun places => [line'.rebuilt places])
        ((line.rebuilt frame.places).expand file : Compiling CompileError G _)
        ((line'.rebuilt frame.places).expand file) :=
    agree_expand_of_meaning file h.origin hlater.2.1 hlater'.2.1
      (agree_meaning_placed h.tokens frame.places)
  simp only [expandPass_append, expandPass_cons, bind_assoc, pure_bind]
  refine (agree_expandPass_beside file h.origin hlater.1 hlater'.1).bind ?_
  rintro _ _ ⟨before, rfl, rfl⟩
  refine hown.bind ?_
  rintro _ _ ⟨places, rfl, rfl⟩
  refine (agree_expandPass_beside file h.origin hlater.2.2 hlater'.2.2).bind ?_
  rintro _ _ ⟨after, rfl, rfl⟩
  exact agree_pure ⟨⟨before, places, after⟩, rfl, rfl⟩

/-- A later pass over two templates puts the same frames around their lines. -/
theorem agree_expandPass_later (file : String) {lines lines' : List PendingLine}
    (h : List.Forall₂ PendingLine.Like lines lines') {frames : List Frame}
    (hlength : frames.length = lines.length) (hlater : LaterLines (framedAll lines frames))
    (hlater' : LaterLines (framedAll lines' frames)) :
    Agree (SameFrames lines lines')
      (expandPass file (framedAll lines frames) : Compiling CompileError G _)
      (expandPass file (framedAll lines' frames)) := by
  induction h generalizing frames with
  | nil =>
      have hnil : framedAll [] frames = [] := rfl
      rw [hnil, expandPass_nil]
      exact agree_pure ⟨[], rfl, rfl, rfl⟩
  | cons hfirst _ ih =>
      cases frames with
      | nil =>
          cases hlength
      | cons frame frames =>
          rw [framedAll_cons, laterLines_append] at hlater hlater'
          rw [framedAll_cons, framedAll_cons, expandPass_append, expandPass_append]
          refine (agree_expandPass_framed file hfirst hlater.1 hlater'.1).bind ?_
          rintro _ _ ⟨first, rfl, rfl⟩
          refine (ih (Nat.succ.inj hlength) hlater.2 hlater'.2).bind ?_
          rintro _ _ ⟨rest, hrest, rfl, rfl⟩
          refine agree_pure ⟨first :: rest, by simp [hrest], ?_, ?_⟩
          · rw [framedAll_cons]
          · rw [framedAll_cons]

end Passes

end TemplateVariants
