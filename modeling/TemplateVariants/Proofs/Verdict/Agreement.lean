import TemplateVariants.Proofs.Laws
import TemplateVariants.Proofs.Passes.Resolution
import TemplateVariants.Proofs.Reading
import TemplateVariants.Proofs.Verdict.Walk

/-!
# Expansion follows the walk

What is drawn while a static template is expanded decides which texts come out, but not which
commands are expanded, in which order, and whether they fail. So each step of the first pass ends as
the walk over the template does (`Compiling.Follows`), unless a draw stalls; the second pass has no
faults. Whether a static template compiles is settled before any word is drawn.
-/

namespace TemplateVariants

open ListForm Randomness

/-- The session has the limit, and exactly the names are bound in it. -/
structure Session.Knows {G : Type} (s : Session G) (limit : Nat) (names : List String) : Prop where
  limit : s.maxCollectionSize = limit
  binds : ∀ name, s.Binds name ↔ name ∈ names

namespace Session.Knows

variable {G : Type} {s s' : Session G} {limit : Nat} {names : List String}

theorem of_bindings_eq (h : s.Knows limit names) (hbindings : s'.bindings = s.bindings)
    (hlimit : s'.maxCollectionSize = s.maxCollectionSize) : s'.Knows limit names where
  limit := hlimit.trans h.limit
  binds := by
    intro name
    rw [← h.binds name]
    exact ⟨fun hname => hname.of_bindings_eq hbindings.symm,
      fun hname => hname.of_bindings_eq hbindings⟩

theorem introduce [WordSource G] {name identifier : String} {candidates : List String}
    (h : s.Knows limit names)
    (hintroduce : (Compiling.introduce name candidates : Compiling Cause G String) s =
      .ok identifier s') : s'.Knows limit (name :: names) where
  limit := by
    rcases Compiling.introduce_eq_ok.1 hintroduce with ⟨dice, -, rfl⟩
    exact h.limit
  binds := by
    intro other
    rw [Session.Binds, Compiling.lookup?_of_introduce hintroduce, List.mem_cons, ← h.binds other]
    by_cases hname : name = other
    · simp [hname]
    · simp [hname, Ne.symm hname, Session.Binds]

end Session.Knows

/-! ## Steps that follow a walk -/

namespace Compiling

variable {ε δ G α β : Type} {limit : Nat} {names : List String}

/-- The result is the one that the walk foretells: the names that are bound, or the fault. Only a
stall is not foretold. -/
inductive Foretold (limit : Nat) :
    EStateM.Result (Halt ε) (Session G) α → Except ε (List String) → Prop where
  | ok {a : α} {s : Session G} {names : List String} :
      s.Knows limit names →
      Foretold limit (.ok a s) (.ok names)
  | failed {e : ε} {s : Session G} :
      Foretold limit (.error (.failed e) s) (.error e)
  | stalled {s : Session G} {walk : Except ε (List String)} :
      Foretold limit (.error .stalled s) walk

/-- Where exactly the names are bound, the step ends as the walk does. -/
def Follows (limit : Nat) (names : List String) (step : Compiling ε G α)
    (walk : Except ε (List String)) : Prop :=
  ∀ s : Session G, s.Knows limit names → Foretold limit (step s) walk

namespace Follows

variable {step : Compiling ε G α} {walk : Except ε (List String)}

theorem pure (a : α) : Follows limit names (pure a : Compiling ε G α) (.ok names) :=
  fun _ hs => .ok hs

theorem fail (e : ε) : Follows limit names (fail e : Compiling ε G α) (.error e) :=
  fun _ _ => .failed

theorem roll (draw : Draw G α) :
    Follows limit names (Compiling.roll draw : Compiling ε G α) (.ok names) := by
  intro s hs
  unfold Compiling.roll
  cases draw s.dice with
  | ok a dice =>
      exact .ok (hs.of_bindings_eq rfl rfl)
  | error e dice =>
      exact .stalled

theorem record (event : Event) :
    Follows limit names (Compiling.record event : Compiling ε G Unit) (.ok names) :=
  fun _ hs => .ok (hs.of_bindings_eq rfl rfl)

/-- What comes next goes on with the names that the walk has found so far. -/
theorem bind {f : α → Compiling ε G β} {next : List String → Except ε (List String)}
    (h : Follows limit names step walk)
    (hf : ∀ a names', walk = .ok names' → Follows limit names' (f a) (next names')) :
    Follows limit names (step >>= f) (walk >>= next) := by
  intro s hs
  have hstep := h s hs
  cases hresult : step s with
  | ok a s₁ =>
      rw [Compiling.bind_of_ok hresult]
      rw [hresult] at hstep
      cases hstep with
      | ok hs₁ =>
          exact hf a _ rfl s₁ hs₁
  | error halt s₁ =>
      rw [Compiling.bind_of_error hresult]
      rw [hresult] at hstep
      cases hstep with
      | failed =>
          exact .failed
      | stalled =>
          exact .stalled

/-- The walk goes no further where the rest of the step cannot fault and binds nothing. -/
theorem quiet {f : α → Compiling ε G β} (h : Follows limit names step walk)
    (hf : ∀ a names', Follows limit names' (f a) (.ok names')) :
    Follows limit names (step >>= f) walk := by
  have hnext := h.bind fun a names' _ => hf a names'
  rwa [show (walk >>= fun names' => .ok names') = walk from by cases walk <;> rfl] at hnext

theorem mapFault (h : Follows limit names step walk) (f : ε → δ) :
    Follows limit names (Compiling.mapFault f step) (walk.mapError f) := by
  intro s hs
  have hstep := h s hs
  unfold Compiling.mapFault
  cases hresult : step s with
  | ok a s₁ =>
      rw [hresult] at hstep
      cases hstep with
      | ok hs₁ =>
          exact .ok hs₁
  | error halt s₁ =>
      rw [hresult] at hstep
      cases hstep with
      | failed =>
          exact .failed
      | stalled =>
          exact .stalled

/-- A step that is repeated is walked over as often. -/
theorem replicate {next : List String → Except ε (List String)}
    (h : ∀ names, Follows limit names step (next names)) (n : Nat) (names : List String) :
    Follows limit names ((List.replicate n ()).mapM fun _ => step)
      ((List.replicate n ()).foldlM (fun names _ => next names) names) := by
  induction n generalizing names with
  | zero =>
      rw [List.replicate_zero, List.mapM_nil]
      exact .pure _
  | succ n ih =>
      rw [List.replicate_succ, List.mapM_cons, List.foldlM_cons]
      refine (h names).bind fun first names' _ => ?_
      exact (ih names').quiet fun rest names'' => .pure _

end Follows

/-! ## The steps of commands -/

theorem follows_noted {command : Command} {step : Compiling Cause G Replacement}
    {walk : Except Cause (List String)} (h : Follows limit names step walk) :
    Follows limit names (noted command step) walk :=
  h.quiet fun _ _ => (Follows.record _).quiet fun _ _ => .pure _

theorem follows_fetch (name : String) :
    Follows limit names (fetch name : Compiling Cause G Token)
      (if name ∈ names then .ok names else .error (.binding (.unbound name))) := by
  intro s hs
  by_cases hname : name ∈ names
  · rcases Option.isSome_iff_exists.1 ((hs.binds name).2 hname) with ⟨value, hvalue⟩
    have hfound : (fetch name : Compiling Cause G Token) s = .ok value s :=
      fetch_eq_ok.2 ⟨hvalue, rfl⟩
    rw [if_pos hname, hfound]
    exact .ok hs
  · have hnone : s.lookup? name = none := by
      rw [← Option.not_isSome_iff_eq_none]
      exact fun hsome => hname ((hs.binds name).1 hsome)
    rw [if_neg hname, fetch_of_none hnone]
    exact .failed

/-- Slots are counted without a draw, so the number of them is foretold too. -/
theorem follows_slots {text : String} {n : Int} (hsize : Argument.size text = .ok n)
    {f : Nat → Compiling Cause G α} {walk : Except Cause (List String)}
    (hf : Follows limit names (f n.toNat) walk) :
    Follows limit names (slots text >>= f)
      (if limit < n.toNat then .error (.conversion (.sizeLimit n limit)) else walk) := by
  intro s hs
  have hslots :
      (slots text : Compiling Cause G Nat) =
        (get >>= fun s => if s.maxCollectionSize < n.toNat then
          Compiling.fail (.conversion (.sizeLimit n s.maxCollectionSize))
        else Pure.pure n.toNat) := by
    rw [slots, hsize]
    rfl
  rw [hslots, bind_assoc]
  change Foretold limit (((if s.maxCollectionSize < n.toNat then _ else _) >>= f) s) _
  rw [hs.limit]
  split
  · exact .failed
  · rw [pure_bind]
    exact hf s hs

variable [WordSource G]

theorem follows_introduce (name : String) (candidates : List String) :
    Follows limit names (introduce name candidates : Compiling Cause G String)
      (.ok (name :: names)) := by
  intro s hs
  cases hresult : (introduce name candidates : Compiling Cause G String) s with
  | ok identifier s' =>
      exact .ok (hs.introduce hresult)
  | error halt s' =>
      cases halt with
      | failed e =>
          -- a name always gets an identifier, unless the draw stalls
          exact (faultsIn_introduce (P := fun _ => False) name candidates e s' hresult).elim
      | stalled =>
          exact .stalled

theorem follows_number {lower upper : String} {low high : Int}
    (hlow : Argument.integer lower = .ok low) (hhigh : Argument.integer upper = .ok high) :
    Follows limit names (number .integer lower upper : Compiling Cause G String)
      (if high < low then .error (.syntactic (.reversedBounds low high)) else .ok names) := by
  rw [number, hlow, hhigh]
  change Follows limit names (if high < low then _ else _) _
  split
  · exact .fail _
  · exact (Follows.roll _).quiet fun _ _ => .pure _

theorem follows_write (context : Line) (parts : List Replacement) (elements : List Line) :
    Follows limit names
      (ListForm.write context parts elements : Compiling Cause G Replacement) (.ok names) := by
  rw [write_eq]
  exact (Follows.roll _).quiet fun _ _ => .pure _

end Compiling

/-! ## Words as arguments -/

namespace Token

variable {G : Type} [WordSource G]

/-- Words that stand as arguments need no step. -/
theorem expandTexts_of_words (context : Line) {tokens : List Token}
    (h : ∀ token ∈ tokens, token.isCommand = false) :
    ∃ parts, (expandTexts context tokens : Compiling Cause G _) = pure parts := by
  induction tokens with
  | nil =>
      exact ⟨[], expandTexts.eq_1 context⟩
  | cons token tokens ih =>
      rcases List.forall_mem_cons.1 h with ⟨htoken, htokens⟩
      rcases ih htokens with ⟨parts, hparts⟩
      cases token with
      | literal text =>
          refine ⟨(text, .plain [.literal text]) :: parts, ?_⟩
          rw [expandTexts, asText_literal, hparts]
          rfl
      | command command =>
          cases htoken

/-- A size that was read is an integer. -/
theorem exists_integer_of_checkSize {size : Token} (hword : size.isCommand = false)
    (h : Command.checkWord (fun text => (Argument.size text).map fun _ => ()) size = .ok ()) :
    ∃ text n, size = .literal text ∧ Argument.size text = .ok n ∧ size.integer? = some n := by
  cases size with
  | command command =>
      cases hword
  | literal text =>
      change (Argument.size text).map (fun _ => ()) = .ok () at h
      change ∃ text' n, _ ∧ _ ∧ Numeral.readInt64? (Text.trim text.toList) = some n
      cases hread : Numeral.readInt64? (Text.trim text.toList) with
      | none =>
          rw [Argument.size, hread] at h
          cases h
      | some n =>
          exact ⟨text, n, rfl, by rw [Argument.size, hread], rfl⟩

/-- A bound of integers that was read is an integer. -/
theorem exists_integer_of_checkBound {bound : Token} (hword : bound.isCommand = false)
    (h : Command.checkWord (Argument.checkBound .integer) bound = .ok ()) :
    ∃ text n, bound = .literal text ∧ Argument.integer text = .ok n ∧ bound.integer? = some n := by
  cases bound with
  | command command =>
      cases hword
  | literal text =>
      change (Argument.integer text).map (fun _ => ()) = .ok () at h
      change ∃ text' n, _ ∧ _ ∧ Numeral.readInt64? (Text.trim text.toList) = some n
      cases hread : Numeral.readInt64? (Text.trim text.toList) with
      | none =>
          rw [Argument.integer, hread] at h
          cases h
      | some n =>
          exact ⟨text, n, rfl, by rw [Argument.integer, hread], rfl⟩

end Token

/-! ## Tokens, lines and passes -/

section Passes

open Compiling

variable {G : Type} [WordSource G] {limit : Nat}

/-- Tokens that are expanded as the walk goes over each of them are so in a row. -/
theorem Line.follows_check_of_forall {context : Line} {tokens : List Token}
    (h : ∀ token ∈ tokens, ∀ names,
      Follows limit names (token.expand context : Compiling Cause G _) (token.check limit names))
    (names : List String) :
    Follows limit names (tokens.mapM (Token.expand context) : Compiling Cause G _)
      (Line.check limit names tokens) := by
  induction tokens generalizing names with
  | nil =>
      rw [List.mapM_nil, Line.check]
      exact .pure _
  | cons token tokens ih =>
      rcases List.forall_mem_cons.1 h with ⟨htoken, htokens⟩
      rw [List.mapM_cons, Line.check]
      refine (htoken names).bind fun first names' _ => ?_
      exact (ih htokens names').quiet fun _ _ => .pure _

/-- A static token whose commands were read is expanded as the walk goes over it. -/
theorem Token.follows_check (context : Line) (tokens : List Token) :
    ∀ token ∈ tokens, (token.isCommand = true → token.Written) → token.isStatic = true →
      ∀ names, Follows limit names (token.expand context : Compiling Cause G _)
        (token.check limit names) := by
  induction tokens using Line.row_induction with
  | nil =>
      simp
  | literal text tokens ih =>
      refine List.forall_mem_cons.2 ⟨fun _ _ names => ?_, ih⟩
      rw [Token.expand, Token.check]
      exact .pure _
  | var name candidates tokens _ ih =>
      refine List.forall_mem_cons.2 ⟨fun _ hstatic names => ?_, ih⟩
      have hwords : ∀ candidate ∈ candidates, candidate.isCommand = false := by
        simpa [Token.isStatic, Command.isStatic] using hstatic
      have hexpanded :
          ∃ parts, (Token.expandTexts context candidates : Compiling Cause G _) = pure parts :=
        Token.expandTexts_of_words context hwords
      rcases hexpanded with ⟨parts, hparts⟩
      rw [Token.expand, Token.check, Command.perform, Command.check, hparts, pure_bind]
      exact follows_noted ((follows_introduce _ _).quiet fun _ _ => .pure _)
  | get name tokens ih =>
      refine List.forall_mem_cons.2 ⟨fun _ _ names => ?_, ih⟩
      rw [Token.expand, Token.check, Command.perform, Command.check]
      exact follows_noted ((follows_fetch name).quiet fun _ _ => .pure _)
  | collection elements tokens ihelements ih =>
      refine List.forall_mem_cons.2 ⟨fun hcommand hstatic names => ?_, ih⟩
      have hstaticElements : ∀ element ∈ elements, element.isStatic = true := by
        rw [Token.isStatic, Command.isStatic, Line.isStatic_eq_all] at hstatic
        simpa using hstatic
      cases hcommand rfl with
      | collection hwritten =>
          have helements := Line.follows_check_of_forall fun element helement =>
            ihelements element helement (fun _ => hwritten element helement)
              (hstaticElements element helement)
          rw [Token.expand, Token.check, Command.perform, Command.check, Token.expandAll_eq_mapM]
          exact follows_noted ((helements names).quiet fun _ _ => follows_write _ _ _)
  | build size element tokens _ ihelement ih =>
      refine List.forall_mem_cons.2 ⟨fun hcommand hstatic names => ?_, ih⟩
      have hboth : size.isCommand = false ∧ element.isStatic = true := by
        simpa [Token.isStatic, Command.isStatic] using hstatic
      cases hcommand rfl with
      | build _ hcheck hwritten =>
          rcases Token.exists_integer_of_checkSize hboth.1 hcheck with
            ⟨text, n, rfl, hsize, hinteger⟩
          have hslot := ihelement element (by simp) (fun _ => hwritten) hboth.2
          rw [Token.expand, Token.check, Command.perform, Command.check, hinteger,
            Token.asText_literal, pure_bind]
          refine follows_noted (follows_slots hsize ?_)
          exact (Follows.replicate hslot n.toNat names).quiet fun _ _ => follows_write _ _ _
  | rand kind lower upper tokens _ _ ih =>
      refine List.forall_mem_cons.2 ⟨fun hcommand hstatic names => ?_, ih⟩
      have hall : (kind = .integer ∧ lower.isCommand = false) ∧ upper.isCommand = false := by
        simpa [Token.isStatic, Command.isStatic] using hstatic
      rcases hall with ⟨⟨rfl, hlowerWord⟩, hupperWord⟩
      cases hcommand rfl with
      | rand _ hlower _ hupper =>
          rcases Token.exists_integer_of_checkBound hlowerWord hlower with
            ⟨lowText, low, rfl, hlow, hlowInteger⟩
          rcases Token.exists_integer_of_checkBound hupperWord hupper with
            ⟨highText, high, rfl, hhigh, hhighInteger⟩
          rw [Token.expand, Token.check, Command.perform, Command.check, hlowInteger,
            hhighInteger]
          simp only [Token.asText_literal, pure_bind]
          exact follows_noted ((follows_number hlow hhigh).quiet fun _ _ => .pure _)

/-- A line is expanded as the walk goes over it, and both say on which line they stop. -/
theorem PendingLine.follows_check {file : String} {line : PendingLine}
    (hwritten : ∀ token ∈ line.tokens, token.isCommand = true → token.Written)
    (hstatic : Line.isStatic line.tokens = true) (names : List String) :
    Follows limit names (line.expand file : Compiling CompileError G _)
      ((Line.check limit names line.tokens).mapError fun cause =>
        ⟨cause, some (.ofNumber file line.origin)⟩) := by
  rw [Line.isStatic_eq_all, List.all_eq_true] at hstatic
  have htokens :
      Follows limit names (line.tokens.mapM (Token.expand line.tokens) : Compiling Cause G _)
        (Line.check limit names line.tokens) :=
    Line.follows_check_of_forall (fun token htoken =>
      Token.follows_check line.tokens line.tokens token htoken (hwritten token htoken)
        (hstatic token htoken)) names
  exact (htokens.quiet fun _ _ => .pure _).mapFault _

/-- A pass over lines that follow each other in the template goes as the walk over them. -/
theorem follows_checkFrom {file : String} {lines : List Line}
    (hwritten : ∀ line ∈ lines, ∀ token ∈ line, token.isCommand = true → token.Written)
    (hstatic : ∀ line ∈ lines, Line.isStatic line = true) (number : Nat) (names : List String) :
    Follows limit names
      ((lines.mapIdx fun i tokens => ⟨i + number, tokens⟩).mapM (PendingLine.expand file) :
        Compiling CompileError G _)
      (Document.checkFrom file limit number names lines) := by
  induction lines generalizing number names with
  | nil =>
      exact .pure _
  | cons line lines ih =>
      rcases List.forall_mem_cons.1 hwritten with ⟨hline, hlines⟩
      rcases List.forall_mem_cons.1 hstatic with ⟨hlineStatic, hlinesStatic⟩
      have hrest :
          (fun i tokens => (⟨i + 1 + number, tokens⟩ : PendingLine)) =
            fun i tokens => ⟨i + (number + 1), tokens⟩ := by
        funext i tokens
        rw [Nat.add_assoc, Nat.add_comm 1 number]
      rw [List.mapIdx_cons, List.mapM_cons, Document.checkFrom, hrest, Nat.zero_add]
      refine (PendingLine.follows_check hline hlineStatic names).bind fun first names' _ => ?_
      exact (ih hlines hlinesStatic (number + 1) names').quiet fun _ _ => .pure _

namespace Document

variable {file : String} {texts : List String} {doc : Document} {options : Options}

/-- The first pass over a static document that was read goes as the walk over it. -/
theorem follows_expandPass (hread : Document.ofLines file texts = .ok doc)
    (hstatic : doc.isStatic = true) :
    Follows limit [] (expandPass doc.file (PendingLine.ofDocument doc) : Compiling CompileError G _)
      (checkFrom doc.file limit 1 [] doc.lines) := by
  refine Follows.quiet ?_ fun _ _ => .pure _
  exact follows_checkFrom (written_of_ofLines hread) (List.all_eq_true.1 hstatic) 1 []

omit [WordSource G] in
theorem knows_session (options : Options) (dice : Dice G) :
    (options.session dice).Knows options.maxCollectionSize [] where
  limit := rfl
  binds := by
    intro name
    simp [Session.Binds, Options.session, Session.lookup?]

/-- Where two passes are allowed, a static document that was read compiles as its verdict says,
unless a draw stalls. -/
theorem outcome_eq_verdict (hread : Document.ofLines file texts = .ok doc)
    (hstatic : doc.isStatic = true) (hpasses : 2 ≤ options.maxPasses) (dice : Dice G) :
    (doc.compile options dice).outcome = .error .stalled ∨
      (doc.compile options dice).outcome.map (fun _ => ()) =
        (doc.verdict options.maxCollectionSize).mapError Halt.failed := by
  rcases Settles.exists_calls doc.file options.maxPasses 0 (PendingLine.ofDocument doc)
    (options.session dice) with ⟨calls, hrun⟩
  have hfirst := follows_expandPass (G := G) hread hstatic (options.session dice)
    (knows_session options dice)
  generalize hresult : settle doc.file options.maxPasses 0 (PendingLine.ofDocument doc)
    (options.session dice) = r at hrun
  generalize hallowed : options.maxPasses = allowed at hrun
  unfold verdict
  generalize checkFrom doc.file options.maxCollectionSize 1 [] doc.lines = walk at hfirst ⊢
  cases hrun with
  | settled hnone =>
      -- a pass over lines without commands succeeds, so the walk does
      rw [expandPass_of_commandCount hnone] at hfirst
      rw [outcome_of_settle_ok hresult]
      cases hfirst with
      | ok _ =>
          exact Or.inr rfl
  | exhausted _ =>
      omega
  | halted _ hpass =>
      rw [hpass] at hfirst
      rw [outcome_of_settle_error hresult]
      cases hfirst with
      | failed =>
          exact Or.inr rfl
      | stalled =>
          exact Or.inl rfl
  | @again left _ _ _ _ _ s₁ _ _ hpass hrest =>
      rcases expandPass_eq_ok_iff.1 hpass with ⟨expanded, hexpanded, rfl⟩
      have hsettled := options.settled_session dice
      -- what the first pass leaves has no faults
      have hlater := hrest.of_scoped ((hexpanded.sound_and_settled hsettled).2.record _)
        (hexpanded.scoped_lines hsettled)
      rw [hpass] at hfirst
      cases hfirst with
      | ok _ =>
          cases r with
          | ok result s =>
              rw [outcome_of_settle_ok hresult]
              exact Or.inr rfl
          | error halt s =>
              rw [outcome_of_settle_error hresult]
              cases halt with
              | failed e =>
                  have hleft := (hlater.2 e s rfl).1
                  omega
              | stalled =>
                  exact Or.inl rfl

end Document

end Passes

/-! ## What the template alone decides -/

namespace Document

/-- Whether a template compiles is decided by the template alone, if it is static, was read, and may
be expanded in two passes. With steady dice it compiles as the walk over its commands says in
advance. With any dice it does so unless a draw stalls, and so from any two sources with the same
error on the same line, or both with success. There are three errors: a look-up of a name that is not
bound yet, bounds in reversed order, and a size above the limit. -/
theorem success_decided_by_template {file : String} {texts : List String} {doc : Document}
    {options : Options} (hread : Document.ofLines file texts = .ok doc)
    (hstatic : doc.isStatic = true) (hpasses : 2 ≤ options.maxPasses) :
    (∀ (G : Type) [WordSource G] (dice : Dice G), dice.Steady →
      (doc.compile options dice).outcome.map (fun _ => ()) =
        (doc.verdict options.maxCollectionSize).mapError Halt.failed) ∧
    (∀ (G : Type) [WordSource G] (dice : Dice G),
      (doc.compile options dice).outcome = .error .stalled ∨
        (doc.compile options dice).outcome.map (fun _ => ()) =
          (doc.verdict options.maxCollectionSize).mapError Halt.failed) ∧
    (∀ (G G' : Type) [WordSource G] [WordSource G'] (dice : Dice G) (dice' : Dice G'),
      (doc.compile options dice).outcome ≠ .error .stalled →
      (doc.compile options dice').outcome ≠ .error .stalled →
      (doc.compile options dice).outcome.map (fun _ => ()) =
        (doc.compile options dice').outcome.map (fun _ => ())) ∧
    (∀ e, doc.verdict options.maxCollectionSize = .error e →
      e.cause.IsForeseeable options.maxCollectionSize ∧
        ∃ n, 1 ≤ n ∧ n ≤ doc.lines.length ∧ e.location = some (.ofNumber doc.file n)) := by
  have hverdict :
      ∀ (G : Type) [WordSource G] (dice : Dice G),
        (doc.compile options dice).outcome ≠ .error .stalled →
        (doc.compile options dice).outcome.map (fun _ => ()) =
          (doc.verdict options.maxCollectionSize).mapError Halt.failed := by
    intro G _ dice hstalled
    exact (outcome_eq_verdict hread hstatic hpasses dice).resolve_left hstalled
  refine ⟨?_, fun G _ dice => outcome_eq_verdict hread hstatic hpasses dice, ?_,
    fun e he => isForeseeable_of_verdict he⟩
  · intro G _ dice hsteady
    exact hverdict G dice (outcome_ne_stalled hsteady)
  · intro G G' _ _ dice dice' hstalled hstalled'
    exact (hverdict G dice hstalled).trans (hverdict G' dice' hstalled').symm

/-- A template whose second line cannot be expanded. -/
def reversed : Document where
  file := "reversed"
  lines :=
    [[.command (.var "x" []), .literal " = ",
        .command (.build (.literal "2") (.command (.get "x"))), .literal "\n"],
      [.command (.rand .integer (.literal "3") (.literal "1")), .literal "\n"]]

/-- A source of zeros. -/
structure Zeros where

instance : WordSource Zeros where
  next32 g := (0, g)
  next64 g := (0, g)

/-- A zero is never rejected. -/
theorem steady_zeros : ({ source := {}, patience := 1 } : Dice Zeros).Steady := by
  have hzero : ∀ s : Spread, s.value? 0 ≠ none := by
    intro s
    simp [Spread.value?]
  intro g _ hrejects
  cases hrejects with
  | below64 count h =>
      exact hzero _ h.1
  | below32 count h =>
      exact hzero _ h.1
  | belowWidest32 count h =>
      exact hzero _ h.1

/-- Whatever is drawn with steady dice, such as those that only give zeros, the template fails on its
second line. -/
theorem reversed_fails :
    Document.ofLines "reversed" ["~[var x]~ = ~[collection -b 2 \x7bget x\x7d]~\n",
        "~[rand -i 3 1]~\n"] = .ok reversed ∧
      reversed.isStatic = true ∧
      (∀ (G : Type) [WordSource G] (dice : Dice G), dice.Steady →
        (reversed.compile {} dice).outcome.map (fun _ => ()) =
          .error (.failed ⟨.syntactic (.reversedBounds 3 1), some ⟨"reversed", 2⟩⟩)) ∧
      ({ source := {}, patience := 1 } : Dice Zeros).Steady := by
  have hread :
      Document.ofLines "reversed" ["~[var x]~ = ~[collection -b 2 \x7bget x\x7d]~\n",
        "~[rand -i 3 1]~\n"] = .ok reversed := by
    with_unfolding_all rfl
  have hverdict :
      reversed.verdict ({} : Options).maxCollectionSize =
        .error ⟨.syntactic (.reversedBounds 3 1), some ⟨"reversed", 2⟩⟩ := by
    with_unfolding_all rfl
  have hpasses : 2 ≤ ({} : Options).maxPasses := by decide
  refine ⟨hread, by decide, fun G _ dice hsteady => ?_, steady_zeros⟩
  have hdecided := (success_decided_by_template hread (by decide) hpasses).1 G dice hsteady
  rw [hverdict] at hdecided
  exact hdecided

end Document

end TemplateVariants
