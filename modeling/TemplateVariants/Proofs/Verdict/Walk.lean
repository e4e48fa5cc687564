import TemplateVariants.Proofs.Expansion.Basic
import TemplateVariants.Template.Document

/-!
# Judging a template without expanding it

In a static template no text that was drawn is ever read as a number, since nested commands are
elements of lists only and all numbers are integers. Whether such a template compiles can be told
from the template: `Document.verdict` walks over its commands in the order in which they are
expanded, keeps the names that are bound by then, and stops at the first command that has to fail.
-/

namespace TemplateVariants

/-! ## Static templates -/

mutual

def Token.isStatic : Token → Bool
  | .literal _ => true
  | .command command => command.isStatic

/-- Whether nested commands stand as elements of lists only, and no real numbers are drawn. -/
def Command.isStatic : Command → Bool
  | .var _ candidates => candidates.all fun candidate => !candidate.isCommand
  | .get _ => true
  | .collection elements => Line.isStatic elements
  | .build size element => !size.isCommand && element.isStatic
  | .rand kind lower upper => kind = .integer && !lower.isCommand && !upper.isCommand

def Line.isStatic : List Token → Bool
  | [] => true
  | token :: tokens => token.isStatic && Line.isStatic tokens

end

theorem Line.isStatic_eq_all (tokens : List Token) :
    Line.isStatic tokens = tokens.all Token.isStatic := by
  induction tokens with
  | nil =>
      rw [Line.isStatic, List.all_nil]
  | cons token tokens ih =>
      rw [Line.isStatic, List.all_cons, ih]

def Document.isStatic (doc : Document) : Bool :=
  doc.lines.all Line.isStatic

/-! ## The walk -/

/-- The integer that a word spells. -/
def Token.integer? : Token → Option Int
  | .literal text => Numeral.readInt64? (Text.trim text.toList)
  | .command _ => none

mutual

def Token.check (limit : Nat) (names : List String) : Token → Except Cause (List String)
  | .literal _ => .ok names
  | .command command => command.check limit names

/-- Either the names that are bound after the command, if those given are bound before it, or why
the command has to fail. A repeated element is visited once for each slot. -/
def Command.check (limit : Nat) (names : List String) : Command → Except Cause (List String)
  | .var name _ => .ok (name :: names)
  | .get name => if name ∈ names then .ok names else .error (.binding (.unbound name))
  | .collection elements => Line.check limit names elements
  | .build size element =>
    match size.integer? with
    | none => .ok names
    | some n =>
      if limit < n.toNat then .error (.conversion (.sizeLimit n limit))
      else (List.replicate n.toNat ()).foldlM (fun names _ => element.check limit names) names
  | .rand _ lower upper =>
    match lower.integer?, upper.integer? with
    | some low, some high =>
      if high < low then .error (.syntactic (.reversedBounds low high)) else .ok names
    | _, _ => .ok names

def Line.check (limit : Nat) (names : List String) : List Token → Except Cause (List String)
  | [] => .ok names
  | token :: tokens => do
    let names ← token.check limit names
    Line.check limit names tokens

end

namespace Document

/-- The walk over lines, the first of which has the given number. -/
def checkFrom (file : String) (limit number : Nat) (names : List String) :
    List Line → Except CompileError (List String)
  | [] => .ok names
  | line :: lines => do
    let names ← (Line.check limit names line).mapError fun cause => ⟨cause, some (.ofNumber file number)⟩
    checkFrom file limit (number + 1) names lines

/-- The error with which a static document does not compile, if it does not. -/
def verdict (doc : Document) (limit : Nat) : Except CompileError Unit :=
  (checkFrom doc.file limit 1 [] doc.lines).map fun _ => ()

end Document

/-! ## The errors it finds -/

/-- A look-up of a name that is not bound, a size above the limit, or bounds in reversed order. -/
inductive Cause.IsForeseeable (limit : Nat) : Cause → Prop where
  | unbound (name : String) :
      IsForeseeable limit (.binding (.unbound name))
  | sizeLimit {n : Int} :
      limit < n.toNat →
      IsForeseeable limit (.conversion (.sizeLimit n limit))
  | reversedBounds {low high : Int} :
      high < low →
      IsForeseeable limit (.syntactic (.reversedBounds low high))

/-- An error with which the walk stops satisfies `P`. -/
def ErrorsIn {ε α : Type} (P : ε → Prop) (walk : Except ε α) : Prop :=
  ∀ e, walk = .error e → P e

namespace ErrorsIn

variable {ε α β : Type} {P : ε → Prop}

theorem ok (a : α) : ErrorsIn P (.ok a) := by
  intro e h
  cases h

theorem error {e : ε} (h : P e) : ErrorsIn P (.error e : Except ε α) := by
  intro e' he
  cases he
  exact h

theorem bind {walk : Except ε α} {next : α → Except ε β} (h : ErrorsIn P walk)
    (hnext : ∀ a, ErrorsIn P (next a)) : ErrorsIn P (walk >>= next) := by
  cases walk with
  | error e =>
      exact error (h e rfl)
  | ok a =>
      exact hnext a

theorem foldlM {step : β → α → Except ε β} (h : ∀ b a, ErrorsIn P (step b a)) (as : List α)
    (b : β) : ErrorsIn P (as.foldlM step b) := by
  induction as generalizing b with
  | nil =>
      exact ok b
  | cons a as ih =>
      rw [List.foldlM_cons]
      exact (h b a).bind ih

end ErrorsIn

theorem Line.errorsIn_check (limit : Nat) (tokens : List Token) (names : List String) :
    ErrorsIn (Cause.IsForeseeable limit) (Line.check limit names tokens) := by
  induction tokens using Line.row_induction generalizing names with
  | nil =>
      exact .ok names
  | literal text tokens ih =>
      exact (ErrorsIn.ok names).bind ih
  | var name candidates tokens _ ih =>
      exact (ErrorsIn.ok (name :: names)).bind ih
  | get name tokens ih =>
      rw [Line.check, Token.check, Command.check]
      refine ErrorsIn.bind ?_ ih
      split
      · exact .ok names
      · exact .error (.unbound name)
  | collection elements tokens ihelements ih =>
      exact (ihelements names).bind ih
  | build size element tokens _ ihelement ih =>
      rw [Line.check, Token.check, Command.check]
      refine ErrorsIn.bind ?_ ih
      split
      · exact .ok names
      · split
        · rename_i hlimit
          exact .error (.sizeLimit hlimit)
        · refine ErrorsIn.foldlM (fun names _ => ?_) _ names
          -- the element is a row of its own
          have hrow := ihelement names
          rw [Line.check] at hrow
          intro cause hcause
          exact hrow cause (by rw [hcause]; rfl)
  | rand kind lower upper tokens _ _ ih =>
      rw [Line.check, Token.check, Command.check]
      refine ErrorsIn.bind ?_ ih
      split
      · split
        · rename_i hreversed
          exact .error (.reversedBounds hreversed)
        · exact .ok names
      · exact .ok names

namespace Document

theorem isForeseeable_of_checkFrom {file : String} {limit number : Nat} {names : List String}
    {lines : List Line} {e : CompileError}
    (h : checkFrom file limit number names lines = .error e) :
    e.cause.IsForeseeable limit ∧
      ∃ n, number ≤ n ∧ n < number + lines.length ∧ e.location = some (.ofNumber file n) := by
  induction lines generalizing number names with
  | nil =>
      cases h
  | cons line lines ih =>
      rw [checkFrom] at h
      cases hline : Line.check limit names line with
      | error cause =>
          rw [hline] at h
          cases h
          exact ⟨Line.errorsIn_check limit line names cause hline, number, Nat.le_refl _, by simp, rfl⟩
      | ok more =>
          rw [hline] at h
          rcases ih h with ⟨hcause, n, hlow, hhigh, hlocation⟩
          rw [List.length_cons]
          exact ⟨hcause, n, by omega, by omega, hlocation⟩

/-- The walk stops for one of three causes, and it tells on which line. -/
theorem isForeseeable_of_verdict {doc : Document} {limit : Nat} {e : CompileError}
    (h : doc.verdict limit = .error e) :
    e.cause.IsForeseeable limit ∧
      ∃ n, 1 ≤ n ∧ n ≤ doc.lines.length ∧ e.location = some (.ofNumber doc.file n) := by
  unfold verdict at h
  cases hwalk : checkFrom doc.file limit 1 [] doc.lines with
  | error e' =>
      rw [hwalk] at h
      cases h
      rcases isForeseeable_of_checkFrom hwalk with ⟨hcause, n, hlow, hhigh, hlocation⟩
      exact ⟨hcause, n, hlow, by omega, hlocation⟩
  | ok names =>
      rw [hwalk] at h
      cases h

end Document

end TemplateVariants
