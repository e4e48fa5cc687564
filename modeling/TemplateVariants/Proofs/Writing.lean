import TemplateVariants.Proofs.Draws

/-!
# How a list is written

The way in which a list is written is drawn apart from its elements: either the spacing and the
breaks of a literal, or the synthetic name of a list that is appended to. `write_eq` says that the
step which writes a list is this draw followed by a function of what was drawn.
-/

namespace TemplateVariants
namespace ListForm

open Randomness

/-- What was drawn for a list. -/
inductive Writing where
  /-- In place: the blanks that go with each mark, and which separators are breaks. -/
  | literal (spacing : String) (breaks : List Bool)
  /-- Declared before and filled after the line, under the given name. -/
  | appended (name : String)
deriving DecidableEq, Repr

namespace Writing

/-- The list of the elements, written so. -/
def replacement (indent : String) (elements : List Line) : Writing → Replacement
  | literal spacing breaks => .plain (ListForm.literal (breaks.map (separator spacing)) elements)
  | appended name => ListForm.appended indent name elements

/-- A literal of `count` elements has a separator between any two. -/
def Fits (count : Nat) : Writing → Prop
  | literal _ breaks => breaks.length = count - 1
  | appended _ => True

end Writing

/-! ## Repeated draws -/

section Repetition

variable {G α β : Type}

/-- Repeating a draw and mapping each value is the same as mapping all values at the end. -/
theorem mapM_replicate_map (draw : Draw G α) (f : α → β) (n : Nat) :
    ((List.replicate n ()).mapM fun _ => return f (← draw) : Draw G (List β)) =
      do return ((← (List.replicate n ()).mapM fun _ => draw).map f) := by
  induction n with
  | zero =>
      simp
  | succ n ih =>
      rw [List.replicate_succ, List.mapM_cons, List.mapM_cons, ih]
      simp only [bind_assoc, pure_bind, List.map_cons]

/-- A draw that gives the same value each time is repeated. -/
theorem mapM_replicate_of_forall {draw : Draw G α} {a : α} {dice : Nat → Dice G}
    (h : ∀ n, draw (dice (n + 1)) = .ok a (dice n)) (n k : Nat) :
    ((List.replicate n ()).mapM fun _ => draw : Draw G (List α)) (dice (k + n)) =
      .ok (List.replicate n a) (dice k) := by
  induction n with
  | zero =>
      rfl
  | succ n ih =>
      rw [List.replicate_succ, List.replicate_succ, List.mapM_cons]
      refine Compiling.bind_eq_ok.2 ⟨a, dice (k + n), h (k + n), ?_⟩
      exact Compiling.bind_eq_ok.2 ⟨List.replicate n a, dice k, ih, rfl⟩

end Repetition

/-! ## The draw behind a written list -/

section Draws

variable {G : Type} [WordSource G]

/-- The spacing of a literal of `count` elements, and then a possible break at each separator. -/
def drawBreaks (count : Nat) : Draw G (String × List Bool) := do
  let spacing := if ← Draw.chance spacedChance then " " else ""
  let breaks ← (List.replicate (count - 1) ()).mapM fun _ => Draw.chance breakChance
  return (spacing, breaks)

/-- How a list of `count` elements is written. -/
def drawWriting (count : Nat) : Draw G Writing := do
  if ← Draw.chance appendChance then
    return .appended (← drawName)
  else
    let (spacing, breaks) ← drawBreaks count
    return .literal spacing breaks

theorem drawLiteral_eq (elements : List Line) :
    (drawLiteral elements : Draw G Line) = do
      let (spacing, breaks) ← drawBreaks elements.length
      return literal (breaks.map (separator spacing)) elements := by
  unfold drawLiteral drawBreaks
  simp only [bind_assoc, pure_bind]
  congr 1
  funext spaced
  -- the separators are drawn as flags and spelled out at the end
  rw [mapM_replicate_map]
  simp

theorem write_eq {ε : Type} (context : Line) (parts : List Replacement) (elements : List Line) :
    (write context parts elements : Compiling ε G Replacement) = do
      let writing ← Compiling.roll (drawWriting elements.length)
      return .within parts (writing.replacement (indentation context) elements) := by
  unfold write drawWriting
  simp only [Compiling.roll_bind, bind_assoc]
  congr 1
  funext isAppended
  cases isAppended with
  | true =>
      simp only [if_true, Compiling.roll_bind, Compiling.roll_pure, bind_assoc, pure_bind,
        Writing.replacement]
  | false =>
      simp only [Bool.false_eq_true, if_false, drawLiteral_eq, Compiling.roll_bind,
        Compiling.roll_pure, bind_assoc, pure_bind, Writing.replacement]

/-- What may be drawn for a list of `count` elements. -/
inductive Writing.Drawn (count : Nat) : Writing → Prop where
  | literal {spacing : String} {breaks : List Bool} :
      spacing = "" ∨ spacing = " " →
      breaks.length = count - 1 →
      Drawn count (.literal spacing breaks)
  | appended {name : String} :
      name.toList.length = nameLength →
      (∀ c ∈ name.toList, c ∈ alphabet) →
      Drawn count (.appended name)

theorem gives_drawName :
    Gives (fun name => name.toList.length = nameLength ∧ ∀ c ∈ name.toList, c ∈ alphabet)
      (drawName : Draw G String) := by
  have hletter :
      Gives (fun c => c ∈ alphabet)
        (do return (← Draw.choose alphabet).getD '_' : Draw G Char) := by
    refine (gives_choose alphabet).bind fun chosen hchosen => gives_pure ?_
    cases chosen with
    | none =>
        decide
    | some c =>
        exact hchosen c rfl
  refine (gives_replicate hletter nameLength).bind fun chars hchars => gives_pure ?_
  rwa [String.toList_ofList]

theorem gives_drawWriting (count : Nat) :
    Gives (Writing.Drawn count) (drawWriting count : Draw G Writing) := by
  refine (gives_chance _).bind fun isAppended _ => ?_
  cases isAppended with
  | true =>
      exact gives_drawName.bind fun name hname => gives_pure (.appended hname.1 hname.2)
  | false =>
      have hbreaks :
          Gives (fun drawn => (drawn.1 = "" ∨ drawn.1 = " ") ∧ drawn.2.length = count - 1)
            (drawBreaks count : Draw G (String × List Bool)) := by
        refine (gives_chance _).bind fun spaced _ => ?_
        refine (gives_replicate (gives_chance _) _).bind fun breaks hbreaks => gives_pure ?_
        exact ⟨by cases spaced <;> simp, hbreaks.1⟩
      exact hbreaks.bind fun drawn hdrawn => gives_pure (.literal hdrawn.1 hdrawn.2)

/-- A drawn literal has its breaks where they belong. -/
theorem fits_of_drawWriting {count : Nat} {writing : Writing} {dice dice' : Dice G}
    (h : drawWriting count dice = .ok writing dice') : writing.Fits count := by
  cases ((gives_drawWriting count).ok h).1 with
  | literal _ hbreaks =>
      exact hbreaks
  | appended _ _ =>
      trivial

end Draws

end ListForm
end TemplateVariants
