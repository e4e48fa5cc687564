import Mathlib.Data.List.Induction
import TemplateVariants.Proofs.FreshIdentifiers
import TemplateVariants.Proofs.Passes.Resolution
import TemplateVariants.Randomness.Replay

/-!
# What a name stands for

The tree of an expansion tells in which order names were bound and looked up: the arguments of a
command come before the command, from left to right, and an element that is repeated comes once for
each slot (`Expansion.uses`). Along a whole pass each look-up gives the identifier of the latest
binding of its name before it (`Expands.consistent`), since a session knows exactly the latest
bindings (`Session.Recalls`).

Synthetic names are bound in later passes only, when each look-up of the template is text already,
and text stays.
-/

namespace TemplateVariants

open Randomness

/-! ## Uses of names -/

/-- A name that is bound to an identifier, or looked up. -/
inductive Use where
  | bind (name identifier : String)
  | fetch (name : String) (value : Token)

namespace Use

/-- What the use binds the name to, if it does. -/
def boundTo? (name : String) : Use → Option String
  | .bind other identifier => if other = name then some identifier else none
  | .fetch _ _ => none

/-- What the latest use that binds the name binds it to. -/
def latest? (name : String) (uses : List Use) : Option String :=
  (uses.filterMap (boundTo? name)).getLast?

theorem latest?_append_bind (name other identifier : String) (uses : List Use) :
    latest? name (uses ++ [.bind other identifier]) =
      if other = name then some identifier else latest? name uses := by
  by_cases h : other = name
  · simp [latest?, boundTo?, List.filterMap_append, h]
  · simp [latest?, boundTo?, List.filterMap_append, h]

theorem latest?_append_fetch (name other : String) (value : Token) (uses : List Use) :
    latest? name (uses ++ [.fetch other value]) = latest? name uses := by
  simp [latest?, boundTo?, List.filterMap_append]

/-- The latest binding of a name is one that no other binding of it follows. -/
theorem exists_bind_of_latest? {name identifier : String} {uses : List Use}
    (h : latest? name uses = some identifier) :
    ∃ early late, uses = early ++ .bind name identifier :: late ∧
      ∀ other, .bind name other ∉ late := by
  induction uses using List.reverseRecOn with
  | nil =>
      cases h
  | append_singleton uses last ih =>
      cases last with
      | bind other bound =>
          rw [latest?_append_bind] at h
          by_cases hname : other = name
          · rw [if_pos hname, Option.some.injEq] at h
            subst hname h
            exact ⟨uses, [], rfl, by simp⟩
          · rw [if_neg hname] at h
            rcases ih h with ⟨early, late, rfl, hlate⟩
            refine ⟨early, late ++ [.bind other bound], by simp, fun identifier' => ?_⟩
            simp [hlate identifier', Ne.symm hname]
      | fetch other value =>
          rw [latest?_append_fetch] at h
          rcases ih h with ⟨early, late, rfl, hlate⟩
          refine ⟨early, late ++ [.fetch other value], by simp, fun identifier' => ?_⟩
          simp [hlate identifier']

/-- After the uses in the past, each look-up gives the latest binding of its name. -/
inductive Consistent : List Use → List Use → Prop where
  | nil (past : List Use) :
      Consistent past []
  | bind {past uses : List Use} {name identifier : String} :
      Consistent (past ++ [.bind name identifier]) uses →
      Consistent past (.bind name identifier :: uses)
  | fetch {past uses : List Use} {name identifier : String} :
      latest? name past = some identifier →
      Consistent (past ++ [.fetch name (.literal identifier)]) uses →
      Consistent past (.fetch name (.literal identifier) :: uses)

namespace Consistent

variable {past uses more : List Use}

theorem append (h : Consistent past uses) (hmore : Consistent (past ++ uses) more) :
    Consistent past (uses ++ more) := by
  induction h with
  | nil past =>
      simpa using hmore
  | bind _ ih =>
      exact .bind (ih (by simpa using hmore))
  | fetch hlatest _ ih =>
      exact .fetch hlatest (ih (by simpa using hmore))

/-- A look-up in the middle, with everything before it. -/
theorem latest_before {before after : List Use} {name : String} {value : Token}
    (h : Consistent past (before ++ .fetch name value :: after)) :
    ∃ identifier, value = .literal identifier ∧
      latest? name (past ++ before) = some identifier := by
  induction before generalizing past with
  | nil =>
      cases h with
      | fetch hlatest _ =>
          exact ⟨_, rfl, by simpa using hlatest⟩
  | cons first before ih =>
      cases h with
      | bind h =>
          simpa using ih h
      | fetch _ h =>
          simpa using ih h

end Consistent

end Use

/-! ## The uses of an expansion -/

namespace Expansion

mutual

/-- The uses of names in the order of evaluation: arguments before their command, from left to
right. -/
def uses : Expansion → List Use
  | .text _ => []
  | .var name candidates identifier => rowUses candidates ++ [.bind name identifier]
  | .get name value => [.fetch name value]
  | .collection elements _ => rowUses elements
  | .build size slots _ => size.uses ++ rowUses slots
  | .rand _ lower upper _ => lower.uses ++ upper.uses

def rowUses : List Expansion → List Use
  | [] => []
  | expansion :: row => expansion.uses ++ rowUses row

end

theorem rowUses_eq_flatMap (row : List Expansion) : rowUses row = row.flatMap uses := by
  induction row with
  | nil =>
      rfl
  | cons expansion row ih =>
      rw [rowUses, ih, List.flatMap_cons]

end Expansion

/-- The uses of names on a line, from left to right. -/
def ExpandedLine.uses (line : ExpandedLine) : List Use :=
  line.row.flatMap Expansion.uses

/-! ## Sessions that recall the latest bindings -/

/-- The session knows of each name the latest of the uses in the past, and of no other name. -/
def Session.Recalls {G : Type} (s : Session G) (past : List Use) : Prop :=
  ∀ name, s.lookup? name = (Use.latest? name past).map Token.literal

namespace Session.Recalls

variable {G : Type} {s s' : Session G} {past : List Use}

theorem of_bindings_eq (h : s.Recalls past) (heq : s'.bindings = s.bindings) :
    s'.Recalls past := by
  intro name
  rw [← h name, lookup?, lookup?, heq]

theorem fetch (h : s.Recalls past) (name : String) (value : Token) :
    s.Recalls (past ++ [.fetch name value]) := by
  intro other
  rw [Use.latest?_append_fetch]
  exact h other

theorem introduce [WordSource G] {name identifier : String} {candidates : List String}
    (h : s.Recalls past)
    (hintroduce : (Compiling.introduce name candidates : Compiling Cause G String) s =
      .ok identifier s') : s'.Recalls (past ++ [.bind name identifier]) := by
  intro other
  rw [Compiling.lookup?_of_introduce hintroduce, h other, Use.latest?_append_bind]
  by_cases heq : name = other
  · rw [if_pos heq, if_pos heq]
    rfl
  · rw [if_neg heq, if_neg heq]

end Session.Recalls

/-- At the start nothing is bound. -/
theorem Options.recalls_session {G : Type} (options : Options) (dice : Dice G) :
    (options.session dice).Recalls [] := by
  intro name
  simp [session, Session.lookup?, Use.latest?]

section Runs

variable {G : Type} [WordSource G]

/-- Along a run the look-ups are consistent, and the session still recalls the latest bindings. -/
theorem Expands.consistent {tokens : List Token} {s s' : Session G} {row : List Expansion}
    (h : Expands tokens s row s') {past : List Use} (hs : s.Recalls past) :
    Use.Consistent past (row.flatMap Expansion.uses) ∧
      s'.Recalls (past ++ row.flatMap Expansion.uses) := by
  -- The uses of the first tree come first, then those of the rest of the row.
  have hcons :
      ∀ {past : List Use} {expansion : Expansion} {row : List Expansion} {s' : Session G},
        Use.Consistent past expansion.uses →
        Use.Consistent (past ++ expansion.uses) (row.flatMap Expansion.uses) ∧
          s'.Recalls (past ++ expansion.uses ++ row.flatMap Expansion.uses) →
        Use.Consistent past ((expansion :: row).flatMap Expansion.uses) ∧
          s'.Recalls (past ++ (expansion :: row).flatMap Expansion.uses) := by
    rintro past expansion row s' hfirst ⟨hrest, hs'⟩
    rw [List.flatMap_cons]
    exact ⟨hfirst.append hrest, by simpa using hs'⟩
  induction h generalizing past with
  | nil s =>
      exact ⟨.nil past, by simpa using hs⟩
  | literal _ ih =>
      exact ih hs
  | @var name identifier _ _ _ s s₁ s₂ _ parts _ _ _ hintroduce _ ihparts ih =>
      rcases ihparts hs with ⟨hparts, hs₁⟩
      have hs₂ := hs₁.introduce hintroduce
      have huses :
          (Expansion.var name parts identifier).uses =
            parts.flatMap Expansion.uses ++ [.bind name identifier] := by
        rw [Expansion.uses, Expansion.rowUses_eq_flatMap]
      refine hcons ?_ ?_
      · rw [huses]
        exact hparts.append (.bind (.nil _))
      · rw [huses, ← List.append_assoc past]
        exact ih (hs₂.of_bindings_eq rfl)
  | @get name value _ s _ _ hvalue _ ih =>
      -- what the session has for the name is the latest binding
      have hlatest := hs name
      rw [hvalue] at hlatest
      rcases Option.map_eq_some_iff.1 hlatest.symm with ⟨identifier, hidentifier, rfl⟩
      refine hcons ?_ ?_
      · rw [Expansion.uses]
        exact .fetch hidentifier (.nil _)
      · rw [Expansion.uses]
        exact ih ((hs.fetch name _).of_bindings_eq rfl)
  | @collection _ _ writing _ _ _ _ parts _ _ hwriting _ ihparts ih =>
      rcases ihparts hs with ⟨hparts, hs₁⟩
      have huses :
          (Expansion.collection parts writing).uses = parts.flatMap Expansion.uses := by
        rw [Expansion.uses, Expansion.rowUses_eq_flatMap]
      rcases Compiling.roll_eq_ok.1 hwriting with ⟨dice, -, rfl⟩
      refine hcons ?_ ?_
      · rw [huses]
        exact hparts
      · rw [huses]
        exact ih (hs₁.of_bindings_eq rfl)
  | @build _ _ _ _ _ writing _ _ _ _ _ sized slots _ _ _ _ _ hwriting _ ihsized ihslots ih =>
      rcases ihsized hs with ⟨hsized, hs₁⟩
      rcases ihslots hs₁ with ⟨hslots, hs₂⟩
      rw [List.flatMap_singleton] at hsized hslots hs₂
      have huses :
          (Expansion.build sized slots writing).uses =
            sized.uses ++ slots.flatMap Expansion.uses := by
        rw [Expansion.uses, Expansion.rowUses_eq_flatMap]
      rcases Compiling.roll_eq_ok.1 hwriting with ⟨dice, -, rfl⟩
      refine hcons ?_ ?_
      · rw [huses]
        exact hsized.append hslots
      · rw [huses, ← List.append_assoc past]
        exact ih (hs₂.of_bindings_eq rfl)
  | @rand kind _ _ _ _ _ value _ _ _ _ _ first second _ _ _ _ hvalue _ ihlow ihhigh ih =>
      rcases ihlow hs with ⟨hlow, hs₁⟩
      rcases ihhigh hs₁ with ⟨hhigh, hs₂⟩
      rw [List.flatMap_singleton] at hlow hhigh hs₂
      rw [List.flatMap_singleton] at hhigh hs₂
      have huses :
          (Expansion.rand kind first second value).uses = first.uses ++ second.uses := by
        rw [Expansion.uses]
      rcases Compiling.number_eq_ok hvalue with ⟨dice, rfl⟩
      refine hcons ?_ ?_
      · rw [huses]
        exact hlow.append hhigh
      · rw [huses, ← List.append_assoc past]
        exact ih (hs₂.of_bindings_eq rfl)

/-! ## Look-ups in a compilation -/

namespace Document

/-- Each look-up of a template that compiles gives the identifier of the latest binding of its name
before it. The trees have the shape of the template, the look-ups are all made in the first pass,
and later passes leave the text of that pass as it is, whatever synthetic names they bind. -/
theorem lookups_consistent {doc : Document} {options : Options} {dice : Dice G} {text : String}
    (h : (doc.compile options dice).outcome = .ok text) :
    ∃ expanded s passes lines s',
      expandPass doc.file (PendingLine.ofDocument doc) (options.session dice) =
        .ok (expanded.flatMap ExpandedLine.lines) s ∧
      ExpandsLines (PendingLine.ofDocument doc) (options.session dice) expanded s ∧
      expanded.map ExpandedLine.source = PendingLine.ofDocument doc ∧
      (∀ line ∈ expanded, List.Forall₂ Expansion.IsOf line.source.tokens line.row) ∧
      (∀ before name value after,
        expanded.flatMap ExpandedLine.uses = before ++ .fetch name value :: after →
          ∃ identifier early late, value = .literal identifier ∧
            before = early ++ .bind name identifier :: late ∧
            ∀ other, .bind name other ∉ late) ∧
      settle doc.file options.maxPasses 0 (PendingLine.ofDocument doc) (options.session dice) =
        .ok (passes, lines) s' ∧
      text = PendingLine.text lines ∧
      List.Forall₂ PendingLine.Resolves (expanded.flatMap ExpandedLine.lines) lines := by
  rcases exists_first_pass h with ⟨expanded, s, hrun⟩
  rcases resolves_of_compile h hrun with ⟨passes, lines, s', hend, htext, hresolves⟩
  have hpass :
      expandPass doc.file (PendingLine.ofDocument doc) (options.session dice) =
        .ok (expanded.flatMap ExpandedLine.lines) s :=
    expandPass_eq_ok_iff.2 ⟨expanded, hrun, rfl⟩
  refine ⟨expanded, s, passes, lines, s', hpass, hrun, hrun.map_source, hrun.isOf, ?_, hend, htext,
    hresolves⟩
  intro before name value after huses
  have hconsistent := (hrun.expands.consistent (options.recalls_session dice)).1
  have hsame :
      (expanded.flatMap ExpandedLine.row).flatMap Expansion.uses =
        expanded.flatMap ExpandedLine.uses := by
    rw [List.flatMap_assoc]
    rfl
  rw [hsame, huses] at hconsistent
  -- the latest binding stands in the past, with no other one of the name after it
  rcases hconsistent.latest_before with ⟨identifier, hvalue, hlatest⟩
  rcases Use.exists_bind_of_latest? hlatest with ⟨early, late, hbefore, hlate⟩
  exact ⟨identifier, early, late, hvalue, hbefore, hlate⟩

end Document

end Runs

/-! ### A name that is bound twice -/

namespace Document

def rebinding : Document where
  file := "rebinding"
  lines := [[.command (.var "x" []), .command (.get "x"), .command (.var "x" []),
    .command (.get "x")]]

/-- The name stands for itself at first, and then for a stock name. -/
def rebindingDice : Dice Replay where
  source := { prepared := [0, 0x4000000000000000] }
  patience := 1

theorem rebinding_expands {s : Session Replay} (hdice : s.dice = rebindingDice)
    (hfree : ∀ identifier, s.isClaimed identifier = false) :
    ∃ row s', Expands rebinding.lines.flatten s row s' ∧
      row.flatMap Expansion.lists = [] ∧
      row.flatMap Expansion.result = ["x", "x", "a_var", "a_var"].map Token.literal := by
  have hdraw : Fresh.drawName "x" [] s.dice = .ok "x" ⟨⟨[0x4000000000000000], 0⟩, 1⟩ := by
    rw [hdice]
    rfl
  rcases Compiling.exists_introduce hdraw (hfree "x") with ⟨s₁, hfirst, hdice₁⟩
  have hlookup : s₁.lookup? "x" = some (.literal "x") :=
    (Compiling.lookup?_of_introduce hfirst "x").trans (if_pos rfl)
  -- the notes of the commands in between change neither the dice nor what is claimed
  let note₁ := Expansion.note (.var "x" []) (.var "x" [] "x")
  let note₂ := Expansion.note (.get "x") (.get "x" (.literal "x"))
  have hdraw₁ :
      Fresh.drawName "x" [] ((s₁.record note₁).record note₂).dice = .ok "a_var" ⟨⟨[], 0⟩, 1⟩ := by
    change Fresh.drawName "x" [] s₁.dice = _
    rw [hdice₁]
    rfl
  have hfree₁ : ((s₁.record note₁).record note₂).isClaimed "a_var" = false := by
    change s₁.isClaimed "a_var" = false
    rw [Compiling.isClaimed_of_introduce hfirst, hfree]
    rfl
  rcases Compiling.exists_introduce hdraw₁ hfree₁ with ⟨s₂, hsecond, -⟩
  have hlookup₂ : s₂.lookup? "x" = some (.literal "a_var") :=
    (Compiling.lookup?_of_introduce hsecond "x").trans (if_pos rfl)
  have hnone : Expansion.HaveTexts [] [] := rfl
  exact ⟨_, _, .var (.nil _) hnone hfirst (.get hlookup
    (.var (.nil _) hnone hsecond (.get hlookup₂ (.nil _)))), rfl, rfl⟩

theorem rebinding_compiles :
    (rebinding.compile {} rebindingDice).outcome = .ok "xxa_vara_var" := by
  rcases rebinding_expands (s := ({} : Options).session rebindingDice) rfl
    (fun identifier => by simp [Session.isClaimed, Options.session]) with
    ⟨row, s', hrow, hlists, hresult⟩
  let line := ExpandedLine.mk ⟨1, rebinding.lines.flatten⟩ row
  have hrun :
      ExpandsLines (PendingLine.ofDocument rebinding) (({} : Options).session rebindingDice)
        [line] s' := .cons hrow (.nil _)
  have hline : line.lists = [] := hlists
  have hlines :
      [line].flatMap ExpandedLine.lines =
        [⟨1, ["x", "x", "a_var", "a_var"].map Token.literal⟩] := by
    rw [List.flatMap_singleton, ExpandedLine.lines_of_lists_eq_nil hline, ← hresult]
    rfl
  refine compile_outcome_ok_iff.2 ⟨_, _, _, (Settles.again (by decide)
    (expandPass_eq_ok_iff.2 ⟨_, hrun, rfl⟩) (.settled ?_)).settle_eq, ?_⟩
  · rw [hlines]
    rfl
  · rw [hlines]
    decide

theorem lookups_consistent_rebinding :
    (rebinding.compile {} rebindingDice).outcome = .ok "xxa_vara_var" ∧
      ∃ expanded s,
        ExpandsLines (PendingLine.ofDocument rebinding) (({} : Options).session rebindingDice)
          expanded s ∧
        ∀ before name value after,
          expanded.flatMap ExpandedLine.uses = before ++ .fetch name value :: after →
            ∃ identifier early late, value = .literal identifier ∧
              before = early ++ .bind name identifier :: late ∧
              ∀ other, .bind name other ∉ late := by
  rcases lookups_consistent rebinding_compiles with
    ⟨expanded, s, _, _, _, -, hrun, -, -, hconsistent, -⟩
  exact ⟨rebinding_compiles, expanded, s, hrun, hconsistent⟩

end Document

end TemplateVariants
