import TemplateVariants.Proofs.Faults
import TemplateVariants.Proofs.Passes.Lines

/-!
# Names declared before they are looked up

What a pass leaves behind is small: text, declarations of synthetic names, and look-ups of such
names. `Scoped names tokens` says that each look-up comes after a declaration of its name, or that
the name is one of `names`. The lines of a sound row are scoped, since its declarations come first
and each look-up belongs to one of its lists (`ExpandedLine.scoped_lines`).

Scoped tokens are expanded without a fault (`Scoped.faultsIn_expandAll`), and only text is left of
them (`Scoped.lists_eq_nil`).
-/

namespace TemplateVariants

open ListForm

/-! ## Scoped tokens -/

/-- Each look-up comes after a declaration of its name, unless the name is given. -/
inductive Scoped : List String → List Token → Prop where
  | nil (names : List String) :
      Scoped names []
  | literal {names : List String} {text : String} {tokens : List Token} :
      Scoped names tokens →
      Scoped names (.literal text :: tokens)
  | declare {names : List String} {name : String} {tokens : List Token} :
      Scoped (name :: names) tokens →
      Scoped names (.command (.var name []) :: tokens)
  | lookUp {names : List String} {name : String} {tokens : List Token} :
      name ∈ names →
      Scoped names tokens →
      Scoped names (.command (.get name) :: tokens)

namespace Token

/-- The name that a token declares, if it does. -/
def declared? : Token → Option String
  | .command (.var name _) => some name
  | _ => none

end Token

namespace Line

/-- The names declared by the tokens themselves, from left to right. -/
def declared (tokens : List Token) : List String :=
  tokens.filterMap Token.declared?

@[simp]
theorem declared_nil : declared [] = [] := rfl

@[simp]
theorem declared_literal_cons (text : String) (tokens : List Token) :
    declared (.literal text :: tokens) = declared tokens := rfl

@[simp]
theorem declared_var_cons (name : String) (candidates tokens : List Token) :
    declared (.command (.var name candidates) :: tokens) = name :: declared tokens := rfl

@[simp]
theorem declared_get_cons (name : String) (tokens : List Token) :
    declared (.command (.get name) :: tokens) = declared tokens := rfl

@[simp]
theorem declared_append (tokens more : List Token) :
    declared (tokens ++ more) = declared tokens ++ declared more := by
  simp [declared]

theorem declared_flatMap {α : Type} (rows : List α) (f : α → List Token) :
    declared (rows.flatMap f) = rows.flatMap fun row => declared (f row) := by
  rw [declared, List.filterMap_flatMap]
  rfl

/-- An indentation declares nothing. -/
@[simp]
theorem declared_startLine (indent : String) (line : Line) :
    declared (startLine indent line) = declared line := by
  unfold startLine
  split
  · rfl
  · rfl

end Line

namespace Scoped

variable {names : List String} {tokens more : List Token}

theorem mono (h : Scoped names tokens) {names' : List String} (hsub : names ⊆ names') :
    Scoped names' tokens := by
  induction h generalizing names' with
  | nil names =>
      exact .nil names'
  | literal _ ih =>
      exact .literal (ih hsub)
  | declare _ ih =>
      exact .declare (ih (List.cons_subset_cons _ hsub))
  | lookUp hname _ ih =>
      exact .lookUp (hsub hname) (ih hsub)

/-- A row is scoped if its first part is, and its rest is with what the first part declared. -/
theorem append_iff :
    Scoped names (tokens ++ more) ↔
      Scoped names tokens ∧ Scoped (Line.declared tokens ++ names) more := by
  constructor
  · intro h
    induction tokens generalizing names with
    | nil =>
        exact ⟨.nil names, by simpa using h⟩
    | cons token tokens ih =>
        cases h with
        | literal h =>
            rcases ih h with ⟨hleft, hright⟩
            exact ⟨.literal hleft, hright⟩
        | declare h =>
            rcases ih h with ⟨hleft, hright⟩
            exact ⟨.declare hleft, hright.mono (by simp)⟩
        | lookUp hname h =>
            rcases ih h with ⟨hleft, hright⟩
            exact ⟨.lookUp hname hleft, hright⟩
  · rintro ⟨hleft, hright⟩
    induction hleft with
    | nil names =>
        simpa using hright
    | literal _ ih =>
        exact .literal (ih hright)
    | declare _ ih =>
        exact .declare (ih (hright.mono (by simp)))
    | lookUp hname _ ih =>
        exact .lookUp hname (ih hright)

theorem append (h : Scoped names tokens) (hmore : Scoped names more) :
    Scoped names (tokens ++ more) :=
  append_iff.2 ⟨h, hmore.mono (by simp)⟩

/-- Rows that are scoped on their own are scoped one after the other. -/
theorem flatMap {α : Type} {rows : List α} {f : α → List Token}
    (h : ∀ row ∈ rows, Scoped names (f row)) : Scoped names (rows.flatMap f) := by
  induction rows with
  | nil =>
      exact .nil names
  | cons row rows ih =>
      rw [List.flatMap_cons]
      exact (h row (by simp)).append (ih fun other hother => h other (by simp [hother]))

/-- A row without declarations is scoped if it looks up given names only. -/
theorem of_lookUps
    (h : ∀ token ∈ tokens, token.isCommand = true → ∃ name ∈ names, token = .command (.get name)) :
    Scoped names tokens := by
  induction tokens with
  | nil =>
      exact .nil names
  | cons token tokens ih =>
      have hrest := ih fun other hother => h other (List.mem_cons_of_mem _ hother)
      cases token with
      | literal text =>
          exact .literal hrest
      | command command =>
          rcases h _ List.mem_cons_self rfl with ⟨name, hname, heq⟩
          rw [heq]
          exact .lookUp hname hrest

/-- Left of a look-up stands a declaration of its name, unless the name is given. -/
theorem declared_before {before after : List Token} {name : String}
    (h : Scoped names (before ++ .command (.get name) :: after)) :
    name ∈ names ∨ .command (.var name []) ∈ before := by
  induction before generalizing names with
  | nil =>
      cases h with
      | lookUp hname _ =>
          exact Or.inl hname
  | cons token before ih =>
      cases h with
      | literal h =>
          exact (ih h).imp_right (List.mem_cons_of_mem _)
      | declare h =>
          rcases ih h with hname | hbefore
          · rcases List.mem_cons.1 hname with rfl | hname
            · exact Or.inr List.mem_cons_self
            · exact Or.inl hname
          · exact Or.inr (List.mem_cons_of_mem _ hbefore)
      | lookUp _ h =>
          exact (ih h).imp_right (List.mem_cons_of_mem _)

end Scoped

/-! ## The lines of a sound row -/

/-- An indentation is text in front of a line. -/
theorem Scoped.startLine {names : List String} {tokens : List Token} (h : Scoped names tokens)
    (indent : String) : Scoped names (startLine indent tokens) := by
  unfold ListForm.startLine
  split
  · exact h
  · exact .literal h

namespace AppendedList

/-- Declarations declare the names of their lists. -/
theorem declared_declarations (indent : String) (lists : List AppendedList) :
    Line.declared (lists.flatMap (declaration indent)) = lists.map name := by
  rw [Line.declared_flatMap, List.map_eq_flatMap]
  simp [declaration]

theorem scoped_declaration (indent : String) (list : AppendedList) (names : List String) :
    Scoped names (list.declaration indent) :=
  Scoped.startLine (.declare (.literal (.nil _))) indent

end AppendedList

namespace ExpandedLine

/-- The lines of a sound row look up what they have declared, and nothing else. -/
theorem scoped_lines {line : ExpandedLine} (h : ∀ expansion ∈ line.row, expansion.Sound) :
    Scoped [] (line.lines.flatMap PendingLine.tokens) := by
  rw [flatMap_tokens_lines, Scoped.append_iff]
  refine ⟨Scoped.flatMap fun list _ => list.scoped_declaration line.indent [], ?_⟩
  -- From here on the names of all lists are given.
  have hnames :
      ∀ list ∈ line.lists, list.name ∈
        Line.declared (line.lists.flatMap (AppendedList.declaration line.indent)) ++ [] := by
    intro list hlist
    rw [AppendedList.declared_declarations, List.append_nil]
    exact List.mem_map_of_mem hlist
  generalize Line.declared (line.lists.flatMap (AppendedList.declaration line.indent)) ++ [] =
    names at hnames
  have hlookUps :
      ∀ expansion : Expansion, expansion.Sound → expansion.lists ⊆ line.lists →
        Scoped names expansion.result := by
    intro expansion hsound hsub
    refine Scoped.of_lookUps fun token htoken hcommand => ?_
    rcases hsound.exists_list_of_command token htoken hcommand with ⟨list, hlist, rfl⟩
    exact ⟨list.name, hnames list (hsub hlist), rfl⟩
  have hsub : ∀ expansion ∈ line.row, expansion.lists ⊆ line.lists := by
    intro expansion hexpansion list hlist
    exact List.mem_flatMap.2 ⟨expansion, hexpansion, hlist⟩
  refine Scoped.append ?_ ?_
  · -- the line itself
    exact Scoped.flatMap fun expansion hexpansion =>
      hlookUps expansion (h expansion hexpansion) (hsub expansion hexpansion)
  · -- the appends: each looks up its list, and then what its element looks up
    rw [← List.flatMap_id', List.flatMap_assoc]
    refine Scoped.flatMap fun list hlist => ?_
    refine Scoped.flatMap fun filling hfilling => ?_
    rcases List.mem_map.1 hfilling with ⟨element, helement, rfl⟩
    rcases List.mem_flatMap.1 hlist with ⟨expansion, hexpansion, hown⟩
    rcases (h expansion hexpansion).of_mem_lists list hown element helement with
      ⟨hsound, helementSub⟩
    have hresult : Scoped names element.result :=
      hlookUps element hsound fun other hother => hsub expansion hexpansion (helementSub hother)
    exact Scoped.startLine
      (.lookUp (hnames list hlist) (.literal (hresult.append (.literal (.nil _))))) line.indent

end ExpandedLine

/-! ## Expanding scoped tokens -/

section Passes

open Randomness

variable {G : Type}

/-- Something is bound to the name. -/
def Session.Binds (s : Session G) (name : String) : Prop :=
  (s.lookup? name).isSome = true

namespace Session

variable {s s' : Session G} {name other : String}

theorem Binds.of_bindings_eq (h : s.Binds name) (heq : s'.bindings = s.bindings) :
    s'.Binds name := by
  simpa [Binds, lookup?, heq] using h

theorem Binds.introduce [WordSource G] {candidates : List String} {identifier : String}
    (hintroduce : (Compiling.introduce other candidates : Compiling Cause G String) s =
      .ok identifier s') (h : s.Binds name ∨ name = other) : s'.Binds name := by
  unfold Binds
  rw [Compiling.lookup?_of_introduce hintroduce]
  by_cases heq : other = name
  · simp [heq]
  · rw [if_neg heq]
    exact h.resolve_right (Ne.symm heq)

end Session

variable [WordSource G]

namespace Expands

variable {s s' : Session G} {tokens : List Token} {row : List Expansion}

/-- Names stay bound, and those that the tokens declare are bound at the end. -/
theorem binds (h : Expands tokens s row s') {name : String}
    (hname : s.Binds name ∨ name ∈ Line.declared tokens) : s'.Binds name := by
  induction h with
  | nil s =>
      simpa using hname
  | literal _ ih =>
      exact ih (by simpa using hname)
  | @var other _ _ _ _ _ s₁ s₂ _ _ _ _ _ hintroduce _ ihparts ih =>
      rcases hname with hname | hname
      · have hbound := Session.Binds.introduce hintroduce (Or.inl (ihparts (Or.inl hname)))
        exact ih (Or.inl (hbound.of_bindings_eq rfl))
      · rcases List.mem_cons.1 hname with rfl | hname
        · have hbound := Session.Binds.introduce hintroduce (Or.inr rfl)
          exact ih (Or.inl (hbound.of_bindings_eq rfl))
        · exact ih (Or.inr hname)
  | get _ _ ih =>
      refine ih (hname.imp_left fun hbound => ?_)
      exact hbound.of_bindings_eq rfl
  | collection _ hwriting _ ihparts ih =>
      refine ih (hname.imp_left fun hbound => ?_)
      rcases Compiling.roll_eq_ok.1 hwriting with ⟨dice, -, rfl⟩
      exact (ihparts (Or.inl hbound)).of_bindings_eq rfl
  | build _ _ _ _ hwriting _ ihsized ihslots ih =>
      refine ih (hname.imp_left fun hbound => ?_)
      rcases Compiling.roll_eq_ok.1 hwriting with ⟨dice, -, rfl⟩
      exact (ihslots (Or.inl (ihsized (Or.inl hbound)))).of_bindings_eq rfl
  | rand _ _ _ hvalue _ ihlow ihhigh ih =>
      refine ih (hname.imp_left fun hbound => ?_)
      rcases Compiling.number_eq_ok hvalue with ⟨dice, rfl⟩
      exact (ihhigh (Or.inl (ihlow (Or.inl hbound)))).of_bindings_eq rfl

end Expands

namespace Scoped

variable {names : List String} {tokens : List Token} {s s' : Session G} {row : List Expansion}

/-- Scoped tokens bring no lists of their own. -/
theorem lists_eq_nil (h : Scoped names tokens) (hrun : Expands tokens s row s') :
    ∀ expansion ∈ row, expansion.lists = [] := by
  induction h generalizing s row with
  | nil names =>
      cases hrun
      simp
  | literal _ ih =>
      cases hrun with
      | literal hrun =>
          exact List.forall_mem_cons.2 ⟨by simp [Expansion.lists], ih hrun⟩
  | declare _ ih =>
      cases hrun with
      | var hparts _ _ hrun =>
          cases hparts
          exact List.forall_mem_cons.2 ⟨by simp [Expansion.lists], ih hrun⟩
  | lookUp _ _ ih =>
      cases hrun with
      | get _ hrun =>
          exact List.forall_mem_cons.2 ⟨by simp [Expansion.lists], ih hrun⟩

/-- Where the given names are bound, scoped tokens are expanded without a fault. -/
theorem faultsIn_expandAll {context : Line} (h : Scoped names tokens)
    (hs : ∀ name ∈ names, s.Binds name) :
    Compiling.FaultsIn (fun _ => False) (Token.expandAll context tokens) s := by
  -- After a token, names are bound that were bound before it or that it declares.
  have hbinds :
      ∀ {token : Token} {s s₁ : Session G} {r : Replacement} {name : String},
        token.expand context s = .ok r s₁ → s.Binds name ∨ name ∈ Line.declared [token] →
          s₁.Binds name := by
    intro token s s₁ r name hrun hname
    rcases (Expands.recorded context [token]).single hrun with ⟨expansion, hexpands, -⟩
    exact hexpands.binds hname
  induction h generalizing s with
  | nil names =>
      rw [Token.expandAll]
      exact Compiling.faultsIn_pure _
  | literal _ ih =>
      rw [Token.expandAll]
      refine Compiling.faultsIn_bind.2 ⟨?_, fun r s₁ hrun => ?_⟩
      · rw [Token.expand]
        exact Compiling.faultsIn_pure _
      · refine Compiling.faultsIn_bind.2 ⟨?_, fun _ _ _ => Compiling.faultsIn_pure _⟩
        exact ih fun name hname => hbinds hrun (Or.inl (hs name hname))
  | @declare names name tokens _ ih =>
      rw [Token.expandAll]
      refine Compiling.faultsIn_bind.2 ⟨?_, fun r s₁ hrun => ?_⟩
      · rw [Token.expand, Compiling.faultsIn_noted, Command.perform, Token.expandTexts]
        refine Compiling.faultsIn_bind.2 ⟨Compiling.faultsIn_pure _, fun _ _ _ => ?_⟩
        exact Compiling.faultsIn_bind.2
          ⟨Compiling.faultsIn_introduce _ _, fun _ _ _ => Compiling.faultsIn_pure _⟩
      · refine Compiling.faultsIn_bind.2 ⟨?_, fun _ _ _ => Compiling.faultsIn_pure _⟩
        refine ih fun other hother => ?_
        rcases List.mem_cons.1 hother with rfl | hother
        · exact hbinds hrun (Or.inr (by simp))
        · exact hbinds hrun (Or.inl (hs other hother))
  | @lookUp names name tokens hname _ ih =>
      rw [Token.expandAll]
      refine Compiling.faultsIn_bind.2 ⟨?_, fun r s₁ hrun => ?_⟩
      · rw [Token.expand, Compiling.faultsIn_noted, Command.perform]
        refine Compiling.faultsIn_bind.2
          ⟨Compiling.faultsIn_fetch.2 fun hnone => ?_, fun _ _ _ => Compiling.faultsIn_pure _⟩
        -- the look-up could only fault on an unbound name
        have hbound := hs name hname
        simp [Session.Binds, hnone] at hbound
      · refine Compiling.faultsIn_bind.2 ⟨?_, fun _ _ _ => Compiling.faultsIn_pure _⟩
        exact ih fun other hother => hbinds hrun (Or.inl (hs other hother))

end Scoped

/-! ## Passes over scoped lines -/

/-- A pass over scoped lines has no faults. -/
theorem faultsIn_expandPass_of_scoped {file : String} {lines : List PendingLine} {s : Session G}
    (h : Scoped [] (lines.flatMap PendingLine.tokens)) :
    Compiling.FaultsIn (fun _ => False) (expandPass file lines) s := by
  -- For each line the names are given that the lines before it declare.
  have hmapM :
      ∀ (names : List String) (s : Session G),
        Scoped names (lines.flatMap PendingLine.tokens) → (∀ name ∈ names, s.Binds name) →
        Compiling.FaultsIn (fun _ => False)
          (lines.mapM (PendingLine.expand file) : Compiling CompileError G _) s := by
    clear h s
    induction lines with
    | nil =>
        intro names s _ _
        rw [List.mapM_nil]
        exact Compiling.faultsIn_pure _
    | cons line lines ih =>
        intro names s hscoped hs
        rw [List.flatMap_cons, Scoped.append_iff] at hscoped
        rw [List.mapM_cons]
        refine Compiling.faultsIn_bind.2 ⟨?_, fun next s₁ hrun => ?_⟩
        · refine Compiling.faultsIn_mapFault.2 (Compiling.faultsIn_bind.2
            ⟨?_, fun _ _ _ => Compiling.faultsIn_pure _⟩)
          rw [← Token.expandAll_eq_mapM]
          exact hscoped.1.faultsIn_expandAll hs
        · refine Compiling.faultsIn_bind.2 ⟨?_, fun _ _ _ => Compiling.faultsIn_pure _⟩
          rcases PendingLine.expand_eq_ok_iff.1 hrun with ⟨row, hrow, -⟩
          refine ih _ s₁ hscoped.2 fun name hname => ?_
          rcases List.mem_append.1 hname with hname | hname
          · exact hrow.binds (Or.inr hname)
          · exact hrow.binds (Or.inl (hs name hname))
  unfold expandPass
  refine Compiling.faultsIn_bind.2 ⟨hmapM [] s h (by simp), fun _ _ _ => ?_⟩
  exact Compiling.faultsIn_pure _

namespace ExpandsLines

variable {lines : List PendingLine} {s s' : Session G} {expanded : List ExpandedLine}

theorem sound_and_settled (h : ExpandsLines lines s expanded s') (hs : s.Settled) :
    (∀ line ∈ expanded, ∀ expansion ∈ line.row, expansion.Sound) ∧ s'.Settled := by
  rcases h.expands.sound_and_settled hs with ⟨hsound, hs'⟩
  refine ⟨fun line hline expansion hexpansion => ?_, hs'⟩
  exact hsound expansion (List.mem_flatMap.2 ⟨line, hline, hexpansion⟩)

/-- What a pass leaves behind is scoped. -/
theorem scoped_lines (h : ExpandsLines lines s expanded s') (hs : s.Settled) :
    Scoped [] ((expanded.flatMap ExpandedLine.lines).flatMap PendingLine.tokens) := by
  rw [List.flatMap_assoc]
  exact Scoped.flatMap fun line hline =>
    ExpandedLine.scoped_lines ((h.sound_and_settled hs).1 line hline)

/-- A pass leaves a command behind exactly where a list is filled by appends. -/
theorem commandCount_eq_zero_iff (h : ExpandsLines lines s expanded s') (hs : s.Settled) :
    PendingLine.commandCount (expanded.flatMap ExpandedLine.lines) = 0 ↔
      ∀ line ∈ expanded, line.lists = [] := by
  have hsound := (h.sound_and_settled hs).1
  simp only [PendingLine.commandCount, List.countP_eq_zero, Bool.not_eq_true]
  constructor
  · intro hnone line hline
    refine List.flatMap_eq_nil_iff.2 fun expansion hexpansion => ?_
    -- a command in place would be one of the lines that are left
    refine (hsound line hline expansion hexpansion).lists_eq_nil_iff.2 fun token htoken => ?_
    refine hnone token (List.mem_flatMap.2 ⟨⟨line.source.origin, line.result⟩, ?_, ?_⟩)
    · refine List.mem_flatMap.2 ⟨line, hline, ?_⟩
      simp [ExpandedLine.lines]
    · exact List.mem_flatMap.2 ⟨expansion, hexpansion, htoken⟩
  · intro hnone token htoken
    rcases List.mem_flatMap.1 htoken with ⟨next, hnext, htoken⟩
    rcases List.mem_flatMap.1 hnext with ⟨line, hline, hnext⟩
    have hlists := hnone line hline
    rw [ExpandedLine.lines_of_lists_eq_nil hlists, List.mem_singleton] at hnext
    subst hnext
    rcases List.mem_flatMap.1 htoken with ⟨expansion, hexpansion, htoken⟩
    refine (hsound line hline expansion hexpansion).lists_eq_nil_iff.1 ?_ token htoken
    exact List.flatMap_eq_nil_iff.1 hlists expansion hexpansion

/-- A pass over scoped lines brings no lists. -/
theorem lists_of_scoped (h : ExpandsLines lines s expanded s')
    (hscoped : Scoped [] (lines.flatMap PendingLine.tokens)) :
    ∀ line ∈ expanded, line.lists = [] := by
  intro line hline
  refine List.flatMap_eq_nil_iff.2 fun expansion hexpansion => ?_
  exact hscoped.lists_eq_nil h.expands expansion
    (List.mem_flatMap.2 ⟨line, hline, hexpansion⟩)

/-- No command is left after a pass over scoped lines. -/
theorem commandCount_of_scoped (h : ExpandsLines lines s expanded s') (hs : s.Settled)
    (hscoped : Scoped [] (lines.flatMap PendingLine.tokens)) :
    PendingLine.commandCount (expanded.flatMap ExpandedLine.lines) = 0 :=
  (h.commandCount_eq_zero_iff hs).2 (h.lists_of_scoped hscoped)

end ExpandsLines

end Passes

end TemplateVariants
