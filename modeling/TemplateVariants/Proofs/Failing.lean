import TemplateVariants.Proofs.Hygiene
import TemplateVariants.Randomness.Replay

/-!
# Commands that stop halfway

A command whose expansion ends without a value has expanded an initial stretch of its arguments by
then, down to the nested command that stopped it. `Begun` says which stretches there are. The session
is left as that stretch made it, but for the dice (`Line.stops_of_expandAll`). So nothing is taken
back: names and identifiers are those from before and those of the nested `var`s that had been
expanded (`Command.names_after_failure`).
-/

namespace TemplateVariants

open ListForm Randomness

/-! ## What had been expanded -/

namespace Command

/-- The arguments in the order in which they are expanded, with a repeated element for each slot. -/
def slotArgs (slots : Nat) : Command → List Token
  | .build size element => .literal buildFlag :: size :: List.replicate slots element
  | command => command.args

end Command

/-- Of the tokens these had been expanded, from left to right and from the arguments of a command
that was not done with itself. -/
inductive Begun : List Token → List Token → Prop where
  | stop (tokens : List Token) :
      Begun tokens []
  | next {token : Token} {tokens done : List Token} :
      Begun tokens done →
      Begun (token :: tokens) (token :: done)
  | within {command : Command} {tokens done : List Token} (slots : Nat) :
      Begun (command.slotArgs slots) done →
      Begun (.command command :: tokens) done

/-- The token stands in the other one, at any depth, or is that token. -/
inductive Token.Within : Token → Token → Prop where
  | self (token : Token) :
      Within token token
  | argument {part arg : Token} {command : Command} :
      arg ∈ command.args →
      Within part arg →
      Within part (.command command)

namespace Token.Within

theorem trans {part token whole : Token} (h : part.Within token) (hmore : token.Within whole) :
    part.Within whole := by
  induction hmore with
  | self =>
      exact h
  | argument harg _ ih =>
      exact .argument harg ih

end Token.Within

/-- Copies of a repeated element are still that argument. -/
theorem Command.mem_args_of_mem_slotArgs {command : Command} {slots : Nat} {arg : Token}
    (h : arg ∈ command.slotArgs slots) : arg ∈ command.args := by
  cases command with
  | build size element =>
      rcases List.mem_cons.1 h with rfl | h
      · simp [args]
      · rcases List.mem_cons.1 h with rfl | h
        · simp [args]
        · rw [List.eq_of_mem_replicate h]
          simp [args]
  | _ =>
      exact h

namespace Begun

variable {tokens more done : List Token}

theorem of_prefix (done rest : List Token) : Begun (done ++ rest) done := by
  induction done with
  | nil =>
      exact .stop _
  | cons token done ih =>
      exact .next ih

theorem append (first : List Token) (h : Begun more done) :
    Begun (first ++ more) (first ++ done) := by
  induction first with
  | nil =>
      exact h
  | cons token first ih =>
      exact .next ih

/-- More tokens to the right do not matter to those that had been expanded. -/
theorem extend (h : Begun tokens done) (rest : List Token) : Begun (tokens ++ rest) done := by
  induction h with
  | stop tokens =>
      exact .stop _
  | next _ ih =>
      exact .next ih
  | within slots hargs _ =>
      exact .within slots hargs

/-- What had been expanded stands in the tokens. -/
theorem within_of_mem (h : Begun tokens done) {part : Token} (hpart : part ∈ done) :
    ∃ token ∈ tokens, part.Within token := by
  induction h with
  | stop tokens =>
      cases hpart
  | @next token tokens done _ ih =>
      rcases List.mem_cons.1 hpart with rfl | hpart
      · exact ⟨part, List.mem_cons_self, .self part⟩
      · rcases ih hpart with ⟨other, hother, hwithin⟩
        exact ⟨other, List.mem_cons_of_mem _ hother, hwithin⟩
  | @within command tokens done slots _ ih =>
      rcases ih hpart with ⟨arg, harg, hwithin⟩
      exact ⟨_, List.mem_cons_self,
        .argument (Command.mem_args_of_mem_slotArgs harg) hwithin⟩

end Begun

/-- An argument that tells of the name has the `var` in it, and so has the command. -/
theorem Expansion.var_within_command {command : Command} (args : List Token)
    {parts : List Expansion} {name identifier : String} (hargs : ∀ arg ∈ args, arg ∈ command.args)
    (hparts : List.Forall₂ IsOf args parts)
    (hwithin : ∀ part ∈ parts, ∀ {token : Token}, IsOf token part →
      (name, identifier) ∈ part.uses.filterMap Use.binding? →
      ∃ candidates, (Token.command (.var name candidates)).Within token)
    (hbound : (name, identifier) ∈ (parts.flatMap uses).filterMap Use.binding?) :
    ∃ candidates, (Token.command (.var name candidates)).Within (.command command) := by
  rcases List.mem_filterMap.1 hbound with ⟨use, huse, hbinding⟩
  rcases List.mem_flatMap.1 huse with ⟨part, hpart, huse⟩
  rcases List.mem_iff_getElem.1 hpart with ⟨i, hi, rfl⟩
  have hlength : args.length = parts.length := hparts.length_eq
  have hof : IsOf args[i] parts[i] := hparts.get (by omega) hi
  rcases hwithin _ hpart hof (List.mem_filterMap.2 ⟨use, huse, hbinding⟩) with ⟨candidates, hvar⟩
  exact ⟨candidates, .argument (hargs _ (List.getElem_mem _)) hvar⟩

/-- A name that a tree tells of was bound by a `var` in its token. -/
theorem Expansion.IsOf.var_within {token : Token} {expansion : Expansion}
    (h : IsOf token expansion) {name identifier : String}
    (hbound : (name, identifier) ∈ expansion.uses.filterMap Use.binding?) :
    ∃ candidates, (Token.command (.var name candidates)).Within token := by
  induction expansion generalizing token with
  | text t =>
      simp [uses] at hbound
  | var other candidates other' ih =>
      cases h with
      | var hparts =>
          rw [uses, rowUses_eq_flatMap, List.filterMap_append, List.mem_append] at hbound
          rcases hbound with hbound | hbound
          · exact var_within_command _ (fun arg harg => by simp [Command.args, harg]) hparts ih hbound
          · simp only [List.filterMap_cons, Use.binding?, List.filterMap_nil, List.mem_singleton,
              Prod.mk.injEq] at hbound
            rcases hbound with ⟨rfl, rfl⟩
            exact ⟨_, .self _⟩
  | get other value =>
      simp [uses, Use.binding?] at hbound
  | collection elements writing ih =>
      cases h with
      | collection hparts =>
          rw [uses, rowUses_eq_flatMap] at hbound
          exact var_within_command _ (fun arg harg => harg) hparts ih hbound
  | build size slots writing ihsize ihslots =>
      cases h with
      | @build sizeToken element count _ _ _ hsize hslots =>
          rw [uses, rowUses_eq_flatMap] at hbound
          refine var_within_command (sizeToken :: List.replicate count element) ?_ (.cons hsize hslots)
            (List.forall_mem_cons.2 ⟨ihsize, ihslots⟩) (by simpa using hbound)
          intro arg harg
          rcases List.mem_cons.1 harg with rfl | harg
          · simp [Command.args]
          · rw [List.eq_of_mem_replicate harg]
            simp [Command.args]
  | rand kind lower upper value ihlower ihupper =>
      cases h with
      | @rand _ lowerToken upperToken _ _ _ hlower hupper =>
          rw [uses] at hbound
          refine var_within_command [lowerToken, upperToken] ?_ (.cons hlower (.cons hupper .nil))
            (by simpa using And.intro @ihlower @ihupper) (by simpa using hbound)
          intro arg harg
          simp only [List.mem_cons, List.not_mem_nil, or_false] at harg
          rcases harg with rfl | rfl
          · simp [Command.args]
          · simp [Command.args]

/-! ## Steps that end without a value -/

namespace Compiling

variable {ε α β G : Type} {s s' : Session G} {halt : Halt ε}

theorem sessionAfter_of_error {step : Compiling ε G α} (h : step s = .error halt s') :
    step.sessionAfter s = s' := by
  rw [sessionAfter, h]

/-- However the step ends, it has moved nothing but the dice. -/
def OnlyRolls (step : Compiling ε G α) : Prop :=
  ∀ s : Session G, ∃ dice, step.sessionAfter s = { s with dice }

theorem onlyRolls_pure (a : α) : OnlyRolls (pure a : Compiling ε G α) :=
  fun s => ⟨s.dice, rfl⟩

theorem onlyRolls_get : OnlyRolls (get : Compiling ε G (Session G)) :=
  fun s => ⟨s.dice, rfl⟩

theorem onlyRolls_fail (e : ε) : OnlyRolls (fail e : Compiling ε G α) :=
  fun s => ⟨s.dice, rfl⟩

theorem onlyRolls_ofExcept (x : Except ε α) : OnlyRolls (ofExcept x : Compiling ε G α) := by
  cases x with
  | ok a =>
      exact onlyRolls_pure a
  | error e =>
      exact onlyRolls_fail e

theorem onlyRolls_roll (draw : Draw G α) : OnlyRolls (roll draw : Compiling ε G α) := by
  intro s
  unfold sessionAfter roll
  cases draw s.dice with
  | ok a dice =>
      exact ⟨dice, rfl⟩
  | error e dice =>
      exact ⟨dice, rfl⟩

theorem OnlyRolls.bind {x : Compiling ε G α} {f : α → Compiling ε G β} (hx : OnlyRolls x)
    (hf : ∀ a, OnlyRolls (f a)) : OnlyRolls (x >>= f) := by
  intro s
  rcases hx s with ⟨dice, hfirst⟩
  cases hresult : x s with
  | ok a s₁ =>
      rw [sessionAfter_of_ok hresult] at hfirst
      subst hfirst
      rcases hf a { s with dice } with ⟨dice', hsecond⟩
      refine ⟨dice', ?_⟩
      rw [sessionAfter, bind_of_ok hresult]
      exact hsecond
  | error halt s₁ =>
      rw [sessionAfter_of_error hresult] at hfirst
      exact ⟨dice, by rw [sessionAfter_of_error (bind_of_error hresult), hfirst]⟩

theorem OnlyRolls.eq_of_error {step : Compiling ε G α} (h : OnlyRolls step)
    (hend : step s = .error halt s') : ∃ dice, s' = { s with dice } := by
  rcases h s with ⟨dice, hafter⟩
  rw [sessionAfter_of_error hend] at hafter
  exact ⟨dice, hafter⟩

theorem onlyRolls_fetch (name : String) : OnlyRolls (fetch name : Compiling Cause G Token) := by
  refine onlyRolls_get.bind fun s => ?_
  cases s.lookup? name with
  | none =>
      exact onlyRolls_fail _
  | some value =>
      exact onlyRolls_pure value

theorem onlyRolls_slots (text : String) : OnlyRolls (slots text : Compiling Cause G Nat) := by
  refine (onlyRolls_ofExcept _).bind fun size => onlyRolls_get.bind fun s => ?_
  dsimp only
  split
  · exact onlyRolls_fail _
  · exact onlyRolls_pure _

theorem asText_eq_error {token : Token} {step : Compiling Cause G Replacement}
    {halt : Halt Cause} (h : asText token step s = .error halt s') :
    step s = .error halt s' ∨ ∃ r, step s = .ok r s' := by
  rcases bind_eq_error h with h | ⟨r, s₁, hfirst, h⟩
  · exact .inl h
  · -- a result that is not plain leaves the session as it is
    rcases bind_eq_error h with h | ⟨text, s₂, -, h⟩
    · cases hplain : plainText token r with
      | ok text =>
          rw [hplain] at h
          exact absurd h pure_ne_error
      | error e =>
          rw [hplain] at h
          cases h
          exact .inr ⟨r, hfirst⟩
    · exact absurd h pure_ne_error

variable [WordSource G]

theorem onlyRolls_number (kind : NumberKind) (lower upper : String) :
    OnlyRolls (number kind lower upper : Compiling Cause G String) := by
  cases kind with
  | integer =>
      refine (onlyRolls_ofExcept _).bind fun low => (onlyRolls_ofExcept _).bind fun high => ?_
      split
      · exact onlyRolls_fail _
      · exact (onlyRolls_roll _).bind fun _ => onlyRolls_pure _
  | real =>
      refine (onlyRolls_ofExcept _).bind fun low => (onlyRolls_ofExcept _).bind fun high => ?_
      refine (onlyRolls_roll _).bind fun x => ?_
      dsimp only
      split
      · exact onlyRolls_pure _
      · exact onlyRolls_fail _

theorem onlyRolls_write (context : Line) (parts : List Replacement) (elements : List Line) :
    OnlyRolls (ListForm.write context parts elements : Compiling Cause G Replacement) := by
  rw [write_eq]
  exact (onlyRolls_roll _).bind fun _ => onlyRolls_pure _

/-- A name that gets no identifier has only moved the dice. -/
theorem introduce_eq_error {name : String} {candidates : List String} {halt : Halt Cause}
    (h : (introduce name candidates : Compiling Cause G String) s = .error halt s') :
    ∃ dice, s' = { s with dice } := by
  have hdraw : OnlyRolls (get >>= fun s : Session G =>
      roll (Fresh.identifier s.identifiers name candidates) : Compiling Cause G String) :=
    onlyRolls_get.bind fun _ => onlyRolls_roll _
  unfold introduce at h
  rw [← bind_assoc] at h
  -- once there is an identifier, nothing that is left can end without a value
  rcases bind_eq_error h with h | ⟨identifier, s₁, -, h⟩
  · exact hdraw.eq_of_error h
  · cases h

end Compiling

/-! ## Rows that stop -/

section Rows

variable {G : Type} [WordSource G] {context : Line}

/-- In the session `s` the tokens stopped with the session `s'`: it is the one that the tokens which
had been expanded left, but for the dice. -/
def Stops (tokens : List Token) (s s' : Session G) : Prop :=
  ∃ done row s₁ dice, Begun tokens done ∧ Expands done s row s₁ ∧ s' = { s₁ with dice }

namespace Stops

variable {tokens more : List Token} {row : List Expansion} {s s₁ s' : Session G}

/-- All of the tokens were expanded, and then something that only moves the dice stopped. -/
theorem of_expands (h : Expands tokens s row s₁) (dice : Dice G) :
    Stops tokens s { s₁ with dice } := by
  have hbegun : Begun tokens tokens := by
    simpa using Begun.of_prefix tokens []
  exact ⟨tokens, row, s₁, dice, hbegun, h, rfl⟩

theorem append (h : Expands tokens s row s₁) (hmore : Stops more s₁ s') :
    Stops (tokens ++ more) s s' := by
  rcases hmore with ⟨done, next, s₂, dice, hbegun, hexpands, rfl⟩
  exact ⟨tokens ++ done, row ++ next, s₂, dice, hbegun.append tokens, h.append hexpands, rfl⟩

theorem extend (h : Stops tokens s s') (rest : List Token) : Stops (tokens ++ rest) s s' := by
  rcases h with ⟨done, row, s₁, dice, hbegun, hexpands, rfl⟩
  exact ⟨done, row, s₁, dice, hbegun.extend rest, hexpands, rfl⟩

/-- A command stops in its arguments. -/
theorem within {command : Command} {slots : Nat} (h : Stops (command.slotArgs slots) s s')
    (tokens : List Token) : Stops (.command command :: tokens) s s' := by
  rcases h with ⟨done, row, s₁, dice, hbegun, hexpands, rfl⟩
  exact ⟨done, row, s₁, dice, .within slots hbegun, hexpands, rfl⟩

/-- Words need no expansion. -/
theorem literal (text : String) (h : Stops tokens s s') :
    Stops (.literal text :: tokens) s s' := by
  rcases h with ⟨done, row, s₁, dice, hbegun, hexpands, rfl⟩
  exact ⟨.literal text :: done, .text text :: row, s₁, dice, .next hbegun, .literal hexpands, rfl⟩

end Stops

open Compiling

/-- Wherever the expansion of the tokens ends without a value, they stopped. -/
def Line.Halting (G : Type) [WordSource G] (context : Line) (tokens : List Token) : Prop :=
  ∀ (s s' : Session G) (halt : Halt Cause),
    Token.expandAll context tokens s = .error halt s' → Stops tokens s s'

/-- Wherever a command ends without a value, its arguments stopped. -/
def Command.Halting (G : Type) [WordSource G] (context : Line) (command : Command) : Prop :=
  ∀ (s s' : Session G) (halt : Halt Cause),
    command.perform context s = .error halt s' → ∃ slots, Stops (command.slotArgs slots) s s'

variable {s s' : Session G} {halt : Halt Cause}

theorem Token.expandAll_cons_eq_error {token : Token} {tokens : List Token}
    (h : Token.expandAll context (token :: tokens) s = .error halt s') :
    token.expand context s = .error halt s' ∨
      ∃ r s₁, token.expand context s = .ok r s₁ ∧
        Token.expandAll context tokens s₁ = .error halt s' := by
  rw [Token.expandAll] at h
  rcases bind_eq_error h with h | ⟨r, s₁, hfirst, h⟩
  · exact .inl h
  · rcases bind_eq_error h with h | ⟨rest, s₂, -, h⟩
    · exact .inr ⟨r, s₁, hfirst, h⟩
    · exact absurd h pure_ne_error

/-- Arguments that have to be texts stop where they would stop otherwise, or where one of them has
turned out to be no text. -/
theorem Token.expandTexts_eq_error {tokens : List Token}
    (h : Token.expandTexts context tokens s = .error halt s') :
    Token.expandAll context tokens s = .error halt s' ∨
      ∃ done rest rs, tokens = done ++ rest ∧ Token.expandAll context done s = .ok rs s' := by
  induction tokens generalizing s with
  | nil =>
      rw [Token.expandTexts] at h
      exact absurd h pure_ne_error
  | cons token tokens ih =>
      rw [Token.expandTexts] at h
      rcases bind_eq_error h with h | ⟨part, s₁, hfirst, h⟩
      · rcases asText_eq_error h with h | ⟨r, h⟩
        · refine .inl ?_
          rw [Token.expandAll]
          exact bind_of_error h
        · exact .inr ⟨[token], tokens, [r], rfl, Token.expandAll_singleton_eq_ok.2 h⟩
      · rcases bind_eq_error h with h | ⟨rest, s₂, -, h⟩
        · have hrun := (asText_eq_ok.1 hfirst).1
          rcases ih h with hmore | ⟨done, rest, rs, rfl, hmore⟩
          · refine .inl ?_
            rw [Token.expandAll, bind_of_ok hrun]
            exact bind_of_error hmore
          · exact .inr ⟨token :: done, rest, part.2 :: rs, rfl,
              Token.expandAll_cons_eq_ok.2 ⟨_, _, _, hrun, hmore, rfl⟩⟩
        · exact absurd h pure_ne_error

namespace Line.Halting

/-- A token alone. -/
theorem single {token : Token} (h : Line.Halting G context [token])
    (hend : token.expand context s = .error halt s') : Stops [token] s s' := by
  refine h s s' halt ?_
  rw [Token.expandAll]
  exact bind_of_error hend

theorem asText {token : Token} (h : Line.Halting G context [token])
    (hend : Compiling.asText token (token.expand context) s = .error halt s') :
    Stops [token] s s' := by
  rcases asText_eq_error hend with hend | ⟨r, hrun⟩
  · exact h.single hend
  · rcases (Expands.recorded context [token]).single hrun with ⟨expansion, hexpands, -⟩
    exact Stops.of_expands hexpands s'.dice

theorem replicate {element : Token} (h : Line.Halting G context [element]) (count : Nat) :
    Line.Halting G context (List.replicate count element) := by
  induction count with
  | zero =>
      intro s s' halt hend
      rw [List.replicate_zero, Token.expandAll] at hend
      exact absurd hend pure_ne_error
  | succ count ih =>
      intro s s' halt hend
      rw [List.replicate_succ] at hend ⊢
      rcases Token.expandAll_cons_eq_error hend with hend | ⟨r, s₁, hrun, hend⟩
      · exact (h.single hend).extend _
      · rcases (Expands.recorded context [element]).single hrun with ⟨expansion, hexpands, -⟩
        exact Stops.append hexpands (ih _ _ _ hend)

theorem literal {tokens : List Token} (text : String) (h : Line.Halting G context tokens) :
    Line.Halting G context (.literal text :: tokens) := by
  intro s s' halt hend
  rcases Token.expandAll_cons_eq_error hend with hend | ⟨r, s₁, hrun, hend⟩
  · rw [Token.expand] at hend
    exact absurd hend pure_ne_error
  · rw [Token.expand, pure_eq_ok] at hrun
    rcases hrun with ⟨-, rfl⟩
    exact (h _ _ _ hend).literal text

theorem command {command : Command} {tokens : List Token} (hcommand : command.Halting G context)
    (h : Line.Halting G context tokens) :
    Line.Halting G context (.command command :: tokens) := by
  intro s s' halt hend
  rcases Token.expandAll_cons_eq_error hend with hend | ⟨r, s₁, hrun, hend⟩
  · rw [Token.expand] at hend
    rcases bind_eq_error hend with hend | ⟨r, s₁, -, hend⟩
    · rcases hcommand _ _ _ hend with ⟨slots, hstops⟩
      exact hstops.within tokens
    · cases hend
  · rcases (Expands.recorded context [.command command]).single hrun with
      ⟨expansion, hexpands, -⟩
    exact Stops.append hexpands (h _ _ _ hend)

end Line.Halting

namespace Command

/-! ## Each command -/

theorem halting_var {name : String} {candidates : List Token}
    (h : Line.Halting G context candidates) : (Command.var name candidates).Halting G context := by
  intro s s' halt hend
  refine ⟨0, Stops.literal name ?_⟩
  rw [perform] at hend
  rcases bind_eq_error hend with hend | ⟨parts, s₁, hparts, hend⟩
  · rcases Token.expandTexts_eq_error hend with hend | ⟨done, rest, rs, rfl, hrun⟩
    · exact h _ _ _ hend
    · rcases Token.expandAll_eq_ok_iff.1 hrun with ⟨row, hexpands, -⟩
      exact (Stops.of_expands hexpands s'.dice).extend rest
  · rcases bind_eq_error hend with hend | ⟨identifier, s₂, -, hend⟩
    · rcases Token.expandAll_eq_ok_iff.1 (Token.expandTexts_eq_ok.1 hparts).1 with
        ⟨row, hexpands, -⟩
      rcases introduce_eq_error hend with ⟨dice, rfl⟩
      exact Stops.of_expands hexpands _
    · exact absurd hend pure_ne_error

theorem halting_get (name : String) : (Command.get name).Halting G context := by
  intro s s' halt hend
  refine ⟨0, Stops.literal name ?_⟩
  rw [perform] at hend
  have hrolls : OnlyRolls (Compiling.fetch name >>= fun value =>
      pure (Replacement.plain [value]) : Compiling Cause G Replacement) :=
    (onlyRolls_fetch name).bind fun _ => onlyRolls_pure _
  rcases hrolls.eq_of_error hend with ⟨dice, rfl⟩
  exact Stops.of_expands (.nil s) _

theorem halting_collection {elements : List Token} (h : Line.Halting G context elements) :
    (Command.collection elements).Halting G context := by
  intro s s' halt hend
  refine ⟨0, ?_⟩
  rw [perform] at hend
  rcases bind_eq_error hend with hend | ⟨parts, s₁, hparts, hend⟩
  · exact h _ _ _ hend
  · rcases Token.expandAll_eq_ok_iff.1 hparts with ⟨row, hexpands, -⟩
    rcases (onlyRolls_write _ _ _).eq_of_error hend with ⟨dice, rfl⟩
    exact Stops.of_expands hexpands _

theorem halting_build {size element : Token} (hsize : Line.Halting G context [size])
    (helement : Line.Halting G context [element]) :
    (Command.build size element).Halting G context := by
  intro s s' halt hend
  rw [perform] at hend
  rcases bind_eq_error hend with hend | ⟨⟨text, sized⟩, s₁, hsized, hend⟩
  · exact ⟨0, ((hsize.asText hend).extend _).literal _⟩
  · rcases (Expands.recorded context [size]).single (asText_eq_ok.1 hsized).1 with
      ⟨expansion, hexpands, -⟩
    rcases bind_eq_error hend with hend | ⟨count, s₂, hcount, hend⟩
    · rcases (onlyRolls_slots text).eq_of_error hend with ⟨dice, rfl⟩
      exact ⟨0, ((Stops.of_expands hexpands _).extend _).literal _⟩
    · -- the slots come after the size
      have hsame : s₁ = s₂ := slots_eq_ok hcount
      subst hsame
      rw [Token.mapM_replicate_expand] at hend
      refine ⟨count, (Stops.append hexpands ?_).literal _⟩
      rcases bind_eq_error hend with hend | ⟨parts, s₂, hparts, hend⟩
      · exact helement.replicate count _ _ _ hend
      · rcases Token.expandAll_eq_ok_iff.1 hparts with ⟨row, hrow, -⟩
        rcases (onlyRolls_write _ _ _).eq_of_error hend with ⟨dice, rfl⟩
        exact Stops.of_expands hrow _

theorem halting_rand {kind : NumberKind} {lower upper : Token}
    (hlower : Line.Halting G context [lower]) (hupper : Line.Halting G context [upper]) :
    (Command.rand kind lower upper).Halting G context := by
  intro s s' halt hend
  refine ⟨0, Stops.literal _ ?_⟩
  rw [perform] at hend
  rcases bind_eq_error hend with hend | ⟨⟨low, first⟩, s₁, hfirst, hend⟩
  · exact (hlower.asText hend).extend [upper]
  · rcases (Expands.recorded context [lower]).single (asText_eq_ok.1 hfirst).1 with
      ⟨expansion, hexpands, -⟩
    refine Stops.append hexpands ?_
    rcases bind_eq_error hend with hend | ⟨⟨high, second⟩, s₂, hsecond, hend⟩
    · exact hupper.asText hend
    · rcases (Expands.recorded context [upper]).single (asText_eq_ok.1 hsecond).1 with
        ⟨other, hother, -⟩
      rcases bind_eq_error hend with hend | ⟨value, s₃, -, hend⟩
      · rcases (onlyRolls_number kind low high).eq_of_error hend with ⟨dice, rfl⟩
        exact Stops.of_expands hother _
      · exact absurd hend pure_ne_error

end Command

/-- Every row of tokens stops where its expansion ends without a value. -/
theorem Line.halting (context : Line) (tokens : List Token) : Line.Halting G context tokens := by
  -- The arguments are rows as well, so the induction goes into them and along the row.
  induction tokens using Line.row_induction with
  | nil =>
      intro s s' halt hend
      rw [Token.expandAll] at hend
      exact absurd hend pure_ne_error
  | literal text tokens ih =>
      exact ih.literal text
  | var name candidates tokens ihcandidates ih =>
      exact ih.command (Command.halting_var ihcandidates)
  | get name tokens ih =>
      exact ih.command (Command.halting_get name)
  | collection elements tokens ihelements ih =>
      exact ih.command (Command.halting_collection ihelements)
  | build size element tokens ihsize ihelement ih =>
      exact ih.command (Command.halting_build ihsize ihelement)
  | rand kind lower upper tokens ihlower ihupper ih =>
      exact ih.command (Command.halting_rand ihlower ihupper)

theorem Command.halting (context : Line) (command : Command) : command.Halting G context := by
  cases command with
  | var name candidates =>
      exact halting_var (Line.halting _ _)
  | get name =>
      exact halting_get name
  | collection elements =>
      exact halting_collection (Line.halting _ _)
  | build size element =>
      exact halting_build (Line.halting _ _) (Line.halting _ _)
  | rand kind lower upper =>
      exact halting_rand (Line.halting _ _) (Line.halting _ _)

/-! ## What is left of a failure -/

/-- Names stand for the same in both sessions, and the same identifiers are taken. -/
def Session.SameNames (s s' : Session G) : Prop :=
  (∀ name, s'.lookup? name = s.lookup? name) ∧
    ∀ identifier, s'.isClaimed identifier = s.isClaimed identifier

omit [WordSource G] in
/-- Names and identifiers are the same exactly if none was issued. -/
theorem Session.Issues.sameNames_iff {issued : List (String × String)} (h : s.Issues issued s') :
    s.SameNames s' ↔ issued = [] := by
  constructor
  · rintro ⟨-, hclaimed⟩
    by_contra hne
    rcases List.exists_mem_of_ne_nil issued hne with ⟨pair, hpair⟩
    have hmem : pair.2 ∈ issued.map Prod.snd := List.mem_map_of_mem hpair
    -- the identifier was free, and it is taken now
    have htaken : s'.isClaimed pair.2 = true := (h.claimed pair.2).2 (.inr hmem)
    rw [hclaimed, h.fresh pair.2 hmem] at htaken
    cases htaken
  · rintro rfl
    refine ⟨fun name => ?_, fun identifier => ?_⟩
    · rw [h.lookup]
      simp [Use.binds, Use.latest?]
    · rw [Bool.eq_iff_iff, h.claimed]
      simp

/-- The names that were bound in the trees of a row, in this order. -/
def Expansion.names (row : List Expansion) : List (String × String) :=
  (row.flatMap Expansion.uses).filterMap Use.binding?

theorem Command.issues_of_stop {command : Command} {slots : Nat} {done : List Token}
    {row : List Expansion} {s₁ : Session G} {dice : Dice G}
    (hend : command.expand context s = .error halt { s₁ with dice })
    (hbegun : Begun (command.slotArgs slots) done) (hexpands : Expands done s row s₁) :
    s.Issues (Expansion.names row) { s₁ with dice } ∧
      ∀ name identifier, (name, identifier) ∈ Expansion.names row →
        ∃ arg ∈ command.args, ∃ candidates,
          (Token.command (.var name candidates)).Within arg := by
  constructor
  · have hobeys :
        Compiling.Obeys (Law.issuing G) (Token.expand context (.command command)) :=
      Token.obeys_expand [.command command] _ (List.mem_singleton_self _)
    rcases hobeys.exists_issues s with ⟨issued, hissued⟩
    have hrun :
        (Token.command command).expand context s = .error halt { s₁ with dice } := by
      rw [Token.expand]
      exact hend
    rw [sessionAfter_of_error hrun] at hissued
    -- the dice are not in the journal
    have htells : s.Tells (Expansion.names row) { s₁ with dice } := hexpands.tells
    rw [htells.unique hissued.told]
    exact hissued
  · intro name identifier hmem
    rcases List.mem_filterMap.1 hmem with ⟨use, huse, hbinding⟩
    rcases List.mem_flatMap.1 huse with ⟨expansion, hexpansion, huse⟩
    rcases List.mem_iff_getElem.1 hexpansion with ⟨i, hi, rfl⟩
    have hlength : done.length = row.length := hexpands.isOf.length_eq
    have hof : Expansion.IsOf done[i] row[i] := hexpands.isOf.get (by omega) hi
    rcases hof.var_within (List.mem_filterMap.2 ⟨use, huse, hbinding⟩) with
      ⟨candidates, hwithin⟩
    rcases hbegun.within_of_mem (List.getElem_mem _) with ⟨arg, harg, hdone⟩
    exact ⟨arg, mem_args_of_mem_slotArgs harg, candidates, hwithin.trans hdone⟩

/-- Nothing is taken back. A command that ends without a value has expanded an initial stretch of its
arguments, and it leaves the session that this stretch made, but for the dice: the names and the
identifiers are those from before and those of the `var`s in the stretch, each with an identifier that
was free. So they are the same as before exactly if no `var` had been expanded, and always if none
stands in the arguments. -/
theorem Command.names_after_failure {command : Command}
    (h : command.expand context s = .error halt s') :
    (∃ slots done row s₁ dice,
      Begun (command.slotArgs slots) done ∧ Expands done s row s₁ ∧ s' = { s₁ with dice } ∧
      s.Issues (Expansion.names row) s' ∧
      (∀ name identifier, (name, identifier) ∈ Expansion.names row →
        ∃ arg ∈ command.args, ∃ candidates,
          (Token.command (.var name candidates)).Within arg) ∧
      (s.SameNames s' ↔ Expansion.names row = [])) ∧
    ((∀ arg ∈ command.args, ∀ name candidates,
      ¬ (Token.command (.var name candidates)).Within arg) → s.SameNames s') := by
  have hperform : command.perform context s = .error halt s' := by
    rcases bind_eq_error h with hend | ⟨r, s₁, -, hend⟩
    · exact hend
    · cases hend
  rcases Command.halting context command s s' halt hperform with
    ⟨slots, done, row, s₁, dice, hbegun, hexpands, rfl⟩
  rcases Command.issues_of_stop h hbegun hexpands with ⟨hissues, hvars⟩
  refine ⟨⟨slots, done, row, s₁, dice, hbegun, hexpands, rfl, hissues, hvars,
    hissues.sameNames_iff⟩, fun hnone => ?_⟩
  rw [hissues.sameNames_iff, List.eq_nil_iff_forall_not_mem]
  rintro ⟨name, identifier⟩ hmem
  rcases hvars name identifier hmem with ⟨arg, harg, candidates, hwithin⟩
  exact hnone arg harg name candidates hwithin

end Rows

/-! ### A failure behind a `var` -/

/-- The first element binds a name, the second asks for one that is unbound. -/
def unboundElement : Command :=
  .collection [.command (.var "x" []), .command (.get "y")]

/-- Nothing is bound, and the first word drawn stands for the name itself. -/
def unboundSession : Session Replay where
  dice := { source := { prepared := [0] }, patience := 1 }

theorem unboundElement_fails :
    ∃ s', unboundElement.expand [] unboundSession = .error (.failed (.binding (.unbound "y"))) s' ∧
      s'.lookup? "x" = some (.literal "x") ∧ s'.isClaimed "x" = true := by
  have hdraw :
      Fresh.drawName "x" [] unboundSession.dice = .ok "x" ⟨⟨[], 0⟩, 1⟩ := rfl
  have hfree : unboundSession.isClaimed "x" = false := by
    simp [Session.isClaimed, unboundSession]
  rcases Compiling.exists_introduce hdraw hfree with ⟨s₁, hintroduce, -⟩
  have hlookup := Compiling.lookup?_of_introduce hintroduce
  have hclaimed := Compiling.isClaimed_of_introduce hintroduce
  let note := Expansion.note (.var "x" []) (.var "x" [] "x")
  have htexts : Expansion.HaveTexts [] [] := rfl
  have hexpands :
      Expands [.command (.var "x" [])] unboundSession [.var "x" [] "x"] (s₁.record note) :=
    .var (.nil _) htexts hintroduce (.nil _)
  have hvar := Token.expandAll_singleton_eq_ok.1
    (hexpands.expandAll_eq_ok : Token.expandAll [] _ _ = _)
  have hnone : (s₁.record note).lookup? "y" = none := by
    refine (hlookup "y").trans ?_
    rw [if_neg (by decide)]
    simp [Session.lookup?, unboundSession]
  have hget :
      (Token.command (.get "y")).expand [] (s₁.record note) =
        .error (.failed (.binding (.unbound "y"))) (s₁.record note) := by
    rw [Token.expand, Command.perform]
    exact Compiling.bind_of_error (Compiling.bind_of_error (Compiling.fetch_of_none hnone))
  refine ⟨s₁.record note, ?_, (hlookup "x").trans (if_pos rfl), ?_⟩
  · refine Compiling.bind_of_error ?_
    rw [unboundElement, Command.perform]
    refine Compiling.bind_of_error ?_
    rw [Token.expandAll, Compiling.bind_of_ok hvar]
    refine Compiling.bind_of_error ?_
    rw [Token.expandAll]
    exact Compiling.bind_of_error hget
  · refine (hclaimed "x").trans ?_
    rfl

/-- The binding and the identifier stay when the command fails. -/
theorem Command.failure_leaves_binding :
    ∃ s', unboundElement.expand [] unboundSession = .error (.failed (.binding (.unbound "y"))) s' ∧
      s'.lookup? "x" ≠ unboundSession.lookup? "x" ∧
      s'.isClaimed "x" ≠ unboundSession.isClaimed "x" := by
  rcases unboundElement_fails with ⟨s', hend, hlookup, hclaimed⟩
  refine ⟨s', hend, ?_, ?_⟩
  · rw [hlookup]
    simp [Session.lookup?, unboundSession]
  · rw [hclaimed]
    simp [Session.isClaimed, unboundSession]

theorem Command.names_after_unbound :
    ∃ s' done row, unboundElement.expand [] unboundSession =
        .error (.failed (.binding (.unbound "y"))) s' ∧
      Begun [.command (.var "x" []), .command (.get "y")] done ∧
      unboundSession.Issues (Expansion.names row) s' ∧ Expansion.names row ≠ [] := by
  rcases unboundElement_fails with ⟨s', hend, hlookup, -⟩
  rcases (names_after_failure hend).1 with
    ⟨slots, done, row, s₁, dice, hbegun, -, -, hissues, -, hsame⟩
  refine ⟨s', done, row, hend, hbegun, hissues, fun hnames => ?_⟩
  have hkept := (hsame.2 hnames).1 "x"
  rw [hlookup] at hkept
  simp [Session.lookup?, unboundSession] at hkept

end TemplateVariants
