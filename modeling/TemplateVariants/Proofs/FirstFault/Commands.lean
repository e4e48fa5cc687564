import TemplateVariants.Proofs.Expansion.Basic
import TemplateVariants.Proofs.Performing

/-!
# The first command whose collapse fails

Nested commands collapse before the command that they stand in, from left to right.
`Command.Reaches` says to which of them the expansion of a command comes, and in which session. A
failure ends everything around it (`Command.Reaches.error`), so when a command fails there is one in
it, at any depth, that failed first and for the same cause (`Command.exists_failsFirst`).
-/

namespace TemplateVariants

open Randomness

section Commands

variable {G : Type} [WordSource G] {context : Line}

/-! ## Nested commands -/

/-- From the session `s` the expansion of a command comes to a command in it with another session:
what is expanded before that one has been. -/
inductive Command.Reaches (context : Line) :
    Command → Session G → Command → Session G → Prop where
  | self (command : Command) (s : Session G) :
      Reaches context command s command s
  | candidate {name : String} {before after : List Token} {arg inner : Command}
      {s s₁ s₂ : Session G} {parts : List (String × Replacement)} :
      Token.expandTexts context before s = .ok parts s₁ →
      Reaches context arg s₁ inner s₂ →
      Reaches context (.var name (before ++ .command arg :: after)) s inner s₂
  | element {before after : List Token} {arg inner : Command} {s s₁ s₂ : Session G}
      {parts : List Replacement} :
      Token.expandAll context before s = .ok parts s₁ →
      Reaches context arg s₁ inner s₂ →
      Reaches context (.collection (before ++ .command arg :: after)) s inner s₂
  | size {element : Token} {arg inner : Command} {s s₁ : Session G} :
      Reaches context arg s inner s₁ →
      Reaches context (.build (.command arg) element) s inner s₁
  | slot {size : Token} {arg inner : Command} {s s₁ s₂ s₃ s₄ : Session G} {text : String}
      {sized : Replacement} {count done : Nat} {parts : List Replacement} :
      Compiling.asText size (size.expand context) s = .ok (text, sized) s₁ →
      Compiling.slots text s₁ = .ok count s₂ →
      done < count →
      Token.expandAll context (List.replicate done (.command arg)) s₂ = .ok parts s₃ →
      Reaches context arg s₃ inner s₄ →
      Reaches context (.build size (.command arg)) s inner s₄
  | lower {kind : NumberKind} {upper : Token} {arg inner : Command} {s s₁ : Session G} :
      Reaches context arg s inner s₁ →
      Reaches context (.rand kind (.command arg) upper) s inner s₁
  | upper {kind : NumberKind} {lower : Token} {arg inner : Command} {s s₁ s₂ : Session G}
      {part : String × Replacement} :
      Compiling.asText lower (lower.expand context) s = .ok part s₁ →
      Reaches context arg s₁ inner s₂ →
      Reaches context (.rand kind lower (.command arg)) s inner s₂

/-- A command is larger than those among its arguments. -/
theorem Command.sizeOf_lt_of_mem_args {command arg : Command} (h : .command arg ∈ command.args) :
    sizeOf arg < sizeOf command := by
  have hrow {tokens : List Token} (hmem : .command arg ∈ tokens) : sizeOf arg < sizeOf tokens := by
    have hlt := List.sizeOf_lt_of_mem hmem
    rw [Token.command.sizeOf_spec] at hlt
    omega
  cases command with
  | var name candidates =>
      have hlt := hrow ((List.mem_cons.1 h).resolve_left (by simp))
      rw [Command.var.sizeOf_spec]
      omega
  | get name =>
      exact absurd h (by simp [args])
  | collection elements =>
      have hlt : sizeOf arg < sizeOf elements := hrow h
      rw [Command.collection.sizeOf_spec]
      omega
  | build size element =>
      have harg : Token.command arg = size ∨ Token.command arg = element := by
        simpa [args] using h
      rcases harg with rfl | rfl
      · simp
        omega
      · simp
        omega
  | rand kind lower upper =>
      have harg : Token.command arg = lower ∨ Token.command arg = upper := by
        simpa [args] using h
      rcases harg with rfl | rfl
      · simp
        omega
      · simp
        omega

/-- So is what is an argument or smaller than one. -/
theorem Command.sizeOf_lt_of_arg {command arg inner : Command} (harg : .command arg ∈ command.args)
    (h : inner = arg ∨ sizeOf inner < sizeOf arg) : sizeOf inner < sizeOf command := by
  have hlt := sizeOf_lt_of_mem_args harg
  rcases h with rfl | h
  · exact hlt
  · exact Nat.lt_trans h hlt

namespace Command.Reaches

variable {outer middle inner : Command} {s s₁ s₂ s' : Session G}

theorem trans (h : outer.Reaches context s middle s₁) (hmore : middle.Reaches context s₁ inner s₂) :
    outer.Reaches context s inner s₂ := by
  induction h with
  | self _ _ =>
      exact hmore
  | candidate hbefore _ ih =>
      exact .candidate hbefore (ih hmore)
  | element hbefore _ ih =>
      exact .element hbefore (ih hmore)
  | size _ ih =>
      exact .size (ih hmore)
  | slot hsize hcount hdone hbefore _ ih =>
      exact .slot hsize hcount hdone hbefore (ih hmore)
  | lower _ ih =>
      exact .lower (ih hmore)
  | upper hlower _ ih =>
      exact .upper hlower (ih hmore)

/-- Apart from the command itself, it comes to smaller ones. -/
theorem eq_or_sizeOf_lt (h : outer.Reaches context s inner s₁) :
    inner = outer ∨ sizeOf inner < sizeOf outer := by
  induction h with
  | self _ _ =>
      exact .inl rfl
  | candidate _ _ ih =>
      exact .inr (sizeOf_lt_of_arg (by simp [args]) ih)
  | element _ _ ih =>
      exact .inr (sizeOf_lt_of_arg (by simp [args]) ih)
  | size _ ih =>
      exact .inr (sizeOf_lt_of_arg (by simp [args]) ih)
  | slot _ _ _ _ _ ih =>
      exact .inr (sizeOf_lt_of_arg (by simp [args]) ih)
  | lower _ ih =>
      exact .inr (sizeOf_lt_of_arg (by simp [args]) ih)
  | upper _ _ ih =>
      exact .inr (sizeOf_lt_of_arg (by simp [args]) ih)

open Compiling

variable {halt : Halt Cause}

/-- A command that fails fails every command around it, in the same way. -/
theorem error (h : outer.Reaches context s inner s₁)
    (hfails : inner.expand context s₁ = .error halt s') :
    outer.expand context s = .error halt s' := by
  -- an argument that is a command ends without a value where that command does
  have hargument {arg : Command} {s : Session G}
      (hend : arg.expand context s = .error halt s') :
      (Token.command arg).expand context s = .error halt s' := by
    rw [Token.expand]
    exact hend
  have htext {arg : Command} {s : Session G} (hend : arg.expand context s = .error halt s') :
      (asText (.command arg) ((Token.command arg).expand context) : Compiling Cause G _) s =
        .error halt s' := bind_of_error (hargument hend)
  induction h with
  | self _ _ =>
      exact hfails
  | candidate hbefore _ ih =>
      refine bind_of_error ?_
      rw [Command.perform]
      refine bind_of_error ?_
      rw [Token.expandTexts_eq_mapM] at hbefore ⊢
      exact mapM_eq_error.2 ⟨_, _, _, _, _, rfl, hbefore, htext (ih hfails)⟩
  | element hbefore _ ih =>
      refine bind_of_error ?_
      rw [Command.perform]
      refine bind_of_error ?_
      rw [Token.expandAll_eq_mapM] at hbefore ⊢
      exact mapM_eq_error.2 ⟨_, _, _, _, _, rfl, hbefore, hargument (ih hfails)⟩
  | size _ ih =>
      refine bind_of_error ?_
      rw [Command.perform]
      exact bind_of_error (htext (ih hfails))
  | @slot size arg _ _ _ _ _ _ _ _ count done _ hsize hcount hdone hbefore _ ih =>
      refine bind_of_error ?_
      rw [Command.perform, bind_of_ok hsize]
      dsimp only
      rw [bind_of_ok hcount, Token.mapM_replicate_expand]
      refine bind_of_error ?_
      -- the slots before this one have been expanded
      have hslots :
          List.replicate count (Token.command arg) =
            List.replicate done (.command arg) ++ .command arg ::
              List.replicate (count - done - 1) (.command arg) := by
        rw [← List.replicate_succ, List.replicate_append_replicate]
        congr 1
        omega
      rw [hslots]
      rw [Token.expandAll_eq_mapM] at hbefore ⊢
      exact mapM_eq_error.2 ⟨_, _, _, _, _, rfl, hbefore, hargument (ih hfails)⟩
  | lower _ ih =>
      refine bind_of_error ?_
      rw [Command.perform]
      exact bind_of_error (htext (ih hfails))
  | upper hlower _ ih =>
      refine bind_of_error ?_
      rw [Command.perform, bind_of_ok hlower]
      exact bind_of_error (htext (ih hfails))

end Command.Reaches

/-! ## The first failure -/

/-- The command fails for a cause, and every other one in it that it comes to collapses: the others
are done before it is, so none of them fails earlier. -/
structure Command.FailsFirst (context : Line) (command : Command) (s : Session G) (cause : Cause)
    (s' : Session G) : Prop where
  fails : command.expand context s = .error (.failed cause) s'
  collapses {inner : Command} {s₁ : Session G} : command.Reaches context s inner s₁ →
    inner = command ∨ ∃ r s₂, inner.expand context s₁ = .ok r s₂

/-- In a command that fails some command failed first, for the same cause. -/
theorem Command.exists_failsFirst {command : Command} {s s' : Session G} {cause : Cause}
    (h : command.expand context s = .error (.failed cause) s') :
    ∃ first s₁, command.Reaches context s first s₁ ∧ first.FailsFirst context s₁ cause s' := by
  by_cases hall : ∀ inner s₁, command.Reaches context s inner s₁ →
      inner = command ∨ ∃ r s₂, inner.expand context s₁ = .ok r s₂
  · exact ⟨command, s, .self command s, h, hall _ _⟩
  · push Not at hall
    rcases hall with ⟨inner, s₁, hreaches, hne, hends⟩
    -- what fails in the command fails it, so this is the failure of the command
    have hinner : inner.expand context s₁ = .error (.failed cause) s' := by
      cases hresult : inner.expand context s₁ with
      | ok r s₂ =>
          exact absurd hresult (hends r s₂)
      | error halt s₂ =>
          have hsame := (hreaches.error hresult).symm.trans h
          exact hsame
    have hsmaller : sizeOf inner < sizeOf command :=
      hreaches.eq_or_sizeOf_lt.resolve_left hne
    rcases exists_failsFirst hinner with ⟨first, s₂, hmore, hfirst⟩
    exact ⟨first, s₂, hreaches.trans hmore, hfirst⟩
termination_by sizeOf command

end Commands

end TemplateVariants
