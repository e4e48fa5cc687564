import TemplateVariants.Proofs.Laws
import TemplateVariants.Proofs.Lookups

/-!
# Identifiers are issued once

Each `var` that is expanded is issued an identifier, and the journal tells which. `Session.Issues`
says what the identifiers that were issued between two sessions have to do with the sessions: they
are all different, none of them was taken before, they are what has been taken since, and names that
got one stand for the latest that they got.

This is a law of steps (`Law.issuing`), so it holds of sequences of expansions however they end, and
of whole compilations with all their passes.
-/

namespace TemplateVariants

open ListForm Randomness

/-! ## What is told of names -/

namespace Use

/-- The name that the use binds, with its identifier. -/
def binding? : Use → Option (String × String)
  | .bind name identifier => some (name, identifier)
  | .fetch _ _ => none

/-- Names that are bound one after the other. -/
def binds (issued : List (String × String)) : List Use :=
  issued.map fun pair => .bind pair.1 pair.2

theorem latest?_append (name : String) (uses more : List Use) :
    latest? name (uses ++ more) = (latest? name more).or (latest? name uses) := by
  simp [latest?, List.filterMap_append, List.getLast?_append]

/-- What a name is bound to at last, it was bound to. -/
theorem mem_of_latest?_binds {name identifier : String} {issued : List (String × String)}
    (h : latest? name (binds issued) = some identifier) : (name, identifier) ∈ issued := by
  rcases exists_bind_of_latest? h with ⟨early, late, heq, -⟩
  have hmem : Use.bind name identifier ∈ binds issued := by
    rw [heq]
    simp
  rcases List.mem_map.1 hmem with ⟨pair, hpair, hbind⟩
  cases hbind
  exact hpair

end Use

namespace Event

/-- The name that was bound, with its identifier. -/
def binding? : Event → Option (String × String)
  | .bound name identifier => some (name, identifier)
  | _ => none

/-- Whether a `var` was expanded. -/
def isVar : Event → Bool
  | .collapsed command _ _ => command == "var"
  | _ => false

/-- The names that were bound, from the first to the last; of the events the latest comes first. -/
def issued (events : List Event) : List (String × String) :=
  (events.filterMap binding?).reverse

theorem issued_append (late early : List Event) :
    issued (late ++ early) = issued early ++ issued late := by
  simp [issued, List.filterMap_append]

end Event

/-! ## Sessions before and after -/

/-- Between the sessions the journal tells of these names and identifiers, in this order. -/
def Session.Tells {G : Type} (s : Session G) (issued : List (String × String))
    (s' : Session G) : Prop :=
  ∃ events, s'.journal = events ++ s.journal ∧ Event.issued events = issued

namespace Session.Tells

variable {G : Type} {s s₁ s' : Session G} {issued more : List (String × String)}

theorem of_journal_eq (h : s'.journal = s.journal) : s.Tells [] s' :=
  ⟨[], h, rfl⟩

theorem trans (h : s.Tells issued s₁) (hmore : s₁.Tells more s') :
    s.Tells (issued ++ more) s' := by
  rcases h with ⟨early, hjournal₁, rfl⟩
  rcases hmore with ⟨late, hjournal', rfl⟩
  refine ⟨late ++ early, ?_, Event.issued_append late early⟩
  rw [hjournal', hjournal₁, List.append_assoc]

/-- A note that binds no name tells of none. -/
theorem record (h : s.Tells issued s₁) {event : Event} (hevent : event.binding? = none) :
    s.Tells issued (s₁.record event) := by
  have hnote : s₁.Tells [] (s₁.record event) :=
    ⟨[event], rfl, by simp [Event.issued, hevent]⟩
  simpa using h.trans hnote

/-- What is told between two sessions is one. -/
theorem unique (h : s.Tells issued s') (h' : s.Tells more s') : issued = more := by
  rcases h with ⟨events, hjournal, rfl⟩
  rcases h' with ⟨events', hjournal', rfl⟩
  rw [hjournal] at hjournal'
  rw [List.append_cancel_right hjournal']

end Session.Tells

/-- Between the sessions the names were issued the identifiers, in this order. -/
structure Session.Issues {G : Type} (s : Session G) (issued : List (String × String))
    (s' : Session G) : Prop where
  /-- The journal tells of each identifier. -/
  told : s.Tells issued s'
  /-- Each `var` that was expanded got one. -/
  counted : s'.journal.countP Event.isVar = s.journal.countP Event.isVar + issued.length
  distinct : (issued.map Prod.snd).Nodup
  fresh : ∀ identifier ∈ issued.map Prod.snd, s.isClaimed identifier = false
  /-- What was taken stays so, and nothing else but what was issued is taken. -/
  claimed : ∀ identifier, s'.isClaimed identifier = true ↔
    s.isClaimed identifier = true ∨ identifier ∈ issued.map Prod.snd
  size : s'.identifiers.size = s.identifiers.size + issued.length
  /-- A name stands for the latest identifier that it got, and else for what it stood for. -/
  lookup : ∀ name, s'.lookup? name =
    ((Use.latest? name (Use.binds issued)).map Token.literal).or (s.lookup? name)

namespace Session.Issues

variable {G : Type} {s s₁ s' : Session G} {issued more : List (String × String)}

/-- A step that leaves names and identifiers alone issues nothing. -/
theorem of_quiet (htold : s.Tells [] s')
    (hcounted : s'.journal.countP Event.isVar = s.journal.countP Event.isVar)
    (hidentifiers : s'.identifiers = s.identifiers) (hbindings : s'.bindings = s.bindings) :
    s.Issues [] s' where
  told := htold
  counted := hcounted
  distinct := List.nodup_nil
  fresh := by simp
  claimed := by simp [isClaimed, hidentifiers]
  size := by simp [hidentifiers]
  lookup := by simp [lookup?, hbindings, Use.binds, Use.latest?]

theorem refl (s : Session G) : s.Issues [] s :=
  of_quiet (.of_journal_eq rfl) rfl rfl rfl

/-- A draw issues nothing. -/
theorem of_dice (s : Session G) (dice : Dice G) : s.Issues [] { s with dice } :=
  of_quiet (.of_journal_eq rfl) rfl rfl rfl

/-- What is issued later is not among what was issued earlier, since that is taken by then. -/
theorem trans (h : s.Issues issued s₁) (hmore : s₁.Issues more s') :
    s.Issues (issued ++ more) s' where
  told := h.told.trans hmore.told
  counted := by
    rw [hmore.counted, h.counted, List.length_append, Nat.add_assoc]
  distinct := by
    rw [List.map_append]
    refine List.nodup_append.2 ⟨h.distinct, hmore.distinct, fun identifier hearly other hlate => ?_⟩
    rintro rfl
    have htaken := (h.claimed identifier).2 (Or.inr hearly)
    rw [hmore.fresh identifier hlate] at htaken
    cases htaken
  fresh := by
    intro identifier hidentifier
    rw [List.map_append] at hidentifier
    rcases List.mem_append.1 hidentifier with hearly | hlate
    · exact h.fresh identifier hearly
    · -- what is free later was free before
      have hfree := hmore.fresh identifier hlate
      by_contra htaken
      have hstill := (h.claimed identifier).2 (Or.inl (by simpa using htaken))
      rw [hfree] at hstill
      cases hstill
  claimed := by
    intro identifier
    rw [hmore.claimed, h.claimed, List.map_append, List.mem_append, or_assoc]
  size := by
    rw [hmore.size, h.size, List.length_append, Nat.add_assoc]
  lookup := by
    intro name
    have hbinds : Use.binds (issued ++ more) = Use.binds issued ++ Use.binds more := List.map_append
    rw [hmore.lookup, h.lookup, hbinds, Use.latest?_append]
    cases Use.latest? name (Use.binds more) with
    | none =>
        simp
    | some identifier =>
        simp

/-- A `var` is issued the identifier that was found for it, which was free. -/
theorem of_introduce [WordSource G] {name identifier : String} {candidates : List String}
    (h : (Compiling.introduce name candidates : Compiling Cause G String) s = .ok identifier s₁)
    (before after : Nat) :
    s.Issues [(name, identifier)] (s₁.record (.collapsed "var" before after)) := by
  have hclaimed := Compiling.isClaimed_of_introduce h
  have hlookup := Compiling.lookup?_of_introduce h
  rcases Compiling.introduce_eq_ok.1 h with ⟨dice, hdraw, hs₁⟩
  have hfree : s.isClaimed identifier = false := Fresh.identifier_free hdraw
  have hsize : (s.identifiers.insert identifier).size = s.identifiers.size + 1 := by
    have hnew : identifier ∉ s.identifiers := by
      rw [← Std.HashSet.contains_iff_mem]
      exact Bool.eq_false_iff.1 hfree
    rw [Std.HashSet.size_insert, if_neg hnew]
  have htold :
      s.Tells [(name, identifier)] (s₁.record (.collapsed "var" before after)) := by
    rw [hs₁]
    exact ⟨[.collapsed "var" before after, .bound name identifier], rfl, rfl⟩
  have hcounted :
      (Event.collapsed "var" before after :: .bound name identifier :: s.journal).countP
        Event.isVar = s.journal.countP Event.isVar + 1 := by
    simp [Event.isVar]
  subst hs₁
  refine ⟨htold, hcounted, List.nodup_singleton _, by simpa using hfree, fun other => ?_, hsize,
    fun other => ?_⟩
  · have hother :
        (identifier == other || s.isClaimed other) = true ↔
          s.isClaimed other = true ∨ other ∈ [(name, identifier)].map Prod.snd := by
      rw [Bool.or_eq_true, beq_iff_eq, List.map_singleton, List.mem_singleton, or_comm,
        eq_comm (a := identifier)]
    rw [← hother, ← hclaimed other]
    rfl
  · have hother :
        (if name = other then some (Token.literal identifier) else s.lookup? other) =
          ((Use.latest? other (Use.binds [(name, identifier)])).map Token.literal).or
            (s.lookup? other) := by
      by_cases hname : name = other
      · simp [Use.latest?, Use.binds, Use.boundTo?, hname]
      · simp [Use.latest?, Use.binds, Use.boundTo?, hname]
    rw [← hother, ← hlookup other]
    rfl

/-- No two names get the same identifier. -/
theorem name_unique (h : s.Issues issued s') {name other identifier : String}
    (hname : (name, identifier) ∈ issued) (hother : (other, identifier) ∈ issued) :
    name = other := by
  have hpair := List.inj_on_of_nodup_map h.distinct hname hother rfl
  exact congrArg Prod.fst hpair

/-- Where nothing was bound before, no two names stand for the same. -/
theorem lookup_injective (h : s.Issues issued s') (hs : ∀ name, s.lookup? name = none)
    {name other : String} {value : Token} (hname : s'.lookup? name = some value)
    (hother : s'.lookup? other = some value) : name = other := by
  have hissued :
      ∀ name, s'.lookup? name = some value →
        ∃ identifier, (name, identifier) ∈ issued ∧ value = .literal identifier := by
    intro name hvalue
    rw [h.lookup, hs, Option.or_none, Option.map_eq_some_iff] at hvalue
    rcases hvalue with ⟨identifier, hlatest, rfl⟩
    exact ⟨identifier, Use.mem_of_latest?_binds hlatest, rfl⟩
  rcases hissued name hname with ⟨identifier, hmem, rfl⟩
  rcases hissued other hother with ⟨identifier', hmem', heq⟩
  cases heq
  exact h.name_unique hmem hmem'

end Session.Issues

/-! ## Steps, however they end -/

namespace Compiling

variable {ε G α : Type} {s : Session G}

/-- The session that the step leaves, with a value or without one. -/
def sessionAfter (step : Compiling ε G α) (s : Session G) : Session G :=
  match step s with
  | .ok _ s' => s'
  | .error _ s' => s'

theorem sessionAfter_of_ok {step : Compiling ε G α} {a : α} {s' : Session G}
    (h : step s = .ok a s') : step.sessionAfter s = s' := by
  rw [sessionAfter, h]

end Compiling

/-- Identifiers are issued as they should be, whether a step stalls or not. -/
def Law.issuing (G : Type) [WordSource G] : Law G where
  Ends s _ s' := ∃ issued, s.Issues issued s'
  refl s := ⟨[], .refl s⟩
  trans := by
    rintro s s₁ s' - ⟨issued, hissued⟩ ⟨more, hmore⟩
    exact ⟨issued ++ more, hissued.trans hmore⟩
  dice := by
    intro s dice _ _
    exact ⟨[], .of_dice s dice⟩
  record := by
    intro s event hquiet
    have hbinding : event.binding? = none := by
      cases hquiet <;> rfl
    have hvar : event.isVar = false := by
      cases hquiet with
      | collapsed _ _ hcommand =>
          simp [Event.isVar, hcommand]
      | _ =>
          rfl
    exact ⟨[], .of_quiet ((Session.Tells.of_journal_eq rfl).record hbinding)
      (List.countP_cons_of_neg (by simp [hvar])) rfl rfl⟩
  introduce := by
    intro s s₁ name identifier candidates before after hintroduce
    exact ⟨[(name, identifier)], .of_introduce hintroduce before after⟩

/-- However a step ends that obeys the law, identifiers were issued as they should be. -/
theorem Compiling.Obeys.exists_issues {ε G α : Type} [WordSource G] {step : Compiling ε G α}
    (h : Obeys (Law.issuing G) step) (s : Session G) :
    ∃ issued, s.Issues issued (step.sessionAfter s) := by
  have hallowed := h s
  unfold Compiling.sessionAfter
  cases hresult : step s with
  | ok a s' =>
      rw [hresult] at hallowed
      cases hallowed with
      | ok hends =>
          exact hends
  | error halt s' =>
      rw [hresult] at hallowed
      cases hallowed with
      | failed hends =>
          exact hends
      | stalled hends =>
          exact hends

section Expansion

variable {G : Type} [WordSource G]

/-- The session of a compilation is the one that its steps leave. -/
theorem Document.session_compile (doc : Document) (options : Options) (dice : Dice G) :
    (doc.compile options dice).session =
      (doc.run options.maxPasses).sessionAfter (options.session dice) := by
  unfold compile Compiling.sessionAfter Options.session
  cases doc.run options.maxPasses
    { dice, maxCollectionSize := options.maxCollectionSize } with
  | ok text s =>
      rfl
  | error halt s =>
      rfl

/-! ## The identifiers of a run -/

/-- A run tells of the names in its trees, in the order of evaluation, and of no other names. -/
theorem Expands.tells {tokens : List Token} {s s' : Session G} {row : List Expansion}
    (h : Expands tokens s row s') :
    s.Tells ((row.flatMap Expansion.uses).filterMap Use.binding?) s' := by
  -- The uses of a tree, which are told before the note of the command is.
  have hcons :
      ∀ {s s₁ s' : Session G} {expansion : Expansion} {row : List Expansion} {command : Command},
        s.Tells (expansion.uses.filterMap Use.binding?) s₁ →
        (s₁.record (expansion.note command)).Tells
          ((row.flatMap Expansion.uses).filterMap Use.binding?) s' →
        s.Tells (((expansion :: row).flatMap Expansion.uses).filterMap Use.binding?) s' := by
    intro s s₁ s' expansion row command hfirst hrest
    rw [List.flatMap_cons, List.filterMap_append]
    exact (hfirst.record rfl).trans hrest
  induction h with
  | nil s =>
      exact .of_journal_eq rfl
  | literal _ ih =>
      exact ih
  | @var name identifier _ _ _ s s₁ s₂ _ parts _ _ _ hintroduce _ ihparts ih =>
      refine hcons ?_ ih
      have hbound : s₁.Tells [(name, identifier)] s₂ := by
        rcases Compiling.introduce_eq_ok.1 hintroduce with ⟨dice, -, rfl⟩
        exact ⟨[.bound name identifier], rfl, rfl⟩
      rw [Expansion.uses, Expansion.rowUses_eq_flatMap, List.filterMap_append]
      exact ihparts.trans hbound
  | get _ _ ih =>
      exact hcons (.of_journal_eq rfl) ih
  | collection _ hwriting _ ihparts ih =>
      refine hcons ?_ ih
      rcases Compiling.roll_eq_ok.1 hwriting with ⟨dice, -, rfl⟩
      rw [Expansion.uses, Expansion.rowUses_eq_flatMap]
      exact ihparts
  | build _ _ _ _ hwriting _ ihsized ihslots ih =>
      refine hcons ?_ ih
      rcases Compiling.roll_eq_ok.1 hwriting with ⟨dice, -, rfl⟩
      rw [Expansion.uses, Expansion.rowUses_eq_flatMap, List.filterMap_append]
      rw [List.flatMap_singleton] at ihsized
      exact ihsized.trans ihslots
  | rand _ _ _ hvalue _ ihlow ihhigh ih =>
      refine hcons ?_ ih
      rcases Compiling.number_eq_ok hvalue with ⟨dice, rfl⟩
      rw [Expansion.uses, List.filterMap_append]
      rw [List.flatMap_singleton] at ihlow ihhigh
      exact ihlow.trans ihhigh

end Expansion

/-! ## Sequences of commands, and compilations -/

section Sequences

variable {G : Type} [WordSource G]

/-- The session after commands were expanded in it one after the other, each on its line, whether
or not those before it were expanded with success. -/
def Session.afterAll (s : Session G) : List (Line × Command) → Session G
  | [] => s
  | (context, command) :: commands =>
    ((command.expand context).sessionAfter s).afterAll commands

theorem Session.exists_issues_afterAll (s : Session G) (commands : List (Line × Command)) :
    ∃ issued, s.Issues issued (s.afterAll commands) := by
  induction commands generalizing s with
  | nil =>
      exact ⟨[], .refl s⟩
  | cons first commands ih =>
      rcases first with ⟨context, command⟩
      have hfirst :
          Compiling.Obeys (Law.issuing G) (Token.expand context (.command command)) :=
        Token.obeys_expand [.command command] _ (List.mem_singleton_self _)
      rw [Token.expand] at hfirst
      rcases hfirst.exists_issues s with ⟨issued, hissued⟩
      rcases ih ((command.expand context).sessionAfter s) with ⟨more, hmore⟩
      exact ⟨issued ++ more, hissued.trans hmore⟩

/-- A command that is expanded with success issues the identifiers in its tree. -/
theorem Command.issues_of_expand {context : Line} {command : Command} {s s' : Session G}
    {r : Replacement} (h : command.expand context s = .ok r s') :
    ∃ expansion, Expansion.IsOf (.command command) expansion ∧
      r = expansion.replacement (indentation context) ∧
      s.Issues (expansion.uses.filterMap Use.binding?) s' := by
  have hrun : (Token.command command).expand context s = .ok r s' := by
    rw [Token.expand]
    exact h
  rcases (Expands.recorded context [.command command]).single hrun with
    ⟨expansion, hexpands, hreplaced⟩
  have hshape : Expansion.IsOf (.command command) expansion := by
    cases hexpands.isOf with
    | cons hfirst _ =>
        exact hfirst
  refine ⟨expansion, hshape, hreplaced, ?_⟩
  have hobeys :
      Compiling.Obeys (Law.issuing G) (Token.expand context (.command command)) :=
    Token.obeys_expand [.command command] _ (List.mem_singleton_self _)
  rcases hobeys.exists_issues s with ⟨issued, hissued⟩
  rw [Compiling.sessionAfter_of_ok hrun] at hissued
  -- what the journal tells is what stands in the tree
  have htells := hexpands.tells
  rw [List.flatMap_singleton] at htells
  rw [htells.unique hissued.told]
  exact hissued

/-- Identifiers are issued once. Whatever a session knows, and whichever commands are expanded in it
with or without success, the identifiers that their `var`s get are all different and were free; they
are what the session has taken more at the end, and what the names that got them stand for. With
success these are the identifiers in the tree of the command, in the order of evaluation. So in a
compilation, with all its passes, no two names ever get the same identifier. -/
theorem identifiers_issued_once :
    (∀ (s : Session G) (commands : List (Line × Command)),
      ∃ issued, s.Issues issued (s.afterAll commands)) ∧
    (∀ (context : Line) (command : Command) (s s' : Session G) (r : Replacement),
      command.expand context s = .ok r s' →
        ∃ expansion, Expansion.IsOf (.command command) expansion ∧
          r = expansion.replacement (indentation context) ∧
          s.Issues (expansion.uses.filterMap Use.binding?) s') ∧
    (∀ (doc : Document) (options : Options) (dice : Dice G),
      ∃ issued, (options.session dice).Issues issued (doc.compile options dice).session ∧
        (∀ name other identifier,
          (name, identifier) ∈ issued → (other, identifier) ∈ issued → name = other) ∧
        ∀ name other value, (doc.compile options dice).session.lookup? name = some value →
          (doc.compile options dice).session.lookup? other = some value → name = other) := by
  refine ⟨Session.exists_issues_afterAll, fun _ _ _ _ _ h => Command.issues_of_expand h, ?_⟩
  intro doc options dice
  have hobeys : Compiling.Obeys (Law.issuing G) (doc.run options.maxPasses) :=
    doc.obeys_run options.maxPasses
  rcases hobeys.exists_issues (options.session dice) with ⟨issued, hissued⟩
  rw [← Document.session_compile] at hissued
  have hnone : ∀ name, (options.session dice).lookup? name = none := by
    intro name
    simp [Options.session, Session.lookup?]
  exact ⟨issued, hissued, fun _ _ _ => hissued.name_unique,
    fun _ _ _ => hissued.lookup_injective hnone⟩

end Sequences

end TemplateVariants
