import Mathlib.Tactic.Common
import TemplateVariants.Expand.Command

/-!
# Taking steps apart

A step of a compilation that ended with a value is taken apart into the steps that it is made of.
Each primitive step has one lemma that says when it ends with a value and what session it leaves;
no later proof opens the state monad. `Compiling.roll` carries a sequence of draws over to a
sequence of steps.
-/

namespace TemplateVariants
namespace Compiling

open Randomness

variable {ε δ σ G α β : Type}

/-! ## Sequencing -/

theorem bind_eq_ok {x : EStateM ε σ α} {f : α → EStateM ε σ β} {s s' : σ} {b : β} :
    (x >>= f) s = .ok b s' ↔ ∃ a s₁, x s = .ok a s₁ ∧ f a s₁ = .ok b s' := by
  change EStateM.bind x f s = .ok b s' ↔ _
  unfold EStateM.bind
  cases x s with
  | ok a s₁ =>
      simp
  | error e s₁ =>
      simp

/-- A step that ends with a value goes on with it. -/
theorem bind_of_ok {x : EStateM ε σ α} {f : α → EStateM ε σ β} {s s₁ : σ} {a : α}
    (h : x s = .ok a s₁) : (x >>= f) s = f a s₁ := by
  change EStateM.bind x f s = _
  unfold EStateM.bind
  rw [h]

/-- A step that ends with an error is the last one. -/
theorem bind_of_error {x : EStateM ε σ α} {f : α → EStateM ε σ β} {s s₁ : σ} {e : ε}
    (h : x s = .error e s₁) : (x >>= f) s = .error e s₁ := by
  change EStateM.bind x f s = _
  unfold EStateM.bind
  rw [h]

/-- Steps one after the other end with an error in the first or in the second. -/
theorem bind_eq_error {x : EStateM ε σ α} {f : α → EStateM ε σ β} {s s' : σ} {e : ε}
    (h : (x >>= f) s = .error e s') :
    x s = .error e s' ∨ ∃ a s₁, x s = .ok a s₁ ∧ f a s₁ = .error e s' := by
  cases hfirst : x s with
  | ok a s₁ =>
      rw [bind_of_ok hfirst] at h
      exact .inr ⟨a, s₁, rfl, h⟩
  | error e' s₁ =>
      rw [bind_of_error hfirst] at h
      cases h
      exact .inl rfl

theorem pure_ne_error {a : α} {s s' : σ} {e : ε} :
    (pure a : EStateM ε σ α) s ≠ .error e s' := by
  intro h
  cases h

/-- What is done with a value does not matter where there is none. -/
theorem bind_pure_eq_error {x : EStateM ε σ α} {f : α → β} {s s' : σ} {e : ε} :
    (x >>= fun a => pure (f a)) s = .error e s' ↔ x s = .error e s' := by
  constructor
  · intro h
    rcases bind_eq_error h with h | ⟨a, s₁, -, h⟩
    · exact h
    · exact absurd h pure_ne_error
  · exact bind_of_error

@[simp]
theorem pure_eq_ok {a b : α} {s s' : σ} :
    (pure a : EStateM ε σ α) s = .ok b s' ↔ a = b ∧ s = s' := by
  change EStateM.Result.ok a s = .ok b s' ↔ _
  simp

@[simp]
theorem get_eq_ok {s s₁ s' : Session G} :
    (get : Compiling ε G (Session G)) s = .ok s₁ s' ↔ s = s₁ ∧ s = s' := by
  change EStateM.Result.ok s s = .ok s₁ s' ↔ _
  simp

@[simp]
theorem modify_eq_ok {f : Session G → Session G} {s s' : Session G} {u : Unit} :
    (modify f : Compiling ε G Unit) s = .ok u s' ↔ f s = s' := by
  change EStateM.Result.ok () (f s) = .ok u s' ↔ _
  simp

/-- Steps for the items of a list end with the first one that fails. -/
theorem mapM_eq_error {f : α → EStateM ε σ β} {as : List α} {s s' : σ} {e : ε} :
    as.mapM f s = .error e s' ↔
      ∃ before a after bs s₁, as = before ++ a :: after ∧ before.mapM f s = .ok bs s₁ ∧
        f a s₁ = .error e s' := by
  induction as generalizing s with
  | nil =>
      rw [List.mapM_nil]
      constructor
      · intro h
        exact absurd h pure_ne_error
      · intro h
        rcases h with ⟨before, a, after, bs, s₁, hsplit, -⟩
        exact absurd hsplit (by simp)
  | cons a as ih =>
      rw [List.mapM_cons]
      constructor
      · intro h
        rcases bind_eq_error h with h | ⟨b, s₁, hfirst, h⟩
        · exact ⟨[], a, as, [], s, rfl, rfl, h⟩
        · rcases bind_eq_error h with h | ⟨bs, s₂, -, h⟩
          · rcases ih.1 h with ⟨before, a', after, bs, s₂, rfl, hbefore, hfails⟩
            refine ⟨a :: before, a', after, b :: bs, s₂, rfl, ?_, hfails⟩
            rw [List.mapM_cons, bind_of_ok hfirst, bind_of_ok hbefore]
            rfl
          · exact absurd h pure_ne_error
      · intro h
        rcases h with ⟨before, a', after, bs, s₁, hsplit, hbefore, hfails⟩
        cases before with
        | nil =>
            cases hsplit
            cases hbefore
            exact bind_of_error hfails
        | cons first before =>
            cases hsplit
            rw [List.mapM_cons] at hbefore
            rcases bind_eq_ok.1 hbefore with ⟨b, s₂, hfirst, hbefore⟩
            rcases bind_eq_ok.1 hbefore with ⟨rest, s₃, hrest, hdone⟩
            cases hdone
            rw [bind_of_ok hfirst]
            exact bind_of_error (ih.2 ⟨before, a', after, rest, s₁, rfl, hrest, hfails⟩)

/-! ## Primitive steps -/

@[simp]
theorem record_eq_ok {event : Event} {s s' : Session G} {u : Unit} :
    (record event : Compiling ε G Unit) s = .ok u s' ↔ s.record event = s' := by
  simp [record]

@[simp]
theorem fail_ne_ok {error : ε} {a : α} {s s' : Session G} :
    ((fail error : Compiling ε G α) s = .ok a s') ↔ False := by
  change EStateM.Result.error (Halt.failed error) s = .ok a s' ↔ _
  simp

@[simp]
theorem ofExcept_eq_ok {x : Except ε α} {a : α} {s s' : Session G} :
    (ofExcept x : Compiling ε G α) s = .ok a s' ↔ x = .ok a ∧ s = s' := by
  cases x with
  | ok b =>
      simp [ofExcept]
  | error e =>
      simp [ofExcept]

@[simp]
theorem mapFault_eq_ok {f : ε → δ} {step : Compiling ε G α} {a : α} {s s' : Session G} :
    mapFault f step s = .ok a s' ↔ step s = .ok a s' := by
  unfold mapFault
  cases step s with
  | ok b s₁ =>
      simp
  | error halt s₁ =>
      cases halt with
      | failed e =>
          simp
      | stalled =>
          simp

/-- A fault is replaced by another one, and a stall stays one. -/
theorem mapFault_eq_failed {f : ε → δ} {step : Compiling ε G α} {s s' : Session G} {fault : δ} :
    mapFault f step s = .error (.failed fault) s' ↔
      ∃ cause, step s = .error (.failed cause) s' ∧ fault = f cause := by
  unfold mapFault
  cases step s with
  | ok a s₁ =>
      simp
  | error halt s₁ =>
      cases halt with
      | failed cause =>
          simp [eq_comm, and_comm]
      | stalled =>
          simp

/-! ## Draws as steps -/

@[simp]
theorem roll_pure (a : α) : (roll (pure a) : Compiling ε G α) = pure a := rfl

theorem roll_bind (draw : Draw G α) (f : α → Draw G β) :
    (roll (draw >>= f) : Compiling ε G β) = roll draw >>= fun a => roll (f a) := by
  funext s
  change roll (EStateM.bind draw f) s = EStateM.bind (roll draw) (fun a => roll (f a)) s
  unfold roll EStateM.bind
  cases hdraw : draw s.dice with
  | ok a dice =>
      simp [hdraw]
  | error e dice =>
      simp [hdraw]

/-- A draw leaves everything in the session but the dice. -/
theorem roll_eq_ok {draw : Draw G α} {a : α} {s s' : Session G} :
    (roll draw : Compiling ε G α) s = .ok a s' ↔
      ∃ dice, draw s.dice = .ok a dice ∧ s' = { s with dice } := by
  unfold roll
  cases draw s.dice with
  | ok b dice =>
      constructor
      · intro h
        simp only [EStateM.Result.ok.injEq] at h
        exact ⟨dice, by rw [h.1], h.2.symm⟩
      · rintro ⟨dice', hdraw, rfl⟩
        simp only [EStateM.Result.ok.injEq] at hdraw
        rw [hdraw.1, hdraw.2]
  | error e dice =>
      simp

/-! ## The steps of the library -/

/-- An argument comes out as text exactly if its result is plain. -/
theorem asText_eq_ok {argument : Token} {step : Compiling Cause G Replacement} {s s' : Session G}
    {part : String × Replacement} :
    asText argument step s = .ok part s' ↔
      step s = .ok part.2 s' ∧ Line.plainText? part.2.result = some part.1 := by
  -- Whether an argument is plain does not depend on its token, only the fault does.
  have hplain :
      ∀ (r : Replacement) (text : String),
        plainText argument r = .ok text ↔ Line.plainText? r.result = some text := by
    intro r text
    unfold plainText
    cases Line.plainText? r.result with
    | some t =>
        simp
    | none =>
        cases argument with
        | literal _ =>
            simp
        | command _ =>
            simp
  rcases part with ⟨text, r⟩
  simp only [asText, bind_eq_ok, ofExcept_eq_ok, pure_eq_ok, hplain, Prod.mk.injEq]
  constructor
  · rintro ⟨r', s₁, hstep, text', s₂, ⟨htext, rfl⟩, ⟨rfl, rfl⟩, rfl⟩
    exact ⟨hstep, htext⟩
  · rintro ⟨hstep, htext⟩
    exact ⟨r, s', hstep, text, s', ⟨htext, rfl⟩, ⟨rfl, rfl⟩, rfl⟩

theorem introduce_eq_ok [WordSource G] {name identifier : String} {candidates : List String}
    {s s' : Session G} :
    (introduce name candidates : Compiling Cause G String) s = .ok identifier s' ↔
      ∃ dice, Fresh.identifier s.identifiers name candidates s.dice = .ok identifier dice ∧
        s' = ((Session.claim { s with dice } identifier).bind name (.literal identifier)).record
          (.bound name identifier) := by
  simp only [introduce, bind_eq_ok, get_eq_ok, roll_eq_ok, modify_eq_ok, record_eq_ok, pure_eq_ok]
  constructor
  · rintro ⟨s₁, s₂, ⟨rfl, rfl⟩, id, s₃, ⟨dice, hdraw, rfl⟩, _, s₄, rfl, _, s₅, rfl, rfl, rfl⟩
    exact ⟨dice, hdraw, rfl⟩
  · rintro ⟨dice, hdraw, rfl⟩
    exact ⟨s, s, ⟨rfl, rfl⟩, identifier, _, ⟨dice, hdraw, rfl⟩, (), _, rfl, (), _, rfl, rfl, rfl⟩

/-- The name is bound to the identifier, and other names stand for what they stood for. -/
theorem lookup?_of_introduce [WordSource G] {name identifier : String} {candidates : List String}
    {s s' : Session G}
    (h : (introduce name candidates : Compiling Cause G String) s = .ok identifier s')
    (other : String) :
    s'.lookup? other = if name = other then some (.literal identifier) else s.lookup? other := by
  rcases introduce_eq_ok.1 h with ⟨dice, -, rfl⟩
  exact Session.lookup?_bind (Session.claim { s with dice } identifier) name other _

/-- The identifier is claimed, and all that was claimed stays so. -/
theorem isClaimed_of_introduce [WordSource G] {name identifier : String}
    {candidates : List String} {s s' : Session G}
    (h : (introduce name candidates : Compiling Cause G String) s = .ok identifier s')
    (other : String) :
    s'.isClaimed other = (identifier == other || s.isClaimed other) := by
  rcases introduce_eq_ok.1 h with ⟨dice, -, rfl⟩
  exact Session.isClaimed_claim { s with dice } identifier other

theorem fetch_eq_ok {name : String} {value : Token} {s s' : Session G} :
    (fetch name : Compiling Cause G Token) s = .ok value s' ↔
      s.lookup? name = some value ∧ s = s' := by
  simp only [fetch, bind_eq_ok, get_eq_ok]
  constructor
  · rintro ⟨s₁, s₂, ⟨rfl, rfl⟩, h⟩
    -- an unbound name is a fault, so only a bound one is left
    cases hvalue : s.lookup? name with
    | some v =>
        simpa [hvalue] using h
    | none =>
        simp [hvalue] at h
  · rintro ⟨hvalue, rfl⟩
    exact ⟨s, s, ⟨rfl, rfl⟩, by simp [hvalue]⟩

/-- An unbound name cannot be looked up. -/
theorem fetch_of_none {name : String} {s : Session G} (h : s.lookup? name = none) :
    (fetch name : Compiling Cause G Token) s = .error (.failed (.binding (.unbound name))) s := by
  have hget : (get : Compiling Cause G (Session G)) s = .ok s s := rfl
  rw [fetch, bind_of_ok hget, h]
  rfl

/-- A size only looks at the session. -/
theorem slots_eq_ok {text : String} {count : Nat} {s s' : Session G}
    (h : (slots text : Compiling Cause G Nat) s = .ok count s') : s = s' := by
  simp only [slots, bind_eq_ok, ofExcept_eq_ok, get_eq_ok] at h
  -- the limit is read from the session, which stays as it is
  rcases h with ⟨size, s₁, ⟨-, rfl⟩, s₂, s₃, ⟨rfl, rfl⟩, h⟩
  split at h
  · simp at h
  · exact (pure_eq_ok.1 h).2

/-- A number only moves the dice. -/
theorem number_eq_ok [WordSource G] {kind : NumberKind} {lower upper text : String}
    {s s' : Session G}
    (h : (number kind lower upper : Compiling Cause G String) s = .ok text s') :
    ∃ dice, s' = { s with dice } := by
  cases kind with
  | integer =>
      simp only [number, bind_eq_ok, ofExcept_eq_ok] at h
      rcases h with ⟨low, s₁, ⟨-, rfl⟩, high, s₂, ⟨-, rfl⟩, h⟩
      split at h
      · simp at h
      · simp only [bind_eq_ok, roll_eq_ok, pure_eq_ok] at h
        rcases h with ⟨n, s₁, ⟨dice, -, rfl⟩, -, rfl⟩
        exact ⟨dice, rfl⟩
  | real =>
      simp only [number, bind_eq_ok, ofExcept_eq_ok, roll_eq_ok] at h
      rcases h with ⟨low, s₁, ⟨-, rfl⟩, high, s₂, ⟨-, rfl⟩, x, s₃, ⟨dice, -, rfl⟩, h⟩
      split at h
      · simp only [pure_eq_ok] at h
        exact ⟨dice, h.2.symm⟩
      · simp at h

theorem noted_eq_ok {command : Command} {step : Compiling Cause G Replacement} {s s' : Session G}
    {r : Replacement} :
    noted command step s = .ok r s' ↔
      ∃ s₁, step s = .ok r s₁ ∧
        s' = s₁.record (.collapsed command.name r.before.length r.after.length) := by
  simp only [noted, bind_eq_ok, record_eq_ok, pure_eq_ok]
  constructor
  · rintro ⟨r', s₁, hstep, _, s₂, rfl, rfl, rfl⟩
    exact ⟨s₁, hstep, rfl⟩
  · rintro ⟨s₁, hstep, rfl⟩
    exact ⟨r, s₁, hstep, (), _, rfl, rfl, rfl⟩

end Compiling
end TemplateVariants
