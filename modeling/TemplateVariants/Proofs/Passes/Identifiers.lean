import TemplateVariants.Proofs.FreshIdentifiers
import TemplateVariants.Proofs.Passes.Resolution

/-!
# The identifiers of synthetic names

Where the lists of the first pass have different names, the second pass puts one identifier in the
place of each name, wherever the name stands, and different names get different identifiers
(`Document.exists_renaming`). A synthetic name may be one that the template binds itself: what the
template looked up is text by then.
-/

namespace TemplateVariants

open ListForm Randomness

/-- The token with identifiers in the place of synthetic names. -/
def Token.rename (ident : String → String) : Token → Token
  | .literal t => .literal t
  | .command (.var name _) => .literal (ident name)
  | .command (.get name) => .literal (ident name)
  | token => token

/-- The line with identifiers in the place of synthetic names. -/
def PendingLine.rename (ident : String → String) (line : PendingLine) : PendingLine where
  origin := line.origin
  tokens := line.tokens.map (Token.rename ident)

/-- The identifier that a name is bound to. -/
def Session.identifierOf {G : Type} (s : Session G) (name : String) : String :=
  match s.lookup? name with
  | some (.literal identifier) => identifier
  | _ => name

section Passes

variable {G : Type} [WordSource G]

namespace Scoped

variable {names : List String} {tokens : List Token} {s s' : Session G} {row : List Expansion}

/-! ## What scoped tokens leave as it is -/

/-- Names that are not declared stand for what they stood for. -/
theorem lookup?_eq (h : Scoped names tokens) (hrun : Expands tokens s row s') {name : String}
    (hname : name ∉ Line.declared tokens) : s'.lookup? name = s.lookup? name := by
  induction h generalizing s row with
  | nil names =>
      cases hrun
      rfl
  | literal _ ih =>
      cases hrun with
      | literal hrun =>
          exact ih hrun hname
  | @declare _ other _ _ ih =>
      rw [Line.declared_var_cons, List.mem_cons, not_or] at hname
      cases hrun with
      | var hparts _ hintroduce hrun =>
          cases hparts
          calc
            s'.lookup? name = _ := ih hrun hname.2
            _ = if other = name then _ else s.lookup? name :=
              Compiling.lookup?_of_introduce hintroduce name
            _ = s.lookup? name := if_neg (Ne.symm hname.1)
  | lookUp _ _ ih =>
      cases hrun with
      | get _ hrun =>
          have hrest := ih hrun hname
          exact hrest

/-- A name keeps the identifier that it got, if it is not declared again. -/
theorem lookup?_of_introduced (h : Scoped names tokens) {name identifier : String}
    {candidates : List String} {s₁ : Session G} {event : Event}
    (hrun : Expands tokens (s₁.record event) row s')
    (hintroduce : (Compiling.introduce name candidates : Compiling Cause G String) s =
      .ok identifier s₁) (hname : name ∉ Line.declared tokens) :
    s'.lookup? name = some (.literal identifier) := by
  calc
    s'.lookup? name = s₁.lookup? name := h.lookup?_eq hrun hname
    _ = if name = name then some (.literal identifier) else s.lookup? name :=
      Compiling.lookup?_of_introduce hintroduce name
    _ = some (.literal identifier) := if_pos rfl

/-! ## What they turn into -/

/-- If no name is declared twice, each name gives way to the identifier that it has at the end. -/
theorem flatMap_result_eq (h : Scoped names tokens) (hrun : Expands tokens s row s')
    (hs : s.Settled) (hnodup : (Line.declared tokens).Nodup)
    (hnames : ∀ name ∈ names, name ∉ Line.declared tokens) :
    row.flatMap Expansion.result = tokens.map (Token.rename s'.identifierOf) := by
  induction h generalizing s row with
  | nil names =>
      cases hrun
      rfl
  | literal _ ih =>
      cases hrun with
      | literal hrun =>
          rw [List.flatMap_cons, ih hrun hs hnodup hnames, List.map_cons]
          simp [Token.rename]
  | @declare names name tokens hscoped ih =>
      rw [Line.declared_var_cons, List.nodup_cons] at hnodup
      cases hrun with
      | @var _ identifier _ _ _ _ s₁ s₂ _ _ row hparts _ hintroduce hrun =>
          cases hparts
          -- the rest does not declare the name again
          have hgiven : ∀ other ∈ name :: names, other ∉ Line.declared tokens := by
            intro other hother hdeclared
            rcases List.mem_cons.1 hother with rfl | hother
            · exact hnodup.1 hdeclared
            · exact hnames other hother (List.mem_cons_of_mem _ hdeclared)
          have hrest := ih hrun ((hs.introduce hintroduce).record _) hnodup.2 hgiven
          have hlookup := hscoped.lookup?_of_introduced hrun hintroduce hnodup.1
          rw [List.flatMap_cons, hrest, List.map_cons]
          simp [Token.rename, Session.identifierOf, hlookup]
  | @lookUp names name tokens hname hscoped ih =>
      cases hrun with
      | @get _ value _ _ _ row hvalue hrun =>
          have hrest := ih hrun (hs.record _) hnodup hnames
          have hlookup : s'.lookup? name = some value := by
            rw [hscoped.lookup?_eq hrun (hnames name hname)]
            exact hvalue
          rw [List.flatMap_cons, hrest, List.map_cons]
          -- names stand for text in a settled session
          cases value with
          | literal identifier =>
              simp [Token.rename, Session.identifierOf, hlookup]
          | command command =>
              cases hs _ _ hvalue

/-- If no name is declared twice, each gets an identifier that was free before. -/
theorem isClaimed_identifierOf (h : Scoped names tokens) (hrun : Expands tokens s row s')
    (hnodup : (Line.declared tokens).Nodup) :
    (∀ name ∈ Line.declared tokens, s.isClaimed (s'.identifierOf name) = false) ∧
      ((Line.declared tokens).map s'.identifierOf).Nodup := by
  induction h generalizing s row with
  | nil names =>
      simp
  | literal _ ih =>
      cases hrun with
      | literal hrun =>
          exact ih hrun hnodup
  | @declare names name tokens hscoped ih =>
      rw [Line.declared_var_cons, List.nodup_cons] at hnodup
      cases hrun with
      | @var _ identifier _ _ _ _ s₁ s₂ _ _ row hparts _ hintroduce hrun =>
          cases hparts
          rcases ih hrun hnodup.2 with ⟨hfree, hdistinct⟩
          have hlookup := hscoped.lookup?_of_introduced hrun hintroduce hnodup.1
          have hident : s'.identifierOf name = identifier := by
            rw [Session.identifierOf, hlookup]
          -- what is free afterwards is another identifier, and was free before
          have hother :
              ∀ other ∈ Line.declared tokens,
                identifier ≠ s'.identifierOf other ∧
                  s.isClaimed (s'.identifierOf other) = false := by
            intro other hdeclared
            have hclaimed := (Compiling.isClaimed_of_introduce hintroduce
              (s'.identifierOf other)).symm.trans (hfree other hdeclared)
            rw [Bool.or_eq_false_iff] at hclaimed
            exact ⟨by simpa using hclaimed.1, hclaimed.2⟩
          have hfirst : s.isClaimed identifier = false := by
            rcases Compiling.introduce_eq_ok.1 hintroduce with ⟨dice, hdraw, -⟩
            exact Fresh.identifier_free hdraw
          rw [Line.declared_var_cons, List.map_cons, List.nodup_cons, hident]
          refine ⟨List.forall_mem_cons.2 ⟨by rw [hident]; exact hfirst, fun other hdeclared =>
            (hother other hdeclared).2⟩, fun hmem => ?_, hdistinct⟩
          rcases List.mem_map.1 hmem with ⟨other, hdeclared, heq⟩
          exact (hother other hdeclared).1 heq.symm
  | lookUp _ _ ih =>
      cases hrun with
      | get _ hrun =>
          have hrest := ih hrun hnodup
          exact hrest

end Scoped

/-! ## The names declared in the lines of a pass -/

/-- A sound tree declares no name in place. -/
theorem Expansion.Sound.declared_result {expansion : Expansion} (h : expansion.Sound) :
    Line.declared expansion.result = [] := by
  refine List.filterMap_eq_nil_iff.2 fun token htoken => ?_
  cases token with
  | literal t =>
      rfl
  | command command =>
      rcases h.exists_list_of_command _ htoken rfl with ⟨list, -, heq⟩
      rw [heq]
      rfl

/-- The names that the lines of a sound row declare are those of its lists. -/
theorem ExpandedLine.declared_lines {line : ExpandedLine}
    (h : ∀ expansion ∈ line.row, expansion.Sound) :
    Line.declared (line.lines.flatMap PendingLine.tokens) =
      line.lists.map AppendedList.name := by
  -- the line itself and the appends only look up
  have hresult : Line.declared line.result = [] := by
    rw [ExpandedLine.result, Line.declared_flatMap, List.flatMap_eq_nil_iff]
    exact fun expansion hexpansion => (h expansion hexpansion).declared_result
  have hfillings :
      Line.declared (line.lists.flatMap (AppendedList.fillings line.indent)).flatten = [] := by
    rw [← List.flatMap_id', Line.declared_flatMap, List.flatMap_eq_nil_iff]
    intro filling hfilling
    rcases List.mem_flatMap.1 hfilling with ⟨list, hlist, hfilling⟩
    rcases List.mem_map.1 hfilling with ⟨element, helement, rfl⟩
    rcases List.mem_flatMap.1 hlist with ⟨expansion, hexpansion, hown⟩
    have hsound := ((h expansion hexpansion).of_mem_lists list hown element helement).1
    simp [hsound.declared_result]
  rw [ExpandedLine.flatMap_tokens_lines, Line.declared_append, Line.declared_append,
    AppendedList.declared_declarations, hresult, hfillings]
  simp

/-! ## Renamed lines -/

/-- Lines that resolve to lines with renamed tokens are renamed. -/
theorem PendingLine.eq_map_rename {ident : String → String} {lines next : List PendingLine}
    (h : List.Forall₂ PendingLine.Resolves lines next)
    (htokens : next.flatMap PendingLine.tokens =
      (lines.flatMap PendingLine.tokens).map (Token.rename ident)) :
    next = lines.map (PendingLine.rename ident) := by
  induction h with
  | nil =>
      rfl
  | @cons line after lines next hline _ ih =>
      rw [List.flatMap_cons, List.flatMap_cons, List.map_append] at htokens
      -- the first lines have as many tokens, so they can be split off
      have hlength : after.tokens.length = (line.tokens.map (Token.rename ident)).length := by
        rw [List.length_map, hline.tokens.length_eq]
      rcases List.append_inj htokens hlength with ⟨hfirst, hrest⟩
      rw [List.map_cons, ← ih hrest, PendingLine.rename, ← hfirst, ← hline.origin]

/-- Lines without commands have nothing to rename. -/
theorem PendingLine.map_rename_of_commandCount {lines : List PendingLine} (ident : String → String)
    (h : PendingLine.commandCount lines = 0) : lines.map (PendingLine.rename ident) = lines := by
  have htokens :
      (lines.flatMap PendingLine.tokens).map (Token.rename ident) =
        lines.flatMap PendingLine.tokens := by
    refine (List.map_congr_left fun token htoken => ?_).trans (List.map_id _)
    cases token with
    | literal t =>
        rfl
    | command command =>
        exact absurd rfl (List.countP_eq_zero.1 h _ htoken)
  exact (PendingLine.eq_map_rename (PendingLine.resolves_self h) htokens.symm).symm

namespace ExpandsLines

variable {lines : List PendingLine} {s s' : Session G} {expanded : List ExpandedLine}

theorem declared_lines (h : ExpandsLines lines s expanded s') (hs : s.Settled) :
    Line.declared ((expanded.flatMap ExpandedLine.lines).flatMap PendingLine.tokens) =
      (expanded.flatMap ExpandedLine.lists).map AppendedList.name := by
  have hsound := (h.sound_and_settled hs).1
  clear h
  induction expanded with
  | nil =>
      rfl
  | cons line expanded ih =>
      rcases List.forall_mem_cons.1 hsound with ⟨hline, hrest⟩
      rw [List.flatMap_cons, List.flatMap_append, Line.declared_append,
        ExpandedLine.declared_lines hline, ih hrest, List.flatMap_cons, List.map_append]

/-- Around scoped lines nothing comes up, so what the tokens turn into is all that there is. -/
theorem flatMap_tokens_of_scoped (h : ExpandsLines lines s expanded s')
    (hscoped : Scoped [] (lines.flatMap PendingLine.tokens)) :
    (expanded.flatMap ExpandedLine.lines).flatMap PendingLine.tokens =
      (expanded.flatMap ExpandedLine.row).flatMap Expansion.result := by
  have hline : ∀ line ∈ expanded,
      line.lines.flatMap PendingLine.tokens = line.row.flatMap Expansion.result := by
    intro line hline
    rw [ExpandedLine.lines_of_lists_eq_nil (h.lists_of_scoped hscoped line hline),
      List.flatMap_singleton]
    rfl
  calc
    (expanded.flatMap ExpandedLine.lines).flatMap PendingLine.tokens
    _ = expanded.flatMap fun line => line.lines.flatMap PendingLine.tokens := List.flatMap_assoc
    _ = expanded.flatMap fun line => line.row.flatMap Expansion.result := List.flatMap_congr hline
    _ = (expanded.flatMap ExpandedLine.row).flatMap Expansion.result := List.flatMap_assoc.symm

/-- A pass over scoped lines that declare each name once renames them. -/
theorem lines_eq_map_rename (h : ExpandsLines lines s expanded s') (hs : s.Settled)
    (hscoped : Scoped [] (lines.flatMap PendingLine.tokens))
    (hnodup : (Line.declared (lines.flatMap PendingLine.tokens)).Nodup) :
    expanded.flatMap ExpandedLine.lines = lines.map (PendingLine.rename s'.identifierOf) := by
  -- the lines stay the same in number and length, so it is enough to compare all tokens in a row
  refine PendingLine.eq_map_rename (h.resolves hs hscoped) ?_
  rw [h.flatMap_tokens_of_scoped hscoped]
  exact hscoped.flatMap_result_eq h.expands hs hnodup (by simp)

end ExpandsLines

/-! ## Names and identifiers in a compilation -/

/-- Where the lists of the first pass have different names, the lines at the end are those of the
first pass with an identifier of its own for each name. -/
theorem Document.exists_renaming {doc : Document} {options : Options} {dice : Dice G}
    {text : String} {expanded : List ExpandedLine} {s : Session G}
    (h : (doc.compile options dice).outcome = .ok text)
    (hfirst : ExpandsLines (PendingLine.ofDocument doc) (options.session dice) expanded s)
    (hnames : ((expanded.flatMap ExpandedLine.lists).map AppendedList.name).Nodup) :
    ∃ ident passes lines s', settle doc.file options.maxPasses 0 (PendingLine.ofDocument doc)
        (options.session dice) = .ok (passes, lines) s' ∧
      text = PendingLine.text lines ∧
      lines = (expanded.flatMap ExpandedLine.lines).map (PendingLine.rename ident) ∧
      (((expanded.flatMap ExpandedLine.lists).map AppendedList.name).map ident).Nodup := by
  have hsettled := options.settled_session dice
  rcases settle_of_first_pass h hfirst with ⟨passes, lines, s', hresult, htext, hlines⟩
  rcases hlines with ⟨hnone, rfl⟩ | ⟨event, second, s₂, hsecond, rfl⟩
  · -- without a second pass there is no synthetic name left
    refine ⟨id, passes, _, s', hresult, htext, ?_, by rw [List.map_id]; exact hnames⟩
    exact (PendingLine.map_rename_of_commandCount id hnone).symm
  · -- the names of the lists are the names that the second pass declares
    have hs₁ := (hfirst.sound_and_settled hsettled).2.record event
    have hscoped := hfirst.scoped_lines hsettled
    rw [← hfirst.declared_lines hsettled] at hnames ⊢
    exact ⟨s₂.identifierOf, passes, _, s', hresult, htext,
      hsecond.lines_eq_map_rename hs₁ hscoped hnames,
      (hscoped.isClaimed_identifierOf hsecond.expands hnames).2⟩

end Passes

end TemplateVariants
