import TemplateVariants.Proofs.ListProgram.Printing
import TemplateVariants.Randomness.Replay

/-!
# Written lists read back

The program of a line is executed from any store: the declarations make one empty object for each
list, the line itself is text, and the appends fill the objects. Afterwards each expression of the
line reads out as what the template asks for, in whichever way the lists were written at each depth
(`ExpandedLine.reads_back`). That the synthetic names differ is needed, since one name for two lists
would make them one object.
-/

namespace TemplateVariants

open ListForm ListProgram Randomness

/-! ## Single lines -/

namespace ListProgram

/-- A group of blanks in front of a line does not matter. -/
theorem filter_flatten_startGroups (indent : String) (groups : List (List Symbol)) :
    (startGroups indent groups).flatten.filter (fun symbol => !symbol.isBlank) =
      groups.flatten.filter fun symbol => !symbol.isBlank := by
  unfold startGroups
  split
  · rfl
  · rw [List.flatten_cons, List.filter_append]
    rfl

end ListProgram

namespace AppendedList

variable {ident : String → String} {indent : String} {list : AppendedList} {store : Store}

/-- A declaration makes an empty object. -/
theorem execute_declarationGroups :
    store.execute (list.declarationGroups ident indent).flatten =
      some (store.allocate (ident list.name) []) := by
  unfold Store.execute declarationGroups
  rw [filter_flatten_startGroups]
  have hbefore :
      before? [.newline] [.opening, .closing, .newline] = some [.opening, .closing] :=
    before?_append [.opening, .closing] [.newline]
  have hempty : evaluate store.names [.opening, .closing] = some (.list []) := rfl
  simp [Symbol.isBlank, hbefore, hempty]

/-- An append gives the object one more item. -/
theorem execute_fillingGroups {element : Expansion} {address : Nat} {item : Item}
    (hname : store.names (ident list.name) = some address)
    (helement : Spells store.names (element.groups ident).flatten item) :
    store.execute (list.fillingGroups ident indent element).flatten =
      some (store.push address item) := by
  have hfilter :
      (list.fillingGroups ident indent element).flatten.filter (fun symbol => !symbol.isBlank) =
        .reference (ident list.name) :: .append ::
          ((element.groups ident).flatten.filter (fun symbol => !symbol.isBlank) ++
            [.done, .newline]) := by
    rw [fillingGroups, filter_flatten_startGroups]
    simp [Symbol.isBlank]
  unfold Store.execute
  rw [hfilter]
  simp only [hname, before?_append, helement.filter.evaluate_eq, Option.bind_eq_bind,
    Option.bind_some]

end AppendedList

/-! ## All declarations -/

namespace AppendedList

variable {ident : String → String}

/-- Declarations of different names make an empty object for each, one after the other. -/
theorem executeAll_declarationGroups (indent : String) {lists : List AppendedList}
    (hnodup : (lists.map fun list => ident list.name).Nodup) (store : Store) :
    ∃ declared,
      store.executeAll (lists.map fun list => (list.declarationGroups ident indent).flatten) =
        some declared ∧
      (∀ other, other ∉ lists.map (fun list => ident list.name) →
        declared.names other = store.names other) ∧
      lists.map (fun list => declared.names (ident list.name)) =
        (List.range' store.objects.length lists.length).map some ∧
      declared.objects = store.objects ++ List.replicate lists.length [] := by
  induction lists generalizing store with
  | nil =>
      exact ⟨store, rfl, fun _ _ => rfl, rfl, by simp⟩
  | cons list lists ih =>
      rw [List.map_cons, List.nodup_cons] at hnodup
      rcases ih hnodup.2 (store.allocate (ident list.name) []) with
        ⟨declared, hrest, hother, haddresses, hobjects⟩
      have hlength :
          (store.allocate (ident list.name) []).objects.length = store.objects.length + 1 := by
        simp [Store.allocate]
      -- the name of the first list is not given away again, so it keeps the first new address
      refine ⟨declared, ?_, fun other hmem => ?_, ?_, ?_⟩
      · rw [List.map_cons, Store.executeAll_cons, execute_declarationGroups]
        exact hrest
      · rw [List.map_cons, List.mem_cons, not_or] at hmem
        rw [hother other hmem.2]
        exact if_neg hmem.1
      · rw [List.map_cons, haddresses, hother _ hnodup.1, hlength, List.length_cons,
          List.range'_succ, List.map_cons]
        simp [Store.allocate]
      · rw [hobjects, List.length_cons, List.replicate_succ]
        simp [Store.allocate]

/-! ## All appends -/

variable {address : String → Nat} {names : String → Option Nat}

/-- The appends to one list fill its object, and no other. -/
theorem executeAll_elements (indent : String) {list : AppendedList} {elements : List Expansion}
    (hname : names (ident list.name) = some (address list.name))
    (helements : ∀ element ∈ elements,
      Spells names (element.groups ident).flatten (element.item address))
    (objects : List (List Item)) :
    ∃ filled,
      (Store.mk names objects).executeAll
          (elements.map fun element => (list.fillingGroups ident indent element).flatten) =
        some ⟨names, filled⟩ ∧
      filled[address list.name]? =
        objects[address list.name]?.map (· ++ elements.map (Expansion.item address)) ∧
      ∀ k, k ≠ address list.name → filled[k]? = objects[k]? := by
  induction elements generalizing objects with
  | nil =>
      exact ⟨objects, rfl, by simp, fun _ _ => rfl⟩
  | cons element elements ih =>
      rcases List.forall_mem_cons.1 helements with ⟨helement, hrest⟩
      rcases ih hrest (objects.modify (address list.name) (· ++ [element.item address])) with
        ⟨filled, hrun, hown, hother⟩
      refine ⟨filled, ?_, ?_, fun k hk => ?_⟩
      · have hfirst :
            (Store.mk names objects).execute (list.fillingGroups ident indent element).flatten =
              some ((Store.mk names objects).push (address list.name) (element.item address)) :=
          execute_fillingGroups hname helement
        rw [List.map_cons, Store.executeAll_cons, hfirst]
        exact hrun
      · rw [hown, List.getElem?_modify_eq]
        cases objects[address list.name]? with
        | none =>
            rfl
        | some items =>
            simp
      · rw [hother k hk, List.getElem?_modify_ne _ _ (Ne.symm hk)]

/-- The appends to lists with objects of their own fill each object with its elements. -/
theorem executeAll_fillingGroups (indent : String) {lists : List AppendedList}
    (hnames : ∀ list ∈ lists, names (ident list.name) = some (address list.name))
    (helements : ∀ list ∈ lists, ∀ element ∈ list.elements,
      Spells names (element.groups ident).flatten (element.item address))
    (hnodup : (lists.map fun list => address list.name).Nodup)
    (objects : List (List Item))
    (hempty : ∀ list ∈ lists, objects[address list.name]? = some []) :
    ∃ filled,
      (Store.mk names objects).executeAll
          (lists.flatMap fun list => list.elements.map fun element =>
            (list.fillingGroups ident indent element).flatten) = some ⟨names, filled⟩ ∧
      (∀ list ∈ lists,
        filled[address list.name]? = some (list.elements.map (Expansion.item address))) ∧
      ∀ k, k ∉ lists.map (fun list => address list.name) → filled[k]? = objects[k]? := by
  induction lists generalizing objects with
  | nil =>
      exact ⟨objects, rfl, by simp, fun _ _ => rfl⟩
  | cons list lists ih =>
      rw [List.map_cons, List.nodup_cons] at hnodup
      rcases List.forall_mem_cons.1 hnames with ⟨hname, hrestNames⟩
      rcases List.forall_mem_cons.1 helements with ⟨hown, hrestElements⟩
      rcases List.forall_mem_cons.1 hempty with ⟨hnone, hrestEmpty⟩
      rcases executeAll_elements indent hname hown objects with
        ⟨first, hfirst, hfirstOwn, hfirstOther⟩
      -- the objects of the other lists are still empty
      have hstill : ∀ other ∈ lists, first[address other.name]? = some [] := by
        intro other hother
        rw [hfirstOther, hrestEmpty other hother]
        intro heq
        exact hnodup.1 (List.mem_map.2 ⟨other, hother, heq⟩)
      rcases ih hrestNames hrestElements hnodup.2 first hstill with
        ⟨filled, hrun, hfilled, hother⟩
      refine ⟨filled, ?_, List.forall_mem_cons.2 ⟨?_, hfilled⟩, fun k hk => ?_⟩
      · rw [List.flatMap_cons, Store.executeAll_append, hfirst]
        exact hrun
      · rw [hother _ hnodup.1, hfirstOwn, hnone]
        simp
      · rw [List.map_cons, List.mem_cons, not_or] at hk
        rw [hother k hk.2, hfirstOther k hk.1]

end AppendedList

/-! ## The program of a line -/

namespace ExpandedLine

/-- Executed from any store, the program of a line reads back: before the appends each expression of
the line gives an item, and after them the item reads out as what the template asks for. -/
theorem reads_back {line : ExpandedLine} {ident : String → String}
    (hsound : ∀ expansion ∈ line.row, expansion.Sound)
    (hnodup : (line.lists.map fun list => ident list.name).Nodup) (store : Store) :
    ∃ declared final,
      store.executeAll ((line.declarations ident).map List.flatten) = some declared ∧
      declared.executeAll ((line.groups ident :: line.fillings ident).map List.flatten) =
        some final ∧
      ∀ expansion ∈ line.row, ∃ item,
        evaluate declared.names (expansion.groups ident).flatten = some item ∧
        ∀ value, ReadsOut final.objects [item] [value] ↔ value = expansion.value := by
  rcases AppendedList.executeAll_declarationGroups line.indent hnodup store with
    ⟨declared, hdeclared, -, haddresses, hobjects⟩
  let address : String → Nat := fun name => (declared.names (ident name)).getD 0
  -- every list has an object of its own, and the object is empty
  have hnames : ∀ list ∈ line.lists,
      declared.names (ident list.name) = some (address list.name) ∧
        address list.name ∈ List.range' store.objects.length line.lists.length := by
    intro list hlist
    have hmem : declared.names (ident list.name) ∈
        (List.range' store.objects.length line.lists.length).map some := by
      rw [← haddresses]
      exact List.mem_map.2 ⟨list, hlist, rfl⟩
    rcases List.mem_map.1 hmem with ⟨k, hk, heq⟩
    have haddress : address list.name = k := by
      simp only [address, ← heq, Option.getD_some]
    rw [← heq, haddress]
    exact ⟨rfl, hk⟩
  have hdistinct : (line.lists.map fun list => address list.name).Nodup := by
    have heq := congrArg (List.map fun k : Option Nat => k.getD 0) haddresses
    rw [List.map_map, List.map_map] at heq
    have hrange :
        line.lists.map (fun list => address list.name) =
          List.range' store.objects.length line.lists.length := by
      simpa [Function.comp_def] using heq
    rw [hrange]
    exact List.nodup_range'
  have hempty : ∀ list ∈ line.lists, declared.objects[address list.name]? = some [] := by
    intro list hlist
    have hrange := List.mem_range'_1.1 (hnames list hlist).2
    rw [hobjects, List.getElem?_append_right hrange.1, List.getElem?_replicate, if_pos]
    omega
  -- what stands in a list only refers to lists of the same line
  have hspells : ∀ expansion : Expansion, expansion.Sound → expansion.lists ⊆ line.lists →
      Spells declared.names (expansion.groups ident).flatten (expansion.item address) := by
    intro expansion hexpansion hsub
    exact hexpansion.spells fun list hlist => (hnames list (hsub hlist)).1
  have hsub : ∀ expansion ∈ line.row, expansion.lists ⊆ line.lists := by
    intro expansion hexpansion list hlist
    exact List.mem_flatMap.2 ⟨expansion, hexpansion, hlist⟩
  have helements : ∀ list ∈ line.lists, ∀ element ∈ list.elements,
      Spells declared.names (element.groups ident).flatten (element.item address) := by
    intro list hlist element helement
    rcases List.mem_flatMap.1 hlist with ⟨expansion, hexpansion, hown⟩
    rcases (hsound expansion hexpansion).of_mem_lists list hown element helement with
      ⟨helementSound, helementSub⟩
    exact hspells element helementSound fun other hother =>
      hsub expansion hexpansion (helementSub hother)
  rcases AppendedList.executeAll_fillingGroups line.indent
    (fun list hlist => (hnames list hlist).1) helements hdistinct declared.objects hempty with
    ⟨filled, hfilled, hitems, -⟩
  refine ⟨declared, ⟨declared.names, filled⟩, ?_, ?_, fun expansion hexpansion => ?_⟩
  · rw [declarations, List.map_map]
    exact hdeclared
  · -- the line itself changes nothing in the store
    have hline : declared.execute (line.groups ident).flatten = some declared := by
      refine Store.execute_of_inExpression fun symbol hsymbol => ?_
      rcases List.mem_flatten.1 hsymbol with ⟨group, hgroup, hsymbol⟩
      rcases List.mem_flatMap.1 hgroup with ⟨expansion, -, hgroup⟩
      exact Expansion.inExpression_of_mem_groups ident expansion symbol
        (List.mem_flatten.2 ⟨group, hgroup, hsymbol⟩)
    rw [List.map_cons, Store.executeAll_cons, hline, Option.bind_some, fillings,
      List.map_flatMap]
    simpa only [List.map_map, Function.comp_def] using hfilled
  · have hreads := (hsound expansion hexpansion).readsOut fun list hlist =>
      hitems list (hsub expansion hexpansion hlist)
    refine ⟨expansion.item address,
      (hspells expansion (hsound expansion hexpansion) (hsub expansion hexpansion)).evaluate_eq,
      fun value => ⟨fun hvalue => ?_, fun hvalue => ?_⟩⟩
    · exact List.head_eq_of_cons_eq (hvalue.unique hreads)
    · rw [hvalue]
      exact hreads

end ExpandedLine

/-! ## Compilations -/

theorem PendingLine.origin_ofDocument_nodup (doc : Document) :
    ((PendingLine.ofDocument doc).map PendingLine.origin).Nodup := by
  rw [PendingLine.map_origin_ofDocument]
  exact List.nodup_range'

/-- Where rows have different marks and each hands its mark on, the entries with the mark of a row
are those that the row gave. -/
theorem filter_flatMap_of_nodup {α β : Type} {rows : List α} {f : α → List β} {mark : α → Nat}
    {markOf : β → Nat} (hmark : ∀ row ∈ rows, ∀ b ∈ f row, markOf b = mark row)
    (hnodup : (rows.map mark).Nodup) {row : α} (hrow : row ∈ rows) :
    (rows.flatMap f).filter (fun b => markOf b = mark row) = f row := by
  rcases List.append_of_mem hrow with ⟨before, after, rfl⟩
  rw [List.map_append, List.map_cons, List.nodup_middle, List.nodup_cons, ← List.map_append]
    at hnodup
  -- what the other rows give has another mark
  have hnone : ∀ other ∈ before ++ after,
      (f other).filter (fun b => markOf b = mark row) = [] := by
    intro other hother
    have hne : mark other ≠ mark row := by
      intro heq
      exact hnodup.1 (List.mem_map.2 ⟨other, hother, heq⟩)
    refine List.filter_eq_nil_iff.2 fun b hb => ?_
    have hmem : other ∈ before ++ row :: after := by
      rcases List.mem_append.1 hother with hother | hother
      · exact List.mem_append_left _ hother
      · exact List.mem_append_right _ (List.mem_cons_of_mem _ hother)
    simpa [hmark other hmem b hb] using hne
  rcases List.forall_mem_append.1 hnone with ⟨hbefore, hafter⟩
  have hown : (f row).filter (fun b => markOf b = mark row) = f row :=
    List.filter_eq_self.2 fun b hb => by simpa using hmark row hrow b hb
  rw [List.flatMap_append, List.flatMap_cons, List.filter_append, List.filter_append, hown,
    List.filter_flatMap, List.filter_flatMap, List.flatMap_eq_nil_iff.2 hbefore,
    List.flatMap_eq_nil_iff.2 hafter]
  simp

section Compilations

variable {G : Type} [WordSource G]

/-- All renderings of a collection mean the same list. Where the first pass of a compilation has
drawn different names for its lists, the final lines that come from a line of the template spell a
program; executed from any store, this program gives each expression in the place of a token an item
that reads out, after the last append, as exactly the nested list that the token asks for. -/
theorem Document.lists_read_back {doc : Document} {options : Options} {dice : Dice G}
    {text : String} {expanded : List ExpandedLine} {s : Session G}
    (h : (doc.compile options dice).outcome = .ok text)
    (hfirst : ExpandsLines (PendingLine.ofDocument doc) (options.session dice) expanded s)
    (hnames : ((expanded.flatMap ExpandedLine.lists).map AppendedList.name).Nodup) :
    ∃ ident passes lines s',
      settle doc.file options.maxPasses 0 (PendingLine.ofDocument doc) (options.session dice) =
        .ok (passes, lines) s' ∧
      text = PendingLine.text lines ∧
      ∀ line ∈ expanded,
        List.Forall₂ Expansion.IsOf line.source.tokens line.row ∧
        lines.filter (fun final => final.origin = line.source.origin) =
          (line.program ident).map (fun groups => ⟨line.source.origin, groups.map spell⟩) ∧
        ∀ store : Store, ∃ declared final,
          store.executeAll ((line.declarations ident).map List.flatten) = some declared ∧
          declared.executeAll ((line.groups ident :: line.fillings ident).map List.flatten) =
            some final ∧
          ∀ expansion ∈ line.row, ∃ item,
            evaluate declared.names (expansion.groups ident).flatten = some item ∧
            ∀ value, ReadsOut final.objects [item] [value] ↔ value = expansion.value := by
  rcases exists_renaming h hfirst hnames with
    ⟨ident, passes, lines, s', hresult, htext, hlines, hidents⟩
  have hsound := (hfirst.sound_and_settled (options.settled_session dice)).1
  refine ⟨ident, passes, lines, s', hresult, htext, fun line hline =>
    ⟨hfirst.isOf line hline, ?_, fun store => ?_⟩⟩
  · -- lines of the template have different origins, so the descendants of one can be told apart
    have hprogram :
        lines = expanded.flatMap fun line =>
          (line.program ident).map fun groups => ⟨line.source.origin, groups.map spell⟩ := by
      rw [hlines, List.map_flatMap]
      exact List.flatMap_congr fun other hother =>
        ExpandedLine.lines_rename (hsound other hother) ident
    have hmark :
        ∀ other ∈ expanded,
          ∀ final ∈ (other.program ident).map
            (fun groups => PendingLine.mk other.source.origin (groups.map spell)),
            final.origin = other.source.origin := by
      intro other _ final hfinal
      rcases List.mem_map.1 hfinal with ⟨groups, -, rfl⟩
      rfl
    have horigins : (expanded.map fun line => line.source.origin).Nodup := by
      have hsources := congrArg (List.map PendingLine.origin) hfirst.map_source
      rw [List.map_map] at hsources
      have hnodup := PendingLine.origin_ofDocument_nodup doc
      rw [← hsources] at hnodup
      exact hnodup
    rw [hprogram]
    exact filter_flatMap_of_nodup hmark horigins hline
  · refine ExpandedLine.reads_back (hsound line hline) ?_ store
    -- different names got different identifiers
    have hsublist : line.lists.Sublist (expanded.flatMap ExpandedLine.lists) := by
      rw [List.flatMap_def]
      exact List.sublist_flatten_of_mem (List.mem_map_of_mem hline)
    have hown := hidents.sublist ((hsublist.map AppendedList.name).map ident)
    rw [List.map_map] at hown
    exact hown

end Compilations

/-! ### A list in a list -/

namespace Document

def nested : Document where
  file := "nested"
  lines := [[.command (.collection [.literal "1", .command (.collection [.literal "2"])]),
    .literal "\n"]]

/-- Words that are all zero. -/
def zeros (n : Nat) : Dice Replay where
  source := { prepared := List.replicate n 0 }
  patience := 1

/-- The inner list is a literal, and the outer one is filled by appends. -/
def nestedDice : Dice Replay where
  source := { prepared := 0xffffffffffffffff :: List.replicate 23 0 }
  patience := 1

def nestedName : String := "aaaaaaaaaaaaaaaaaaaa"

/-- The trees of the line. -/
def nestedRow : List Expansion :=
  [.collection [.text "1", .collection [.text "2"] (.literal " " [])] (.appended nestedName),
    .text "\n"]

theorem drawWriting_nestedDice : drawWriting 1 nestedDice = .ok (.literal " " []) (zeros 22) := rfl

/-- Of zeros a name is made that repeats the first letter. -/
theorem drawWriting_zeros (count k : Nat) :
    drawWriting count (zeros (k + 21)) = .ok (.appended nestedName) (zeros k) := by
  let letter : Draw Replay Char := do return (← Draw.choose alphabet).getD '_'
  have hletter : ∀ n, letter (zeros (n + 1)) = .ok 'a' (zeros n) := fun n => rfl
  have hname : drawName (zeros (k + 20)) = .ok nestedName (zeros k) := by
    refine Compiling.bind_eq_ok.2 ⟨List.replicate 20 'a', zeros k, ?_, ?_⟩
    · exact mapM_replicate_of_forall hletter 20 k
    · exact Compiling.pure_eq_ok.2 ⟨by decide, rfl⟩
  refine Compiling.bind_eq_ok.2 ⟨true, zeros (k + 20), rfl, ?_⟩
  exact Compiling.bind_eq_ok.2 ⟨nestedName, zeros k, hname, rfl⟩

theorem nested_expands {s : Session Replay} (hdice : s.dice = nestedDice) :
    ∃ s', Expands nested.lines.flatten s nestedRow s' ∧ s'.dice = zeros 1 ∧
      s'.identifiers = s.identifiers := by
  have hinner :
      (Compiling.roll (drawWriting 1) : Compiling Cause Replay Writing) s =
        .ok (.literal " " []) { s with dice := zeros 22 } :=
    Compiling.roll_eq_ok.2 ⟨_, by rw [hdice]; exact drawWriting_nestedDice, rfl⟩
  let note := Expansion.note (.collection [.literal "2"])
    (.collection [.text "2"] (.literal " " []))
  let s₁ : Session Replay := Session.record { s with dice := zeros 22 } note
  have houter :
      (Compiling.roll (drawWriting 2) : Compiling Cause Replay Writing) s₁ =
        .ok (.appended nestedName) { s₁ with dice := zeros 1 } :=
    Compiling.roll_eq_ok.2 ⟨_, drawWriting_zeros 2 1, rfl⟩
  exact ⟨_, .collection (.literal (.collection (.literal (.nil _)) hinner (.nil _))) houter
    (.literal (.nil _)), rfl, rfl⟩

/-- The lines of the first pass. -/
def nestedLine : ExpandedLine where
  source := ⟨1, nested.lines.flatten⟩
  row := nestedRow

/-- The second pass takes the name itself as the identifier. -/
theorem nested_settles {s : Session Replay} (hdice : s.dice = zeros 1)
    (hfree : ∀ identifier, s.isClaimed identifier = false) :
    ∃ second s', ExpandsLines nestedLine.lines s second s' ∧
      second.flatMap ExpandedLine.lines =
        nestedLine.lines.map (PendingLine.rename id) := by
  have hdraw : Fresh.drawName nestedName [] s.dice = .ok nestedName (zeros 0) := by
    rw [hdice]
    rfl
  rcases Compiling.exists_introduce hdraw (hfree nestedName) with ⟨s₁, hintroduce, -⟩
  have hlookup : s₁.lookup? nestedName = some (.literal nestedName) :=
    (Compiling.lookup?_of_introduce hintroduce nestedName).trans (if_pos rfl)
  have hnone : Expansion.HaveTexts [] [] := rfl
  refine ⟨_, _, .cons (.var (.nil _) hnone hintroduce (.literal (.nil _)))
    (.cons (.get hlookup (.literal (.nil _)))
      (.cons (.get hlookup (.literal (.literal (.literal (.nil _)))))
        (.cons (.get hlookup (.literal (.literal (.literal (.literal (.literal (.nil _)))))))
          (.nil _)))), ?_⟩
  rfl

theorem nested_compiles :
    (nested.compile {} nestedDice).outcome =
        .ok (nestedName ++ " = []\n" ++ nestedName ++ "\n" ++ nestedName ++ ".append(1)\n" ++
          nestedName ++ ".append([2])\n") ∧
      ∃ s, ExpandsLines (PendingLine.ofDocument nested) (({} : Options).session nestedDice)
        [nestedLine] s := by
  rcases nested_expands (s := ({} : Options).session nestedDice) rfl with
    ⟨s, hrow, hdice, hidentifiers⟩
  have hfirst :
      ExpandsLines (PendingLine.ofDocument nested) (({} : Options).session nestedDice)
        [nestedLine] s := .cons hrow (.nil _)
  refine ⟨?_, s, hfirst⟩
  have hfree : ∀ identifier, s.isClaimed identifier = false := by
    intro identifier
    simp [Session.isClaimed, hidentifiers, Options.session]
  rcases nested_settles (s := s.record (.expanded nested.file 1 1 4)) hdice hfree with
    ⟨second, s', hsecond, hlines⟩
  have hdone : PendingLine.commandCount (second.flatMap ExpandedLine.lines) = 0 := by
    rw [hlines]
    decide
  rw [outcome_of_two_passes (by decide) (by decide) hfirst (by decide) hsecond hdone, hlines]
  decide

theorem nested_reads_back :
    ∃ ident, ∀ store : Store, ∃ declared final,
      store.executeAll ((nestedLine.declarations ident).map List.flatten) = some declared ∧
      declared.executeAll
        ((nestedLine.groups ident :: nestedLine.fillings ident).map List.flatten) = some final ∧
      ∃ item, ∀ value, ReadsOut final.objects [item] [value] ↔
        value = .list [.atom "1", .list [.atom "2"]] := by
  rcases nested_compiles with ⟨hcompiles, s, hfirst⟩
  rcases lists_read_back hcompiles hfirst (by decide) with ⟨ident, _, _, _, -, -, hlines⟩
  refine ⟨ident, fun store => ?_⟩
  rcases (hlines nestedLine List.mem_cons_self).2.2 store with
    ⟨declared, final, hdeclared, hfinal, hreads⟩
  rcases hreads _ List.mem_cons_self with ⟨item, -, hvalue⟩
  exact ⟨declared, final, hdeclared, hfinal, item, hvalue⟩

end Document

end TemplateVariants
