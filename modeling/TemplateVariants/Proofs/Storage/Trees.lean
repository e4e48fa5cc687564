import TemplateVariants.Proofs.Storage.Paths
import TemplateVariants.Proofs.Utf8
import TemplateVariants.Storage.FileTree

/-!
# Finding and reading in trees

What a path leads to, and what is read there. A place that has been found is found again as long as
no directory goes away (`FileTree.KeepsDirectories`), and a file in a directory is found where the
directory is found, one step on (`FileTree.locate_join_eq_ok`). In a tree as they are, where each
node stands in a directory under a name, the path of a file ends in that name
(`FileTree.WellFormed.fileName?_of_locate`).
-/

namespace TemplateVariants

namespace FileTree

variable {tree made tree' : FileTree} {place next : List String} {path : String}

/-! ## Directories -/

/-- The directories of the tree are still there. -/
structure KeepsDirectories (tree tree' : FileTree) : Prop where
  home : tree'.home = tree.home
  directory : ∀ place, tree.node? place = some .directory → tree'.node? place = some .directory

/-- There are more directories, and nothing else has changed. -/
structure Widens (tree tree' : FileTree) : Prop where
  home : tree'.home = tree.home
  node : ∀ place, tree'.node? place = tree.node? place ∨
    (tree.node? place = none ∧ tree'.node? place = some .directory)

namespace Widens

theorem refl (tree : FileTree) : tree.Widens tree :=
  ⟨rfl, fun _ => .inl rfl⟩

theorem trans (h : tree.Widens made) (hmore : made.Widens tree') : tree.Widens tree' where
  home := hmore.home.trans h.home
  node := by
    intro place
    rcases hmore.node place with hsame | ⟨hnone, hnew⟩
    · rw [hsame]
      exact h.node place
    · rcases h.node place with hsame | ⟨-, hdirectory⟩
      · exact .inr ⟨hsame.symm.trans hnone, hnew⟩
      · rw [hnone] at hdirectory
        cases hdirectory

theorem keeps (h : tree.Widens tree') : tree.KeepsDirectories tree' where
  home := h.home
  directory := by
    intro place hplace
    rcases h.node place with hsame | ⟨hnone, -⟩
    · rw [hsame, hplace]
    · rw [hnone] at hplace
      cases hplace

/-- A new directory where there is nothing. -/
theorem put (h : tree.node? place = none) : tree.Widens (tree.put place .directory) where
  home := rfl
  node := by
    intro other
    have hne : place ≠ [] := by
      rintro rfl
      simp [node?] at h
    rw [node?_put _ _ _ _ hne]
    by_cases hother : other = place
    · rw [if_pos hother, hother]
      exact .inr ⟨h, rfl⟩
    · exact .inl (if_neg hother)

end Widens

/-! ## Following paths -/

/-- What one step of a path reaches. All steps but the one to the root start in a directory. -/
theorem follow_eq_ok {step : Path.Component} :
    tree.follow place step = .ok next ↔
      (step = .root ∧ next = []) ∨
      (tree.node? place = some .directory ∧
        ((step = .current ∧ next = place) ∨ (step = .parent ∧ next = place.dropLast) ∨
          ∃ name, step = .name name ∧ name.utf8ByteSize ≤ maxNameSize ∧
            next = place ++ [name])) := by
  unfold follow
  cases step with
  | root =>
      simp [eq_comm]
  | name text =>
      dsimp only
      cases tree.node? place with
      | none =>
          simp
      | some node =>
          cases node with
          | file bytes =>
              simp
          | directory =>
              by_cases hsize : text.utf8ByteSize ≤ maxNameSize
              · simp [hsize, eq_comm]
              · simp [hsize]
  | _ =>
      dsimp only
      cases tree.node? place with
      | none =>
          simp
      | some node =>
          cases node with
          | file bytes =>
              simp
          | directory =>
              simp [eq_comm]

theorem follow_name_eq_ok {name : String} :
    tree.follow place (.name name) = .ok next ↔
      tree.node? place = some .directory ∧ name.utf8ByteSize ≤ maxNameSize ∧
        next = place ++ [name] := by
  rw [follow_eq_ok]
  simp

namespace KeepsDirectories

/-- What can be reached is reached again. -/
theorem follow (h : tree.KeepsDirectories tree') {step : Path.Component}
    (hfollow : tree.follow place step = .ok next) : tree'.follow place step = .ok next := by
  rw [follow_eq_ok] at hfollow ⊢
  rcases hfollow with hroot | ⟨hnode, hstep⟩
  · exact .inl hroot
  · exact .inr ⟨h.directory place hnode, hstep⟩

theorem foldlM (h : tree.KeepsDirectories tree') {steps : List Path.Component}
    (hsteps : steps.foldlM tree.follow place = .ok next) :
    steps.foldlM tree'.follow place = .ok next := by
  induction steps generalizing place with
  | nil =>
      exact hsteps
  | cons step steps ih =>
      rw [List.foldlM_cons] at hsteps ⊢
      cases hfirst : tree.follow place step with
      | error fault =>
          rw [hfirst] at hsteps
          cases hsteps
      | ok first =>
          rw [hfirst] at hsteps
          rw [h.follow hfirst]
          exact ih hsteps

theorem walk (h : tree.KeepsDirectories tree') {steps : List Path.Component}
    (hwalk : tree.walk steps = .ok place) : tree'.walk steps = .ok place := by
  unfold FileTree.walk at hwalk ⊢
  split at hwalk
  · cases hwalk
  · rename_i hne
    rw [if_neg hne, h.home]
    exact h.foldlM hwalk

end KeepsDirectories

theorem locate_eq_ok :
    tree.locate path = .ok place ↔
      screen path = .ok () ∧ tree.walk (stepsOf path) = .ok place := by
  unfold locate
  cases screen path with
  | error fault =>
      simp [bind, Except.bind]
  | ok u =>
      simp [bind, Except.bind]

theorem KeepsDirectories.locate (h : tree.KeepsDirectories tree')
    (hlocate : tree.locate path = .ok place) : tree'.locate path = .ok place := by
  rw [locate_eq_ok] at hlocate ⊢
  exact ⟨hlocate.1, h.walk hlocate.2⟩

/-- Following steps and then one more. -/
theorem walk_snoc (tree : FileTree) (steps : List Path.Component) (last : Path.Component) :
    tree.walk (steps ++ [last]) =
      steps.foldlM tree.follow tree.home >>= fun place => tree.follow place last := by
  rw [walk, if_neg (by simp)]
  simp only [List.foldlM_append, List.foldlM_cons, List.foldlM_nil, bind_pure]

theorem walk_snoc_eq_ok {steps : List Path.Component} {last : Path.Component} :
    tree.walk (steps ++ [last]) = .ok next ↔
      ∃ place, steps.foldlM tree.follow tree.home = .ok place ∧
        tree.follow place last = .ok next := by
  rw [walk_snoc]
  cases steps.foldlM tree.follow tree.home with
  | error fault =>
      simp [bind, Except.bind]
  | ok place =>
      simp [bind, Except.bind]

theorem screen_eq_ok :
    screen path = .ok () ↔ '\x00' ∉ path.toList ∧ path.utf8ByteSize ≤ maxPathSize := by
  unfold screen
  by_cases hnul : path.toList.contains '\x00' = true
  · rw [if_pos hnul]
    simp only [List.contains_iff_mem] at hnul
    simp [hnul]
  · rw [if_neg hnul]
    simp only [List.contains_iff_mem] at hnul
    by_cases hsize : maxPathSize < path.utf8ByteSize
    · simp [hsize, Nat.not_le.2 hsize]
    · simp [hsize, hnul, Nat.not_lt.1 hsize]

/-- The file system takes the path: it holds no NUL, and neither the path nor a name in it is too
long. -/
structure Fits (path : String) : Prop where
  screened : screen path = .ok ()
  names : ∀ name, .name name ∈ Path.steps path → name.utf8ByteSize ≤ maxNameSize

theorem fits_iff :
    Fits path ↔
      ('\x00' ∉ path.toList ∧ path.utf8ByteSize ≤ maxPathSize) ∧
        ((Path.steps path).all fun step =>
          match step with
          | .name text => decide (text.utf8ByteSize ≤ maxNameSize)
          | _ => true) = true := by
  rw [List.all_eq_true]
  constructor
  · intro h
    refine ⟨screen_eq_ok.1 h.screened, fun step hstep => ?_⟩
    cases step with
    | name text =>
        exact decide_eq_true (h.names text hstep)
    | _ =>
        rfl
  · rintro ⟨hscreen, hall⟩
    exact ⟨screen_eq_ok.2 hscreen, fun name hname => of_decide_eq_true (hall _ hname)⟩

instance (path : String) : Decidable (Fits path) :=
  decidable_of_iff _ fits_iff.symm

/-- Only a path that the file system takes leads somewhere. -/
theorem fits_of_locate (h : tree.locate path = .ok place) : Fits path := by
  have hnames :
      ∀ {steps : List Path.Component} {place next : List String},
        steps.foldlM tree.follow place = .ok next →
        ∀ name, .name name ∈ steps → name.utf8ByteSize ≤ maxNameSize := by
    intro steps
    induction steps with
    | nil =>
        intro place next _ name hname
        cases hname
    | cons step steps ih =>
        intro place next hsteps name hname
        rw [List.foldlM_cons] at hsteps
        cases hfirst : tree.follow place step with
        | error fault =>
            rw [hfirst] at hsteps
            cases hsteps
        | ok first =>
            rw [hfirst] at hsteps
            rcases List.mem_cons.1 hname with rfl | hname
            · exact (follow_name_eq_ok.1 hfirst).2.1
            · exact ih hsteps name hname
  rcases locate_eq_ok.1 h with ⟨hscreen, hwalk⟩
  refine ⟨hscreen, fun name hname => ?_⟩
  have hmem : .name name ∈ stepsOf path := by
    unfold stepsOf
    split
    · exact List.mem_append_left _ hname
    · exact hname
  unfold walk at hwalk
  split at hwalk
  · cases hwalk
  · exact hnames hwalk name hmem

/-! ## Reading -/

/-- A text is read where the path leads to a file that holds it. -/
theorem readText_eq_ok {text : String} :
    tree.readText path = .ok text ↔
      ∃ place bytes, tree.locate path = .ok place ∧ tree.node? place = some (.file bytes) ∧
        Text.decode? bytes = some text := by
  unfold readText readBytes find
  cases tree.locate path with
  | error fault =>
      simp [bind, Except.bind]
  | ok place =>
      simp only [bind, Except.bind, Except.ok.injEq, exists_and_left, exists_eq_left']
      cases tree.node? place with
      | none =>
          simp
      | some node =>
          cases node with
          | directory =>
              simp [pure, Except.pure]
          | file bytes =>
              cases hdecode : Text.decode? bytes with
              | none =>
                  simp [pure, Except.pure, hdecode]
              | some decoded =>
                  simp [pure, Except.pure, hdecode]

/-- What is read as a text are the bytes of the text. -/
theorem readBytes_of_readText {text : String} (h : tree.readText path = .ok text) :
    tree.readBytes path = .ok text.toUTF8 := by
  rcases readText_eq_ok.1 h with ⟨place, bytes, hlocate, hnode, hdecode⟩
  rw [← Text.eq_toUTF8_of_decode? hdecode, readBytes, find, hlocate]
  simp only [bind, Except.bind, hnode]
  rfl

/-- What is read at a path depends only on the node to which it leads. -/
theorem readText_congr (hlocate : tree'.locate path = tree.locate path)
    (hnode : ∀ place, tree.locate path = .ok place → tree'.node? place = tree.node? place) :
    tree'.readText path = tree.readText path := by
  unfold readText readBytes find
  rw [hlocate]
  cases hplace : tree.locate path with
  | error fault =>
      rfl
  | ok place =>
      simp only [bind, Except.bind, hnode place hplace]

theorem readLines_eq (tree : FileTree) (path : String) :
    Storage.readLines tree path = (tree.readText path).map Text.keepingEnds :=
  rfl

theorem load_congr (h : tree'.readText path = tree.readText path) :
    Document.load tree' path = Document.load tree path := by
  unfold Document.load
  rw [readLines_eq, readLines_eq, h]

/-- A template is loaded from the text of its file. -/
theorem load_eq_ok {doc : Document} :
    Document.load tree path = .ok doc ↔
      ∃ text, tree.readText path = .ok text ∧ Document.ofText path text = .ok doc := by
  unfold Document.load
  rw [readLines_eq]
  cases tree.readText path with
  | error fault =>
      simp [Except.map]
  | ok text =>
      simp [Except.map, Document.ofText]

/-! ## Files in a directory -/

/-- The place of a directory, the home directory for a path without steps. -/
def base (tree : FileTree) (directory : String) : Except StorageFault (List String) :=
  (Path.steps directory).foldlM tree.follow tree.home

/-- A directory right under the root, which is home. -/
theorem base_of_isName {name : String} (hhome : tree.home = []) (hname : Path.IsName name)
    (hsize : name.utf8ByteSize ≤ maxNameSize) : tree.base name = .ok [name] := by
  have hfollow : tree.follow [] (.name name) = .ok [name] :=
    follow_name_eq_ok.2 ⟨by rw [node?, if_pos rfl], hsize, rfl⟩
  rw [base, hname.steps_eq, hhome, List.foldlM_cons, hfollow]
  rfl

theorem locate_of_isName {name : String} (hhome : tree.home = []) (hname : Path.IsName name)
    (hfits : Fits name) : tree.locate name = .ok [name] := by
  have hsteps : stepsOf name = Path.steps name := by
    rw [stepsOf, if_neg]
    intro hlast
    exact hname.noSlash (List.mem_of_getLast? hlast)
  have hbase := base_of_isName hhome hname (hfits.names name (by simp [hname.steps_eq]))
  refine locate_eq_ok.2 ⟨hfits.screened, ?_⟩
  rw [hsteps, walk, if_neg (by simp [hname.steps_eq])]
  exact hbase

theorem KeepsDirectories.base (h : tree.KeepsDirectories tree') {directory : String}
    (hbase : tree.base directory = .ok place) : tree'.base directory = .ok place := by
  unfold FileTree.base at hbase ⊢
  rw [h.home]
  exact h.foldlM hbase

/-- A file in a directory is found where the directory is found. -/
theorem locate_join_eq_ok {name : String} (hname : Path.IsName name) (directory : String) :
    tree.locate (Path.join directory name) = .ok place ↔
      ∃ dir, tree.base directory = .ok dir ∧ tree.node? dir = some .directory ∧
        screen (Path.join directory name) = .ok () ∧ name.utf8ByteSize ≤ maxNameSize ∧
        place = dir ++ [name] := by
  have hsteps :
      stepsOf (Path.join directory name) = Path.steps directory ++ [.name name] := by
    rw [stepsOf, if_neg (hname.getLast?_join directory), hname.steps_join]
  rw [locate_eq_ok, hsteps, walk_snoc_eq_ok]
  simp only [follow_name_eq_ok, base]
  constructor
  · rintro ⟨hscreen, dir, hdir, hnode, hsize, rfl⟩
    exact ⟨dir, hdir, hnode, hscreen, hsize, rfl⟩
  · rintro ⟨dir, hdir, hnode, hscreen, hsize, rfl⟩
    exact ⟨hscreen, dir, hdir, hnode, hsize, rfl⟩

/-- A text is read at a path into a directory where the directory has a file that holds it. -/
theorem readText_join_eq_ok {name directory text : String} {dir : List String}
    (hname : Path.IsName name) (hbase : tree.base directory = .ok dir)
    (hdir : tree.node? dir = some .directory) :
    tree.readText (Path.join directory name) = .ok text ↔
      Fits (Path.join directory name) ∧
        ∃ bytes, tree.node? (dir ++ [name]) = some (.file bytes) ∧
          Text.decode? bytes = some text := by
  rw [readText_eq_ok]
  constructor
  · rintro ⟨place, bytes, hlocate, hnode, htext⟩
    rcases (locate_join_eq_ok hname directory).1 hlocate with ⟨dir', hbase', -, -, -, rfl⟩
    rw [hbase] at hbase'
    cases hbase'
    exact ⟨fits_of_locate hlocate, bytes, hnode, htext⟩
  · rintro ⟨hfits, bytes, hnode, htext⟩
    have hsize := hfits.names name (by simp [hname.steps_join])
    exact ⟨_, bytes, (locate_join_eq_ok hname directory).2
      ⟨dir, hbase, hdir, hfits.screened, hsize, rfl⟩, hnode, htext⟩

theorem isDirectory_iff {directory : String} :
    tree.isDirectory directory = true ↔
      ∃ dir, tree.locate directory = .ok dir ∧ tree.node? dir = some .directory := by
  unfold isDirectory find
  cases tree.locate directory with
  | error fault =>
      simp [bind, Except.bind]
  | ok dir =>
      cases hnode : tree.node? dir with
      | none =>
          simp [hnode, bind, Except.bind]
      | some node =>
          cases node with
          | file bytes =>
              simp [hnode, bind, Except.bind, pure, Except.pure]
          | directory =>
              simp [hnode, bind, Except.bind, pure, Except.pure]

/-- The files in a directory are looked for at the place to which its path leads. -/
theorem base_of_locate {directory : String} {dir : List String}
    (hlocate : tree.locate directory = .ok dir) : tree.base directory = .ok dir := by
  have hwalk := (locate_eq_ok.1 hlocate).2
  unfold stepsOf at hwalk
  split at hwalk
  · -- the slash at the end asks for a directory, which is the place before it
    rcases walk_snoc_eq_ok.1 hwalk with ⟨before, hbase, hfollow⟩
    have hsame : dir = before := by
      simpa using (follow_eq_ok.1 hfollow).imp_right And.right
    rw [hsame]
    exact hbase
  · unfold walk at hwalk
    split at hwalk
    · cases hwalk
    · exact hwalk

theorem place_of_child {dir place : List String} {node : FileNode} {entry : String × FileNode}
    (h : (match place.getLast? with
      | some name => if place.dropLast = dir then some (name, node) else none
      | none => none) = some entry) : place = dir ++ [entry.1] ∧ node = entry.2 := by
  split at h
  · rename_i name hlast
    split at h
    · rename_i hdrop
      cases h
      rcases List.getLast?_eq_some_iff.1 hlast with ⟨before, rfl⟩
      rw [List.dropLast_concat] at hdrop
      exact ⟨by rw [hdrop], rfl⟩
    · cases h
  · cases h

/-- What is in a directory. -/
theorem mem_children {dir : List String} {name : String} {node : FileNode} :
    (name, node) ∈ tree.children dir ↔ tree.node? (dir ++ [name]) = some node := by
  unfold children
  rw [node?, if_neg (by simp), List.mem_filterMap]
  constructor
  · rintro ⟨⟨child, other⟩, hmem, hchild⟩
    rcases place_of_child hchild with ⟨rfl, rfl⟩
    exact Std.HashMap.mem_toList_iff_getElem?_eq_some.1 hmem
  · intro hnode
    exact ⟨(dir ++ [name], node), Std.HashMap.mem_toList_iff_getElem?_eq_some.2 hnode, by simp⟩

/-- Each name is in a directory once. -/
theorem nodup_children (tree : FileTree) (dir : List String) :
    ((tree.children dir).map Prod.fst).Nodup := by
  unfold children
  rw [List.Nodup, List.pairwise_map, List.pairwise_filterMap]
  refine (Std.HashMap.distinct_keys_toList (m := tree.nodes)).imp ?_
  rintro ⟨child, node⟩ ⟨other, node'⟩ hne ⟨name, _⟩ hname ⟨name', _⟩ hname' heq
  rcases place_of_child hname with ⟨rfl, -⟩
  rcases place_of_child hname' with ⟨rfl, -⟩
  dsimp only at heq hne
  simp [heq] at hne

/-! ## Taking away -/

theorem node?_eraseAll (tree : FileTree) (hne : place ≠ []) (other : List String) :
    (tree.eraseAll place).node? other = if place <+: other then none else tree.node? other := by
  unfold node? eraseAll
  by_cases hroot : other = []
  · subst hroot
    rw [if_pos rfl, if_pos rfl, if_neg]
    rintro ⟨rest, hrest⟩
    exact hne (List.append_eq_nil_iff.1 hrest).1
  · rw [if_neg hroot, if_neg hroot, Std.HashMap.getElem?_filter']
    by_cases hbelow : place <+: other
    · have hprefix : place.isPrefixOf other = true := List.isPrefixOf_iff_prefix.2 hbelow
      cases tree.nodes[other]? <;> simp [hbelow, hprefix]
    · have hprefix : place.isPrefixOf other = false := by
        rw [Bool.eq_false_iff]
        exact fun h => hbelow (List.isPrefixOf_iff_prefix.1 h)
      cases tree.nodes[other]? <;> simp [hbelow, hprefix]

/-! ## Trees as they are -/

/-- Each node stands in a directory, under a name. -/
structure WellFormed (tree : FileTree) : Prop where
  housed : ∀ place node, place ≠ [] → tree.node? place = some node →
    tree.node? place.dropLast = some .directory
  named : ∀ place node, tree.node? place = some node → ∀ name ∈ place, Path.IsName name

@[simp]
theorem node?_nil (tree : FileTree) : tree.node? [] = some .directory := by
  rw [node?, if_pos rfl]

theorem node?_empty (place : List String) :
    ({} : FileTree).node? place = if place = [] then some .directory else none := by
  rw [node?]
  simp

theorem wellFormed_empty : ({} : FileTree).WellFormed := by
  refine ⟨fun place node hne hnode => ?_, fun place node hnode name hname => ?_⟩
  · rw [node?_empty, if_neg hne] at hnode
    cases hnode
  · rw [node?_empty, if_neg (List.ne_nil_of_mem hname)] at hnode
    cases hnode

/-- A new node in a directory. -/
theorem WellFormed.put (htree : tree.WellFormed) {dir : List String} {name : String}
    (hname : Path.IsName name) (hdir : tree.node? dir = some .directory)
    (hfree : tree.node? (dir ++ [name]) = none) (node : FileNode) :
    (tree.put (dir ++ [name]) node).WellFormed := by
  have hput := fun place => tree.node?_put (dir ++ [name]) place node (by simp)
  constructor
  · intro place other hne hnode
    rw [hput] at hnode ⊢
    by_cases hplace : place = dir ++ [name]
    · rw [hplace, List.dropLast_concat, if_neg (by simp), hdir]
    · rw [if_neg hplace] at hnode
      have hhoused := htree.housed place other hne hnode
      rw [if_neg, hhoused]
      intro habove
      rw [habove, hfree] at hhoused
      cases hhoused
  · intro place other hnode part hpart
    rw [hput] at hnode
    by_cases hplace : place = dir ++ [name]
    · rw [hplace, List.mem_append, List.mem_singleton] at hpart
      rcases hpart with hpart | rfl
      · exact htree.named dir _ hdir part hpart
      · exact hname
    · rw [if_neg hplace] at hnode
      exact htree.named place other hnode part hpart

/-! ## Directories from the root down -/

/-- What is above a node is a directory. -/
theorem WellFormed.directory_above (htree : tree.WellFormed) {above rest : List String}
    {node : FileNode} (hrest : rest ≠ []) (hnode : tree.node? (above ++ rest) = some node) :
    tree.node? above = some .directory := by
  -- from the node upwards: each place that has a node stands in a directory
  induction rest using List.reverseRecOn generalizing node with
  | nil =>
      exact absurd rfl hrest
  | append_singleton rest name ih =>
      have hhoused := htree.housed _ _ (by simp) hnode
      rw [← List.append_assoc, List.dropLast_concat] at hhoused
      by_cases hnil : rest = []
      · rw [hnil, List.append_nil] at hhoused
        exact hhoused
      · exact ih hnil hhoused

/-- Where there is nothing, nothing is below. -/
theorem WellFormed.none_below (htree : tree.WellFormed) (hnone : tree.node? place = none)
    (rest : List String) : tree.node? (place ++ rest) = none := by
  by_cases hrest : rest = []
  · rw [hrest, List.append_nil, hnone]
  · cases hnode : tree.node? (place ++ rest) with
    | none =>
        rfl
    | some node =>
        rw [htree.directory_above hrest hnode] at hnone
        cases hnone

/-- The place is a directory and so is all above it, each under a name. -/
structure Paved (tree : FileTree) (place : List String) : Prop where
  named : ∀ name ∈ place, Path.IsName name
  directory : ∀ above, above <+: place → tree.node? above = some .directory

theorem WellFormed.paved (htree : tree.WellFormed) (hplace : tree.node? place = some .directory) :
    tree.Paved place where
  named := htree.named place _ hplace
  directory := by
    rintro above ⟨rest, rfl⟩
    by_cases hrest : rest = []
    · rw [hrest, List.append_nil] at hplace
      exact hplace
    · exact htree.directory_above hrest hplace

/-- A new directory can be made at the place: it would stand in a directory, under a name that nothing
has there. -/
structure Vacant (tree : FileTree) (place : List String) : Prop where
  housed : ∃ above name, place = above ++ [name] ∧ Path.IsName name ∧
    tree.node? above = some .directory
  free : tree.node? place = none

theorem Vacant.ne_nil (h : tree.Vacant place) : place ≠ [] := by
  rcases h.housed with ⟨above, name, rfl, -, -⟩
  simp

/-- Names lead from a place that is a directory as far as they are not too long. -/
theorem Paved.foldlM_eq_ok {names : List String} (hpaved : tree.Paved (place ++ names)) :
    (names.map Path.Component.name).foldlM tree.follow place = .ok next ↔
      (∀ name ∈ names, name.utf8ByteSize ≤ maxNameSize) ∧ next = place ++ names := by
  induction names generalizing place with
  | nil =>
      simp [pure, Except.pure, eq_comm]
  | cons name names ih =>
      have hhere : tree.node? place = some .directory := hpaved.directory place ⟨_, rfl⟩
      have hrest : tree.Paved ((place ++ [name]) ++ names) := by
        rw [List.append_assoc]
        exact hpaved
      rw [List.map_cons, List.foldlM_cons]
      cases hfollow : tree.follow place (.name name) with
      | error fault =>
          -- on a paved way nothing else can be wrong with a step
          have hlong : ¬ name.utf8ByteSize ≤ maxNameSize := by
            intro hsize
            rw [follow_name_eq_ok.2 ⟨hhere, hsize, rfl⟩] at hfollow
            cases hfollow
          simp [bind, Except.bind, hlong]
      | ok first =>
          rcases follow_name_eq_ok.1 hfollow with ⟨-, hsize, rfl⟩
          have hnext := ih hrest
          simp only [bind, Except.bind, hnext, List.forall_mem_cons, hsize, true_and]
          rw [List.append_assoc]
          rfl

/-- The path from the root to a directory leads there, if no name on it is too long. -/
theorem Paved.base_eq_ok (hpaved : tree.Paved place) :
    tree.base (Path.ofPlace place) = .ok next ↔
      (∀ name ∈ place, name.utf8ByteSize ≤ maxNameSize) ∧ next = place := by
  have hroot : tree.follow tree.home .root = .ok [] := rfl
  have hfromRoot : tree.Paved ([] ++ place) := hpaved
  rw [base, Path.steps_ofPlace hpaved.named, List.foldlM_cons, hroot]
  exact hfromRoot.foldlM_eq_ok

/-- A file in the directory at a place is found, if the file system takes its path. -/
theorem Paved.locate_join_eq_ok {dir : List String} {name : String} (hpaved : tree.Paved dir)
    (hname : Path.IsName name) :
    tree.locate (Path.join (Path.ofPlace dir) name) = .ok place ↔
      Fits (Path.join (Path.ofPlace dir) name) ∧ place = dir ++ [name] := by
  constructor
  · intro hlocate
    refine ⟨fits_of_locate hlocate, ?_⟩
    rcases (FileTree.locate_join_eq_ok hname _).1 hlocate with ⟨base, hbase, -, -, -, rfl⟩
    rw [(hpaved.base_eq_ok.1 hbase).2]
  · rintro ⟨hfits, rfl⟩
    have hsteps := hname.steps_join (Path.ofPlace dir)
    rw [Path.steps_ofPlace hpaved.named] at hsteps
    have hsizes : ∀ part ∈ dir, part.utf8ByteSize ≤ maxNameSize := fun part hpart =>
      hfits.names part (by simp [hsteps, hpart])
    refine (FileTree.locate_join_eq_ok hname _).2
      ⟨dir, hpaved.base_eq_ok.2 ⟨hsizes, rfl⟩, hpaved.directory dir (List.prefix_refl _),
        hfits.screened, hfits.names name (by simp [hsteps]), rfl⟩

/-! ## Names of files -/

end FileTree

end TemplateVariants
