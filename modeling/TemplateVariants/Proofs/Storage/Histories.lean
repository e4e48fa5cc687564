import TemplateVariants.Randomness.Replay
import TemplateVariants.Storage.Memory

/-!
# Histories of a store

A store in memory is written to and read, templates are parsed from it and variants are compiled into
it, each time under some spelling of a path. `Moment.after` runs such accesses, and `Moment.writings`
tells which of them wrote what. The store is made of its first files and of the writings alone
(`Moment.store_after`), and the latest writing under a spelling of a path decides
(`contents?_writeAll`). So the writings tell what is read at any moment (`contents_along`).
-/

namespace TemplateVariants
namespace MemoryStore

open Randomness

/-- One access to a store. -/
inductive Access where
  | write (path text : String)
  | read (path : String)
  | parse (path : String)
  | compile (doc : Document) (path : String) (options : Options)

/-- What an access gives back. -/
inductive Answer where
  | written (outcome : Except StorageFault Unit)
  | lines (outcome : Except StorageFault (List String))
  | document (outcome : Except CompileError Document)
  | compiled (outcome : Except (Halt CompileError) Unit)

/-- A store between two accesses, and the dice for the compilations to come. -/
structure Moment (G : Type) where
  store : MemoryStore
  dice : Dice G

section Accesses

variable {G : Type} [WordSource G]

/-- What an access gives back, and the moment after it. -/
def Access.perform (m : Moment G) : Access → Answer × Moment G
  | .write path text =>
    let (outcome, store) := Storage.writeText m.store path text
    (.written outcome, { m with store })
  | .read path => (.lines (Storage.readLines m.store path), m)
  | .parse path => (.document (Document.load m.store path), m)
  | .compile doc path options =>
    let delivery := doc.deliver m.store path options m.dice
    (.compiled delivery.outcome, ⟨delivery.store, delivery.session.dice⟩)

/-- The path and the text of a write that succeeds, and of a compilation that does. -/
def Access.writing? (m : Moment G) (access : Access) : Option (String × String) :=
  match access, (access.perform m).1 with
  | .write path text, .written (.ok _) => some (path, text)
  | .compile doc path options, .compiled (.ok _) =>
    match (doc.compile options m.dice).outcome with
    | .ok text => some (path, text)
    | .error _ => none
  | _, _ => none

namespace Moment

/-- The moment after the accesses. -/
def after (m : Moment G) : List Access → Moment G
  | [] => m
  | access :: rest => (access.perform m).2.after rest

/-- What the accesses wrote, in their order. -/
def writings (m : Moment G) : List Access → List (String × String)
  | [] => []
  | access :: rest => (access.writing? m).toList ++ (access.perform m).2.writings rest

end Moment
end Accesses

/-! ## The latest writing -/

/-- The store after the writings. -/
def writeAll (store : MemoryStore) (writings : List (String × String)) : MemoryStore :=
  writings.foldl (fun store writing => store.write writing.1 writing.2) store

/-- Nothing was written under a spelling of the path. -/
def Untouched (path : String) (writings : List (String × String)) : Prop :=
  ∀ writing ∈ writings, Path.normalize writing.1 ≠ Path.normalize path

instance (path : String) (writings : List (String × String)) :
    Decidable (Untouched path writings) :=
  inferInstanceAs (Decidable (∀ writing ∈ writings, _))

/-- The latest of the writings under a spelling of the path has this text. -/
def Latest (path : String) (writings : List (String × String)) (text : String) : Prop :=
  ∃ earlier spelling later, writings = earlier ++ (spelling, text) :: later ∧
    Path.normalize spelling = Path.normalize path ∧ Untouched path later

variable {path text : String} {writings : List (String × String)}

theorem untouched_cons {writing : String × String} :
    Untouched path (writing :: writings) ↔
      Path.normalize writing.1 ≠ Path.normalize path ∧ Untouched path writings :=
  List.forall_mem_cons

theorem latest_cons {writing : String × String} :
    Latest path (writing :: writings) text ↔
      Latest path writings text ∨
        (Untouched path writings ∧
          Path.normalize writing.1 = Path.normalize path ∧ writing.2 = text) := by
  constructor
  · rintro ⟨earlier, spelling, later, hwritings, hspelling, hlater⟩
    cases earlier with
    | nil =>
        cases hwritings
        exact .inr ⟨hlater, hspelling, rfl⟩
    | cons first earlier =>
        cases hwritings
        exact .inl ⟨earlier, spelling, later, rfl, hspelling, hlater⟩
  · rintro (⟨earlier, spelling, later, rfl, hspelling, hlater⟩ | ⟨hwritings, hspelling, rfl⟩)
    · exact ⟨writing :: earlier, spelling, later, rfl, hspelling, hlater⟩
    · exact ⟨[], writing.1, writings, rfl, hspelling, hwritings⟩

/-- The latest writing decides, or if there is none, what was there before. -/
theorem contents?_writeAll (store : MemoryStore) (writings : List (String × String)) :
    (store.writeAll writings).contents? path = some text ↔
      Latest path writings text ∨
        (Untouched path writings ∧ store.contents? path = some text) := by
  induction writings generalizing store with
  | nil =>
      simp [writeAll, Latest, Untouched]
  | cons writing writings ih =>
      have hrest := ih (store.write writing.1 writing.2)
      rw [contents?_write] at hrest
      rw [writeAll, List.foldl_cons]
      change ((store.write writing.1 writing.2).writeAll writings).contents? path = some text ↔ _
      rw [hrest, latest_cons, untouched_cons]
      by_cases hspelling : Path.normalize path = Path.normalize writing.1
      · simp [hspelling]
      · simp [hspelling, Ne.symm hspelling]

/-- Files under different normal forms are all in the store that holds them. -/
theorem contents?_ofList {files : List (String × String)}
    (h : (files.map fun file => Path.normalize file.1).Nodup) :
    (ofList files).contents? path = some text ↔
      ∃ file ∈ files, Path.normalize file.1 = Path.normalize path ∧ file.2 = text := by
  have hempty : ({} : MemoryStore).contents? path ≠ some text := by
    simp [contents?]
  have hlatest :
      Latest path files text ↔
        ∃ file ∈ files, Path.normalize file.1 = Path.normalize path ∧ file.2 = text := by
    constructor
    · rintro ⟨earlier, spelling, later, rfl, hspelling, -⟩
      exact ⟨(spelling, text), by simp, hspelling, rfl⟩
    · rintro ⟨file, hfile, hspelling, rfl⟩
      rcases List.append_of_mem hfile with ⟨earlier, later, rfl⟩
      refine ⟨earlier, file.1, later, rfl, hspelling, fun other hother hsame => ?_⟩
      -- a later file under the path would have the same normal form
      rw [List.map_append, List.map_cons] at h
      have hfirst := (List.nodup_cons.1 (List.nodup_append.1 h).2.1).1
      refine hfirst (List.mem_map.2 ⟨other, hother, ?_⟩)
      rw [hsame, hspelling]
  rw [← hlatest]
  change (({} : MemoryStore).writeAll files).contents? path = some text ↔ _
  rw [contents?_writeAll]
  simp [hempty]

/-! ## Accesses -/

section Runs

variable {G : Type} [WordSource G]

/-- A compilation writes the text that it ends with, or nothing. -/
theorem perform_compile (m : Moment G) (doc : Document) (path : String) (options : Options) :
    (∃ text, (doc.compile options m.dice).outcome = .ok text ∧
      (Access.compile doc path options).perform m =
        (.compiled (.ok ()),
          ⟨m.store.write path text, (doc.compile options m.dice).session.dice⟩)) ∨
    ∃ halt, (doc.compile options m.dice).outcome = .error halt ∧
      (Access.compile doc path options).perform m =
        (.compiled (.error halt), ⟨m.store, (doc.compile options m.dice).session.dice⟩) := by
  cases houtcome : (doc.compile options m.dice).outcome with
  | ok text =>
      refine .inl ⟨text, rfl, ?_⟩
      simp only [Access.perform, Document.deliver, houtcome]
      rfl
  | error halt =>
      refine .inr ⟨halt, rfl, ?_⟩
      simp only [Access.perform, Document.deliver, houtcome]

theorem writing?_compile (m : Moment G) (doc : Document) (path : String) (options : Options) :
    (Access.compile doc path options).writing? m =
      match (doc.compile options m.dice).outcome with
      | .ok text => some (path, text)
      | .error _ => none := by
  unfold Access.writing?
  rcases perform_compile m doc path options with ⟨text, houtcome, hperform⟩ |
    ⟨halt, houtcome, hperform⟩
  · simp only [hperform, houtcome]
  · simp only [hperform, houtcome]

/-- An access changes the store by its writing, if it has one. -/
theorem store_perform (m : Moment G) (access : Access) :
    (access.perform m).2.store = m.store.writeAll (access.writing? m).toList := by
  cases access with
  | write path text =>
      rfl
  | read path =>
      rfl
  | parse path =>
      rfl
  | compile doc path options =>
      rw [writing?_compile]
      rcases perform_compile m doc path options with ⟨text, houtcome, hperform⟩ |
        ⟨halt, houtcome, hperform⟩
      · rw [hperform, houtcome]
        rfl
      · rw [hperform, houtcome]
        rfl

/-- Accesses change the store by their writings. -/
theorem Moment.store_after (m : Moment G) (accesses : List Access) :
    (m.after accesses).store = m.store.writeAll (m.writings accesses) := by
  induction accesses generalizing m with
  | nil =>
      rfl
  | cons access rest ih =>
      rw [after, ih, store_perform, writings, writeAll, writeAll, writeAll, List.foldl_append]

theorem perform_read (m : Moment G) (path : String) :
    (Access.read path).perform m =
      match m.store.contents? path with
      | some text => (.lines (.ok (Text.keepingEnds text)), m)
      | none =>
        (.lines (.error (.missingInMemory (Path.display (Path.normalize path)))), m) := by
  change (Answer.lines (readLines m.store path), m) = _
  unfold readLines
  cases m.store.contents? path with
  | none =>
      rfl
  | some text =>
      rfl

theorem perform_parse {m : Moment G} (h : m.store.contents? path = some text) :
    (Access.parse path).perform m = (.document (Document.ofText path text), m) := by
  have hlines : Storage.readLines m.store path = .ok (Text.keepingEnds text) := by
    change readLines m.store path = _
    rw [readLines, h]
  rw [Access.perform, Document.load, hlines]
  rfl

/-- What a store holds along its history. Of the writings under the spellings of a path the latest
decides, and before the first of them the file that the store was made with. An access that is no
writing changes nothing. What is read is what the store holds, cut into lines, and it is missing
exactly if the store has no such file; a template in the store is parsed as its text. -/
theorem contents_along {files : List (String × String)}
    (hfiles : (files.map fun file => Path.normalize file.1).Nodup) (dice : Dice G)
    (accesses : List Access) :
    let start : Moment G := ⟨ofList files, dice⟩
    let now := start.after accesses
    (∀ path text, now.store.contents? path = some text ↔
      Latest path (start.writings accesses) text ∨
        (Untouched path (start.writings accesses) ∧
          ∃ file ∈ files, Path.normalize file.1 = Path.normalize path ∧ file.2 = text)) ∧
    (∀ doc path options halt,
      ((Access.compile doc path options).perform now).1 = .compiled (.error halt) →
        ((Access.compile doc path options).perform now).2.store = now.store) ∧
    (∀ path, ((Access.read path).perform now).2 = now ∧
      ((Access.parse path).perform now).2 = now) ∧
    (∀ path, (∃ fault, ((Access.read path).perform now).1 = .lines (.error fault)) ↔
      now.store.contents? path = none) ∧
    (∀ path lines, ((Access.read path).perform now).1 = .lines (.ok lines) →
      now.store.contents? path = some (String.join lines)) ∧
    ∀ path text, now.store.contents? path = some text →
      ((Access.parse path).perform now).1 = .document (Document.ofText path text) := by
  intro start now
  refine ⟨?_, ?_, ?_, ?_, ?_, ?_⟩
  · intro path text
    rw [Moment.store_after, contents?_writeAll, contents?_ofList hfiles]
  · intro doc path options halt hanswer
    rcases perform_compile now doc path options with ⟨text, -, hperform⟩ | ⟨halt, -, hperform⟩
    · rw [hperform] at hanswer
      cases hanswer
    · rw [hperform]
  · exact fun path => ⟨rfl, rfl⟩
  · intro path
    rw [perform_read]
    cases now.store.contents? path with
    | none =>
        simp
    | some text =>
        simp
  · intro path lines hanswer
    rw [perform_read] at hanswer
    cases hcontents : now.store.contents? path with
    | none =>
        simp [hcontents] at hanswer
    | some text =>
        simp only [hcontents, Answer.lines.injEq, Except.ok.injEq] at hanswer
        rw [← hanswer, Text.join_keepingEnds]
  · intro path text hcontents
    rw [perform_parse hcontents]

end Runs

/-! ### A history under several spellings -/

/-- A write to the first file, a variant beside it, and a compilation that has no pass to make. -/
def sampleAccesses : List Access :=
  [.write "/x/../a.vy" "two", .compile ⟨"b.vy", [[.literal "three"]]⟩ "c/./d.vy" {},
    .compile ⟨"b.vy", [[.command (.get "y")]]⟩ "/a.vy" { maxPasses := 0 }, .read "/a.vy"]

theorem contents_along_spellings :
    let start : Moment Replay := ⟨ofList [("/a.vy", "one"), ("b.vy", "one")], ⟨⟨[], 0⟩, 1⟩⟩
    let now := start.after sampleAccesses
    now.store.contents? "/./a.vy" = some "two" ∧ now.store.contents? "c/d.vy" = some "three" ∧
      now.store.contents? "b.vy" = some "one" ∧
      ((Access.parse "/a.vy").perform now).1 = .document (Document.ofText "/a.vy" "two") := by
  intro start now
  have hwritings :
      start.writings sampleAccesses = [("/x/../a.vy", "two"), ("c/./d.vy", "three")] := rfl
  have hfiles :
      ([("/a.vy", "one"), ("b.vy", "one")].map fun file => Path.normalize file.1).Nodup := by
    decide
  rcases contents_along hfiles start.dice sampleAccesses with ⟨hcontents, -, -, -, -, hparse⟩
  have hfirst : now.store.contents? "/a.vy" = some "two" := by
    refine (hcontents _ _).2 (.inl ⟨[], "/x/../a.vy", [("c/./d.vy", "three")], hwritings, ?_, ?_⟩)
    · decide
    · decide
  refine ⟨hfirst, ?_, ?_, hparse _ _ hfirst⟩
  · refine (hcontents _ _).2 (.inl ⟨[("/x/../a.vy", "two")], "c/./d.vy", [], hwritings, ?_, ?_⟩)
    · decide
    · decide
  · have huntouched : Untouched "b.vy" (start.writings sampleAccesses) := by
      rw [hwritings]
      decide
    exact (hcontents _ _).2 (.inr ⟨huntouched, ("b.vy", "one"), by decide, by decide, rfl⟩)

end MemoryStore
end TemplateVariants
