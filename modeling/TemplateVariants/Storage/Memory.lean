import TemplateVariants.Storage.Basic
import TemplateVariants.Storage.Path

/-!
# Files in memory

A store without directories: each file has a normal path, and all spellings of a path are the same
file.
-/

namespace TemplateVariants

/-- The files by normal path; of several entries for a path the first counts. -/
structure MemoryStore where
  files : List (List Path.Component × String) := []

namespace MemoryStore

/-- The text of the file at a path. -/
def contents? (store : MemoryStore) (path : String) : Option String :=
  store.files.lookup (Path.normalize path)

/-- Replaces the text of the file at a path, or makes the file. -/
def write (store : MemoryStore) (path text : String) : MemoryStore :=
  ⟨(Path.normalize path, text) :: store.files⟩

theorem contents?_write (store : MemoryStore) (path text other : String) :
    (store.write path text).contents? other =
      if Path.normalize other = Path.normalize path then some text else store.contents? other := by
  unfold contents? write
  by_cases h : Path.normalize other = Path.normalize path
  · simp [h]
  · have hne : (Path.normalize other == Path.normalize path) = false := by simpa using h
    simp [List.lookup_cons, hne, h]

/-- The store that holds the given files. -/
def ofList (files : List (String × String)) : MemoryStore :=
  files.foldl (fun store file => store.write file.1 file.2) {}

def readLines (store : MemoryStore) (path : String) : Except StorageFault (List String) :=
  match store.contents? path with
  | some text => .ok (Text.keepingEnds text)
  | none => .error (.missingInMemory (Path.display (Path.normalize path)))

instance : Storage MemoryStore where
  readLines := readLines
  writeText store path text := (.ok (), store.write path text)

end MemoryStore

end TemplateVariants
