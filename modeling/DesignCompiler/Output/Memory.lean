import DesignCompiler.Json.Decoder
import DesignCompiler.Output.Store

/-! A store in memory, in which single paths can be protected against writing. -/

namespace DesignCompiler.Output

/-- Files by path, in the order of their first writing, and the protected paths. -/
structure MemoryStore where
  files : List (String × String)
  denied : List String
  deriving DecidableEq, Repr

namespace MemoryStore

def empty : MemoryStore := ⟨[], []⟩

/-- The content of a file. -/
def get? (m : MemoryStore) (path : String) : Option String :=
  (m.files.find? (·.1 == path)).map (·.2)

/-- Set the content of a file, protected or not. -/
def put (m : MemoryStore) (path content : String) : MemoryStore :=
  { m with files := Json.Decoder.putEntry path content m.files }

/-- Protect a path. -/
def deny (m : MemoryStore) (path : String) : MemoryStore :=
  { m with denied := m.denied ++ [path] }

/-- Write a file unless its path is protected. -/
def write (m : MemoryStore) (path content : String) : MemoryStore × Option StoreError :=
  if m.denied.contains path then (m, some (.writeFailed path "read-only"))
  else (m.put path content, none)

instance : FileStore MemoryStore where
  read m path := .ok (m.get? path)
  write := write

end MemoryStore

end DesignCompiler.Output
