/-! Names that are not yet in use. -/

namespace DesignCompiler.Naming

/-- The wanted name, then the same name numbered from two on. -/
def candidates (wanted : String) (count : Nat) : List String :=
  wanted :: (List.range count).map fun i => wanted ++ toString (i + 2)

/-- The first candidate that is not in use. One more candidate than there are names in use is
enough. -/
def fresh (used : List String) (wanted : String) : String :=
  ((candidates wanted used.length).find? (!used.contains ·)).getD wanted

end DesignCompiler.Naming
