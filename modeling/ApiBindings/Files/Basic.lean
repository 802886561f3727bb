/-!
What commands do with files. Paths are seen from the working directory.
-/

namespace ApiBindings

/-- Changes answer whether they succeeded. -/
class FileSystem (m : Type → Type) where
  isPresent : String → m Bool
  read? : String → m (Option String)
  createDirectories : String → m Bool
  write : String → String → m Bool

end ApiBindings
