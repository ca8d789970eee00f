import DesignLint.Files.Workspace

/-! What a command leaves behind. -/
namespace DesignLint

/-- The exit status, both outputs and the files after a command. -/
structure CommandOutcome where
  status : Nat := 0
  output : String := ""
  errors : String := ""
  workspace : Workspace

end DesignLint
