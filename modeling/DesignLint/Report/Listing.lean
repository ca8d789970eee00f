import DesignLint.Text.Sorted

/-! Lists on a line and over lines. -/
namespace DesignLint

/-- The items in ascending order, the first `limit` of them and how many more there are. -/
def summarize (items : List String) (limit : Nat) : String :=
  let sorted := sortStrings items
  if limit < sorted.length then
    ", ".intercalate (sorted.take limit) ++ ", ... (+" ++ toString (sorted.length - limit) ++ " more)"
  else ", ".intercalate sorted

/-- Each item on a line after a dash. -/
def bulleted (items : List String) : String := "\n".intercalate (items.map ("- " ++ ·))

end DesignLint
