namespace CallPolicy.Text

/-!
# Columns of text

`padRight` fills a column of a table.
-/

/-- A text with spaces behind it, up to a number of characters. A longer text stays as it is. -/
def padRight (width : Nat) (s : String) : String :=
  s ++ String.ofList (List.replicate (width - s.toList.length) ' ')

theorem length_padRight (width : Nat) (s : String) :
    (padRight width s).length = max width s.length := by
  simp [padRight, String.length_toList]
  omega

end CallPolicy.Text
