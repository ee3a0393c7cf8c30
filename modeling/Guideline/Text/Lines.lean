/-!
# Lines

A line ends at a line feed, and a carriage return right before the line feed belongs to the
ending. Text after the last line feed is a line of its own when there is any.
-/

namespace Guideline.Text

/-- The lines of a text, without their endings. -/
def lines : List Char → List (List Char)
  | [] => []
  | '\n' :: rest => [] :: lines rest
  | '\r' :: '\n' :: rest => [] :: lines rest
  | c :: rest =>
    match lines rest with
    | [] => [[c]]
    | line :: more =>
      (c :: line) :: more

end Guideline.Text
