/-!
# Lines

Splitting a text into lines, and indenting them.
-/

namespace PageBuilder.Text

/-- The lines of a text. A line ends with a line feed, or with a carriage return and a line feed;
the last one may end with the text. -/
def lines : List Char → List (List Char)
  | [] => []
  | '\r' :: '\n' :: rest => [] :: lines rest
  | '\n' :: rest => [] :: lines rest
  | c :: rest =>
    match lines rest with
    | [] => [[c]]
    | line :: others => (c :: line) :: others

/-- The text with every line indented, lines ending with a line feed alone. -/
def indentLines (indent text : String) : String :=
  "\n".intercalate ((lines text.toList).map fun line => indent ++ String.ofList line)

/-- Lines as a text, each with a line break behind it. -/
def unlines (lines : List String) : String := String.join (lines.map (· ++ "\n"))

end PageBuilder.Text
