/-!
# Safe texts in markup

Escaping for text and attribute values, safe in markup and in component source alike.
-/

namespace PageBuilder.Markup

/-- The characters a character is written with. -/
def escapeChar (c : Char) : List Char :=
  if c = '&' then ['&', 'a', 'm', 'p', ';']
  else if c = '<' then ['&', 'l', 't', ';']
  else if c = '>' then ['&', 'g', 't', ';']
  else if c = '"' then ['&', 'q', 'u', 'o', 't', ';']
  else if c = '\'' then ['&', '#', '3', '9', ';']
  else if c = '\x7b' then ['&', '#', '1', '2', '3', ';']
  else if c = '\x7d' then ['&', '#', '1', '2', '5', ';']
  else [c]

/-- A text with its markup characters and braces as entities. -/
def escape (text : String) : String := String.ofList (text.toList.flatMap escapeChar)

end PageBuilder.Markup
