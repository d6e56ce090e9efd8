import PageBuilder.Text.Lowercase
import PageBuilder.Text.Blank
import PageBuilder.Text.Alphanumeric

/-!
# Finding words and names

Search for a word inside a text, and the two ways names are compared with what a user typed: by
their lower case, or by their words alone.
-/

namespace PageBuilder.Text

/-- Whether a word occurs in a text, as a run of neighbouring characters. -/
def occursIn (word : List Char) : List Char → Bool
  | [] => word.isEmpty
  | c :: rest => word.isPrefixOf (c :: rest) || occursIn word rest

theorem occursIn_iff {word text : List Char} : occursIn word text ↔ word <:+: text := by
  induction text with
  | nil => simp [occursIn]
  | cons c rest ih => simp [occursIn, List.infix_cons_iff, ih]

/-- Whether any of the words occurs in the lower case of a text. -/
def mentions (words : List String) (text : String) : Bool :=
  let lowered := lower text.toList
  words.any fun word => occursIn word.toList lowered

/-- A typed name without outer white space, in lower case. -/
def normalized (name : String) : String := String.ofList (lower (trim name.toList))

/-- Splits a text at every character that is not part of a word. -/
def splitWords : List Char → List (List Char)
  | [] => [[]]
  | c :: rest =>
    match splitWords rest with
    | [] => [[c]]
    | word :: others => if isAlphanumeric c then (c :: word) :: others else [] :: word :: others

def words (text : List Char) : List (List Char) :=
  ((splitWords text).filter (!·.isEmpty)).map lower

/-- The words of a name, in lower case and joined by hyphens. -/
def slug (name : List Char) : List Char := ['-'].intercalate (words name)

/-- Whether a typed name means the given one: equal up to the case of ASCII letters, or made of the
same words. Outer white space of the typed name does not count. -/
def matchesName (name query : String) : Bool :=
  let query := trim query.toList
  name.toList.map Char.toLower == query.map Char.toLower || slug name.toList == slug query

end PageBuilder.Text
