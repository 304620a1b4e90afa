import NoteTemplate.Counter.Tag
import NoteTemplate.Prompt.Content
import NoteTemplate.Prompt.Name
import NoteTemplate.Prompt.Tag
import NoteTemplate.Variable.Basic
import NoteTemplate.Variable.Tag

/-!
# Checking a title pattern

A pattern is usable when it is not blank, asks only for variables that a title may
have, has at most one counter, and names its prompts properly.  All problems are
reported, in this order.
-/

namespace NoteTemplate

/-- The elements of a list without repetitions, in the order of their first
occurrence; those in `seen` are left out. -/
def firstOccurrencesFrom (seen : List Text) : List Text → List Text
  | [] => []
  | item :: items =>
    if seen.contains item then firstOccurrencesFrom seen items
    else item :: firstOccurrencesFrom (item :: seen) items

/-- The names of the variables of a pattern, in order of first appearance. -/
def variableNames (pattern : Text) : List Text :=
  firstOccurrencesFrom [] ((variableTags pattern).map fun found => found.value.name)

/-- May a title have a variable of this name? -/
def isTitleVariable (name : Text) : Bool :=
  Variable.forTitles.any fun known => known.name = name

/-- The names of the variables of a pattern that a title cannot have. -/
def unknownVariables (pattern : Text) : List Text :=
  (variableNames pattern).filter fun name => !isTitleVariable name

/-- Why a pattern is not usable. -/
inductive TitleProblem where
  | empty
  | unknownVariable (name : Text)
  | severalCounters
  | badName (problem : NameProblem) (tag : Text)
deriving DecidableEq, Repr

/-- The words for a problem. -/
def TitleProblem.message : TitleProblem → Text
  | .empty => "Title pattern cannot be empty".toList
  | .unknownVariable name =>
    "Unknown variable: \x7b\x7b".toList ++ name ++ "\x7d\x7d".toList
  | .severalCounters =>
    "Only one \x7b\x7bcounter\x7d\x7d is allowed in a title pattern".toList
  | .badName problem tag => problem.message ++ ": ".toList ++ tag

/-- The problem with the name in a tag. -/
def nameProblem? (pattern : Text) (found : TagOccurrence) : Option TitleProblem :=
  (NameProblem.ofName? (promptName found.value.content)).map fun problem =>
    .badName problem (found.span.of pattern)

/-- The problems of a pattern; a usable pattern has none. -/
def titleProblems (pattern : Text) : List TitleProblem :=
  (if Text.isBlankText pattern then [.empty] else [])
    ++ (unknownVariables pattern).map TitleProblem.unknownVariable
    ++ (if 1 < (counterTags pattern).length then [.severalCounters] else [])
    ++ (promptTags pattern).filterMap (nameProblem? pattern)

end NoteTemplate
