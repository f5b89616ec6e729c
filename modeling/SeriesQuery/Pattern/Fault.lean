/-! # Why a pattern is refused

One cause for each way in which a text fails to be a pattern.
-/

namespace SeriesQuery.Pattern

/-- The causes for which a pattern is refused. -/
inductive Fault where
  | unclosedGroup
  | unopenedGroup
  | lookAround
  | groupName
  | repeatedGroupName
  | unknownFlag
  | repeatedFlag
  | danglingNegation
  | unclosedFlags
  | nothingToRepeat
  | unclosedCount
  | countNumber
  | countOrder
  | unfinishedEscape
  | unknownEscape
  | backReference
  | hexNumber
  | wordBoundary
  | unclosedClass
  | classRange
  | classEscape
  | unknownProperty
  | byteMode
  | tooDeep
  | tooLarge
deriving DecidableEq, Repr

def Fault.message : Fault → String
  | unclosedGroup => "a group is not closed"
  | unopenedGroup => "a closing parenthesis has no group"
  | lookAround => "look-around is not supported"
  | groupName => "a group name is malformed"
  | repeatedGroupName => "two groups have one name"
  | unknownFlag => "unknown flag"
  | repeatedFlag => "a flag is repeated"
  | danglingNegation => "a flag negation has no flag"
  | unclosedFlags => "the flags are not closed"
  | nothingToRepeat => "a repetition has nothing to repeat"
  | unclosedCount => "a repetition count is not closed"
  | countNumber => "a repetition count is not a number"
  | countOrder => "a repetition count ends below its start"
  | unfinishedEscape => "an escape is not finished"
  | unknownEscape => "unknown escape"
  | backReference => "back-references are not supported"
  | hexNumber => "an escape names no character"
  | wordBoundary => "unknown word boundary"
  | unclosedClass => "a character class is not closed"
  | classRange => "a character range is malformed"
  | classEscape => "an escape cannot stand in a character class"
  | unknownProperty => "unknown character property"
  | byteMode => "a pattern without Unicode must stay within ASCII"
  | tooDeep => "groups are nested too deeply"
  | tooLarge => "the pattern is too large"

end SeriesQuery.Pattern
