import SeriesQuery.OrderedMap

/-! # Tags

The tags of a series: a value for each of its tag keys. Dashboards and lists refer to a tag by the
text `key=value`.
-/

namespace SeriesQuery

/-- Tag values by tag key. -/
abbrev Tags := OrderedMap String String

/-- The tags as `key=value` texts, by key. -/
def Tags.texts (tags : Tags) : List String := tags.entries.map fun e => e.1 ++ "=" ++ e.2

end SeriesQuery
