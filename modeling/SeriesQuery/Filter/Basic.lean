import SeriesQuery.Filter.ElementList
import SeriesQuery.Filter.Expression

/-! # Series filters

What a query asks of the tags of a series: a combination of tag comparisons, or a combination of tag
texts that must be among the texts of the series.
-/

namespace SeriesQuery

/-- A condition on the tags of a series. -/
inductive SeriesFilter where
  | comparisons (tree : TagPredicate)
  | tagTexts (tree : Predicate String)

def SeriesFilter.selects (tags : Tags) : SeriesFilter → Bool
  | comparisons tree => tree.holds fun c => c.matchesTags tags
  | tagTexts tree => tree.holds fun t => tags.texts.contains t

end SeriesQuery
