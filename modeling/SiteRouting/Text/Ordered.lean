namespace SiteRouting.Text

def insertOrdered (s : String) : List String → List String
  | [] => [s]
  | t :: rest => if s < t then s :: t :: rest else if s = t then t :: rest else t :: insertOrdered s rest

/-- A set of texts as an ascending list without repetitions; texts are
compared by code points. -/
def orderedSet (texts : List String) : List String :=
  texts.foldr insertOrdered []

def firstOccurrences : List String → List String
  | [] => []
  | s :: rest => s :: (firstOccurrences rest).filter (· ≠ s)

end SiteRouting.Text
