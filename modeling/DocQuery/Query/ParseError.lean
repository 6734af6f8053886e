import DocQuery.Value.Display
/-!
# What can be wrong with a query document

The causes for which a document is not a query, a sort order or a projection,
and the message for each.
-/


namespace DocQuery

/-- Why a document could not be read. -/
inductive ParseError where
  | customTest
  | unknownTopLevel (key : String)
  | notArray (key : String)
  | notDocuments (key : String)
  | presenceNotBoolean
  | subQueryNotDocument
  | optionsAlone
  | optionsNotString
  | regexNotPattern
  | sizeNotInteger
  | sizeNegative
  | sortDirection (field : String) (got : Value)
  | projectionPath (got : Value)
  | projectionShape (got : Value)

namespace ParseError

/-- What is wrong, in words. -/
def reason : ParseError → String
  | customTest =>
    "$where cannot be deserialized; attach a custom predicate with QueryBuilder::custom"
  | unknownTopLevel key => "unknown top-level operator: " ++ key
  | notArray key => key ++ " value must be an array"
  | notDocuments key => key ++ " array elements must be documents"
  | presenceNotBoolean => "$exists value must be a boolean"
  | subQueryNotDocument => "$elemMatch value must be a document"
  | optionsAlone => "$options without $regex"
  | optionsNotString => "$options value must be a string"
  | regexNotPattern => "$regex value must be a string or regular expression"
  | sizeNotInteger => "$size value must be an integer"
  | sizeNegative => "$size value must not be negative"
  | sortDirection field got =>
    "sort direction for " ++ field ++ " must be 1, -1, \"asc\" or \"desc\", got " ++ got.display
  | projectionPath got => "field-list projection entries must be strings, got " ++ got.display
  | projectionShape got =>
    "projection must be an array of paths or a template document, got " ++ got.display

/-- The message for an error in a document. -/
def message (error : ParseError) : String := "query parse error: " ++ error.reason

end ParseError

end DocQuery
