import DocQuery.Path
import DocQuery.Query.ParseError
import DocQuery.Regex.Reader
/-!
# Errors of the engine

Why a query cannot be used. All of these concern the query and its options,
and none of them the documents.
-/


namespace DocQuery

/-- Why a query, or what is asked for along with it, cannot be used. -/
inductive EngineError where
  | invalidPath (path : String) (cause : PathError)
  | invalidRegex (pattern options : String) (cause : Regex.PatternError)
  | unsupportedFlag (flag : Char) (pattern : String)
  | templateNotObject
  | parse (cause : ParseError)

/-- The message for an error. What is not well-formed in a pattern with its
option letters, its reader says in words of its own: `malformed` gives
them. -/
def EngineError.message (malformed : (pattern options : String) → String) : EngineError → String
  | invalidPath path cause => "invalid path " ++ Quoted.string path ++ ": " ++ cause.message
  | invalidRegex pattern options cause =>
    "invalid regex pattern " ++ Quoted.string pattern ++ ": " ++
      cause.message (malformed pattern options)
  | unsupportedFlag flag pattern =>
    "invalid query: unsupported regex flag " ++ Quoted.char flag ++ " for pattern " ++
      Quoted.string pattern
  | templateNotObject => "invalid query: template projection must be an object"
  | parse cause => cause.message

/-- Reads a path on behalf of the engine. -/
def Path.read (text : String) : Except EngineError Path :=
  (Path.parse text).mapError (.invalidPath text)

end DocQuery
