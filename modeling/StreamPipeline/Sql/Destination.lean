import StreamPipeline.Sql.Quote
import StreamPipeline.Text.Lowercase

/-! # Names of the relational destination

The destination folds unquoted names to lower case. Generated names are folded the same way and
quoted only where the server asks for it.
-/

namespace StreamPipeline.Sql

/-- Words that may not stand as a name without quotes. -/
def reservedWords : List String := [
  "all", "analyse", "analyze", "and", "any", "array", "as", "asc", "asymmetric", "authorization",
  "between", "bigint", "binary", "bit", "boolean", "both", "case", "cast", "char", "character",
  "check", "coalesce", "collate", "collation", "column", "concurrently", "constraint", "create",
  "cross", "current_catalog", "current_date", "current_role", "current_schema", "current_time",
  "current_timestamp", "current_user", "dec", "decimal", "default", "deferrable", "desc",
  "distinct", "do", "else", "end", "except", "exists", "extract", "false", "fetch", "float",
  "for", "foreign", "freeze", "from", "full", "grant", "greatest", "group", "grouping", "having",
  "ilike", "in", "initially", "inner", "inout", "int", "integer", "intersect", "interval", "into",
  "is", "isnull", "join", "json", "json_array", "json_arrayagg", "json_exists", "json_object",
  "json_objectagg", "json_query", "json_scalar", "json_serialize", "json_table", "json_value",
  "lateral", "leading", "least", "left", "like", "limit", "localtime", "localtimestamp",
  "merge_action", "national", "natural", "nchar", "none", "normalize", "not", "notnull", "null",
  "nullif", "numeric", "offset", "on", "only", "or", "order", "out", "outer", "overlaps",
  "overlay", "placing", "position", "precision", "primary", "real", "references", "returning",
  "right", "row", "select", "session_user", "setof", "similar", "smallint", "some", "substring",
  "symmetric", "system_user", "table", "tablesample", "then", "time", "timestamp", "to",
  "trailing", "treat", "trim", "true", "union", "unique", "user", "using", "values", "varchar",
  "variadic", "verbose", "when", "where", "window", "with", "xmlattributes", "xmlconcat",
  "xmlelement", "xmlexists", "xmlforest", "xmlnamespaces", "xmlparse", "xmlpi", "xmlroot",
  "xmlserialize", "xmltable"]

def isPlainStart (c : Char) : Bool := c.isLower || c == '_'

def isPlainChar (c : Char) : Bool := c.isLower || c.isDigit || c == '_'

/-- Names that need no quotes; the empty name is left alone as well. -/
def isPlainName (name : String) : Bool :=
  match name.toList with
  | [] => true
  | c :: rest => isPlainStart c && rest.all isPlainChar && !reservedWords.contains name

/-- The name as written, in double quotes where it needs them. -/
def quoteName (name : String) : String :=
  if isPlainName name then name else String.ofList (enclose '"' name.toList)

/-- The name as the server folds it. -/
def destinationName (name : String) : String := quoteName (Text.toLower name)

def createDatabase (database : String) : String := "CREATE DATABASE " ++ quoteName database

def createSchema (schema : String) : String :=
  "CREATE SCHEMA IF NOT EXISTS " ++ destinationName schema

end StreamPipeline.Sql
