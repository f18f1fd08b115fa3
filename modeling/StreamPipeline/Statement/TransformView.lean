import StreamPipeline.Schema.Column
import StreamPipeline.Sql.Quote

/-! # Transform views

A transform is two views: its query under an intermediate name, and a projection of it that leaves
processing time out.
-/

namespace StreamPipeline

def intermediateName (transform : String) : String := transform ++ "_tmp"

def intermediateStatement (transform sql : String) : String :=
  "CREATE TEMPORARY VIEW " ++ Sql.quoteIdent (intermediateName transform) ++ " AS " ++ sql

def projectionStatement (transform : String) (columns : List Column) : String :=
  "CREATE TEMPORARY VIEW " ++ Sql.quoteIdent transform ++ " AS SELECT "
    ++ Text.join ", " (columns.map fun c => Sql.quoteIdent c.name)
    ++ " FROM " ++ Sql.quoteIdent (intermediateName transform)

end StreamPipeline
