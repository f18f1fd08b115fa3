import StreamPipeline.Schema.TypeParser

/-! # Columns

The columns of a view. A processing-time column is synthetic: it never leaves a transform and is
never written to a sink.
-/

namespace StreamPipeline

structure Column where
  name : String
  dataType : LogicalType
  nullable : Bool
  timeAttribute : Option TimeAttribute
deriving BEq

namespace Column

/-- A column of the given name with a type text of the runtime. -/
def ofTypeText (name raw : String) : Except MalformedType Column :=
  (ColumnType.parse raw).map fun t => ⟨name, t.dataType, t.nullable, t.timeAttribute⟩

/-- Marked as processing time, or named as such. -/
def isProcessingTime (c : Column) : Bool :=
  Text.occursIn "proc_time" c.name || c.timeAttribute == some .procTime

/-- The columns that are stored or passed on, in their order. -/
def visible (columns : List Column) : List Column := columns.filter fun c => !c.isProcessingTime

end Column

end StreamPipeline
