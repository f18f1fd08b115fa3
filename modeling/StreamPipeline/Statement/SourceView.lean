import StreamPipeline.Pipeline.Basic
import StreamPipeline.Sql.Interval
import StreamPipeline.Sql.Quote

/-! # Source views

A source is a view over a dataset of the catalog: a scan with its options, inside a window function
where the source has one.
-/

namespace StreamPipeline

/-- Where a streaming scan starts. -/
inductive ScanMode where
  | latest
  | fromTimestamp (millis : Int)
deriving Repr, DecidableEq

/-- How far back a window without an offset starts to read, in milliseconds. -/
def lookBack : Int := 60000

namespace SourceKind

def startOf (now : Int) : Option String → ScanMode
  | some _ => .latest
  | none => .fromTimestamp (now - lookBack)

/-- A window with an offset reads on from the latest snapshot, one without looks back from now. -/
def scanMode (now : Int) : SourceKind → ScanMode
  | dataset | lookup _ => .latest
  | tumble _ _ offset | hop _ _ _ offset | cumulate _ _ _ offset => startOf now offset

end SourceKind

namespace Source

def parallelismOptions (s : Source) : List (String × String) :=
  [("scan.infer-parallelism", "false"), ("scan.parallelism", toString s.parallelism.toNat)]

def scanOptions (s : Source) (mode : ScanMode) : List (String × String) :=
  (match mode with
    | .latest => [("scan.mode", "latest")]
    | .fromTimestamp ms =>
      [("scan.mode", "from-timestamp"), ("scan.timestamp-millis", toString ms)])
    ++ ("continuous.discovery-interval", "500ms") :: s.parallelismOptions

def lookupOptions (s : Source) (cache : LookupCache) : List (String × String) :=
  s.parallelismOptions
    ++ [("lookup.cache-rows", toString cache.rows.toNat), ("lookup.cache-ttl", cache.ttl)]

def scan (catalog : String) (s : Source) (options : List (String × String)) : String :=
  "SELECT * FROM " ++ Sql.quoteIdent catalog ++ "." ++ Sql.quotePath s.dataset
    ++ " /*+ OPTIONS(" ++ Sql.renderOptions options ++ ") */"
    ++ (match s.filter with
      | some filter => " WHERE " ++ filter
      | none => "")

end Source

/-- A window function with its time column and its intervals as a document gives them. -/
structure Window where
  function : String
  timecol : String
  intervals : List String
deriving Repr, DecidableEq

def SourceKind.window? : SourceKind → Option Window
  | dataset | lookup _ => none
  | tumble timecol size offset => some ⟨"TUMBLE", timecol, size :: offset.toList⟩
  | hop timecol slide size offset => some ⟨"HOP", timecol, slide :: size :: offset.toList⟩
  | cumulate timecol step size offset =>
    some ⟨"CUMULATE", timecol, step :: size :: offset.toList⟩

def Window.apply (w : Window) (base : String) : String :=
  "SELECT * FROM TABLE(" ++ w.function ++ "((" ++ base ++ "), DESCRIPTOR("
    ++ Sql.quoteIdent w.timecol ++ "), " ++ Text.join ", " (w.intervals.map Sql.intervalExpr)
    ++ "))"

namespace Source

def scanText (catalog : String) (now : Int) (s : Source) : String :=
  match s.kind with
  | .lookup cache => s.scan catalog (s.lookupOptions cache)
  | kind => s.scan catalog (s.scanOptions (kind.scanMode now))

def viewBody (catalog : String) (now : Int) (s : Source) : String :=
  match s.kind.window? with
  | some w => w.apply (s.scanText catalog now)
  | none => s.scanText catalog now

/-- The statement that creates the view, at a time in milliseconds. -/
def viewStatement (catalog : String) (now : Int) (s : Source) : String :=
  "CREATE TEMPORARY VIEW " ++ Sql.quoteIdent s.name ++ " AS " ++ s.viewBody catalog now

end Source

end StreamPipeline
