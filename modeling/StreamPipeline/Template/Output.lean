import StreamPipeline.Template.Basic

/-! # Output

What a template has written so far. The lines of an insertion are indented: the indentation goes in
front of the first text of a line, and behind every line end inside a text. A part that writes
nothing leaves no trace.
-/

namespace StreamPipeline.Template

/-- What was written, newest first, the indentation of what follows, whether the last text ended a
line, whether the next text is to be indented, and whether the current part has written anything. -/
structure Output where
  written : List Char
  indent : String
  lineEnded : Bool
  indentNext : Bool
  produced : Bool

namespace Output

def empty : Output := ⟨[], "", false, false, false⟩

def toString (o : Output) : String := String.ofList o.written.reverse

/-- Indents what follows each line end; one at the very end is left alone. -/
def indented (indent : List Char) : List Char → List Char
  | [] => []
  | ['\n'] => ['\n']
  | '\n' :: c :: rest => '\n' :: (indent ++ indented indent (c :: rest))
  | c :: rest => c :: indented indent rest

theorem indented_nil (cs : List Char) : indented [] cs = cs := by
  fun_induction indented [] cs <;> simp_all

def write (s : String) (o : Output) : Output :=
  match s.toList with
  | [] => o
  | c :: rest =>
    let indent := o.indent.toList
    let lead := if o.indentNext && !isLineEnd c then indent else []
    let ended := isLineEnd ((c :: rest).getLast (List.cons_ne_nil c rest))
    { o with
      written := (lead ++ indented indent (c :: rest)).reverse ++ o.written
      lineEnded := ended
      indentNext := ended
      produced := true }

/-- Without indentation a text is written as it is. -/
theorem toString_write {o : Output} (h : o.indent = "") (s : String) :
    (o.write s).toString = o.toString ++ s := by
  cases hs : s.toList with
  | nil => simp_all [write, toString]
  | cons c rest =>
    have hr : String.ofList (c :: rest) = s := by rw [← hs, String.ofList_toList]
    simp [write, toString, h, indented_nil, ← hr]

/-- Starts a part whose tag may have a line of its own. -/
def startCall (ownLine : Bool) (o : Output) : Output :=
  { o with indentNext := o.indentNext || (ownLine && o.lineEnded), produced := false }

/-- Starts an insertion, which is indented by the blanks before its tag. -/
def startInsertion (m : Margin) (o : Output) : Output :=
  { o with
    indent := o.indent ++ m.indent
    indentNext := m.ownLine && (o.lineEnded || m.indent != "")
    produced := false }

/-- The end of a part that started from `before`. -/
def finish (o before : Output) : Output :=
  if o.produced then { o with indent := before.indent, indentNext := o.lineEnded }
  else
    { o with
      indent := before.indent
      indentNext := before.indentNext
      produced := before.produced }

end Output

end StreamPipeline.Template
