import StreamPipeline.Text.Basic

/-! # Printouts

What a command leaves on the screen: the texts that it prints, and a complaint if it failed.
-/

namespace StreamPipeline.Command

/-- Why a command failed, with what it was doing where that is not clear from the cause. -/
structure Complaint where
  doing : Option String
  cause : String
deriving Repr, DecidableEq

namespace Complaint

/-- Every line of a text moved to the right. -/
def indented (text : String) : String :=
  Text.join "\n" ((Text.split '\n' text).map ("    " ++ ·))

def text (c : Complaint) : String :=
  match c.doing with
  | none => "Error: " ++ c.cause
  | some doing => "Error: " ++ doing ++ "\n\nCaused by:\n" ++ indented c.cause

end Complaint

structure Printout where
  texts : List String
  complaint : Option Complaint
deriving Repr, DecidableEq

def Printout.exitCode (p : Printout) : UInt32 := if p.complaint.isSome then 1 else 0

end StreamPipeline.Command
