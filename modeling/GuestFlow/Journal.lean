import GuestFlow.Fault

/-!
# The journal

While it works, the library keeps a journal of what it does: short lines, each with a
weight.  Operations return the lines they add, in order; whoever calls them decides
which weights to show.
-/

set_option autoImplicit false

namespace GuestFlow

/-- How much a line of the journal weighs. -/
inductive Weight where
  | debug
  | info
  | warning
  | error
  deriving DecidableEq, Repr

/-- The rank of a weight on the usual scale of ten. -/
def Weight.rank : Weight → Nat
  | .debug => 10
  | .info => 20
  | .warning => 30
  | .error => 40

def Weight.name : Weight → String
  | .debug => "DEBUG"
  | .info => "INFO"
  | .warning => "WARNING"
  | .error => "ERROR"

/-- A line of the journal. -/
structure Remark where
  weight : Weight
  text : String
  deriving DecidableEq, Repr

abbrev Journal := List Remark

namespace Journal

/-- The lines of at least a given rank. -/
def fromRank (journal : Journal) (rank : Nat) : Journal :=
  journal.filter fun remark => rank ≤ remark.weight.rank

end Journal

def Remark.debug (text : String) : Remark := ⟨.debug, text⟩

def Remark.info (text : String) : Remark := ⟨.info, text⟩

def Remark.warning (text : String) : Remark := ⟨.warning, text⟩

def Remark.error (text : String) : Remark := ⟨.error, text⟩

/-- What the journal gains, together with a result or the fault that took its place. -/
abbrev Logged (α : Type) := Journal × Except Fault α

end GuestFlow
