/-!
An error together with the circumstances in which it arose. A reader sees the outermost circumstance
first.
-/

namespace TokenAuthority

/-- An error and its circumstances, the innermost one first. -/
structure Report where
  cause : String
  contexts : List String
deriving DecidableEq

namespace Report

def ofCause (cause : String) : Report := ⟨cause, []⟩

def within (r : Report) (context : String) : Report :=
  { r with contexts := r.contexts ++ [context] }

/-- All messages, the outermost one first. -/
def messages (r : Report) : List String := r.contexts.reverse ++ [r.cause]

def headline (r : Report) : String := r.contexts.getLast?.getD r.cause

def chain (r : Report) : String := ": ".intercalate r.messages

end Report

end TokenAuthority
