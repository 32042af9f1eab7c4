-- The options of a run, and settings that are applied one after the other.

namespace LS8

structure Options where
  /-- The limit on the clock. -/
  limit : Option Nat := none
  /-- Whether the run is traced. -/
  trace : Bool := false
  deriving DecidableEq

inductive Setting
  | limit (n : Nat)
  | trace (on : Bool)
  deriving DecidableEq

namespace Options

def set (o : Options) : Setting → Options
  | .limit n => { o with limit := some n }
  | .trace on => { o with trace := on }

/-- Applies the settings in order, so of two settings of one option the later counts. -/
def setAll (o : Options) (settings : List Setting) : Options := settings.foldl set o

end Options

end LS8
