import AsmDispatch.Text.Basic

/-! # Paths -/

namespace AsmDispatch.Path

/-- Whether a text can be a path at all. A null character ends a path, so it cannot be part of
one. -/
def isPath (p : Text) : Bool := !p.contains '\x00'

/-- Slashes in front: one, or exactly two, which stay two. -/
def root : Text → Text
  | '/' :: '/' :: '/' :: _ => ['/']
  | '/' :: '/' :: _ => ['/', '/']
  | '/' :: _ => ['/']
  | _ => []

def components (p : Text) : List Text := (Text.pieces '/' p).filter (· ≠ [])

/-- A path without repeated slashes, single dots and a slash at the end. -/
def normalize (p : Text) : Text :=
  match root p ++ Text.join ['/'] ((components p).filter (· ≠ ['.'])) with
  | [] => ['.']
  | p => p

end AsmDispatch.Path
