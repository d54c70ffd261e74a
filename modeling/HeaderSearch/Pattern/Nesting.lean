/-
# Nesting

The parts of a pattern may be nested 250 deep. Parts that contain others count, and so do sets in
brackets; the first part that is too deep, from the outside in and from left to right, is the
mistake.
-/

import HeaderSearch.Pattern.Mistake
import HeaderSearch.Pattern.Written

namespace HeaderSearch.Pattern

def deepest : Nat := 250

/-- Go one level down, to a part with a span. -/
def deeper (depth : Nat) (span : Span) : Except Mistake Nat :=
  if depth < deepest then .ok (depth + 1) else .error ⟨.tooDeep, span, none⟩

mutual

def CharClass.checkNesting (depth : Nat) : CharClass → Except Mistake Unit
  | .bracketed span _ contents => do contents.checkNesting (← deeper depth span)
  | .union span members => do CharClass.checkAllNesting (← deeper depth span) members
  | .combined span _ left right => do
    let depth ← deeper depth span
    left.checkNesting depth
    right.checkNesting depth
  | _ => .ok ()

def CharClass.checkAllNesting (depth : Nat) : List CharClass → Except Mistake Unit
  | [] => .ok ()
  | set :: rest => do
    set.checkNesting depth
    CharClass.checkAllNesting depth rest

end

mutual

/-- Check the nesting of a pattern. -/
def Written.checkNesting (depth : Nat) : Written → Except Mistake Unit
  | .charClass set => set.checkNesting depth
  | .repeated span _ _ _ part => do part.checkNesting (← deeper depth span)
  | .group span _ part => do part.checkNesting (← deeper depth span)
  | .alternation span parts => do Written.checkAllNesting (← deeper depth span) parts
  | .sequence span parts => do Written.checkAllNesting (← deeper depth span) parts
  | _ => .ok ()

def Written.checkAllNesting (depth : Nat) : List Written → Except Mistake Unit
  | [] => .ok ()
  | part :: rest => do
    part.checkNesting depth
    Written.checkAllNesting depth rest

end

end HeaderSearch.Pattern
