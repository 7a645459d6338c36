import Toolbench.Url.Parser

/-!
# The depth of a path

How many segments a path keeps depends on what each written segment does: climb, stay, or
go down by a name. A name that looks like a drive is never climbed out of.
-/

namespace Toolbench

namespace Url

/-- What a written segment does. -/
inductive Step where
  | climb
  | stay
  | descend (isDrive : Bool)
deriving DecidableEq

/-- What a segment does as it is written. -/
def stepOf (segment : List Char) : Step :=
  if isDoubleDot segment then .climb
  else if isSingleDot segment then .stay
  else .descend (startsWithDrive (encoded staysInPath segment).toList)

/-- The way back to the last place that is not fixed by a drive. -/
def climbFrom : List Bool → List Bool
  | [] => []
  | isDrive :: before => if isDrive then isDrive :: before else before

/-- Follows steps; `before` tells of the segments so far, the last one first, which are
drives. A path that ends without a name ends with an empty one. -/
def follow (before : List Bool) : List Step → List Bool
  | [] => before
  | .climb :: rest =>
      let before := climbFrom before
      follow (if rest.isEmpty then false :: before else before) rest
  | .stay :: rest => follow (if rest.isEmpty then false :: before else before) rest
  | .descend isDrive :: rest => follow (isDrive :: before) rest

/-- How many segments remain of written ones. -/
def depth (segments : List (List Char)) : Nat :=
  (follow [] (segments.map stepOf)).length

/-- Which segments are drives. -/
def drives (names : List String) : List Bool :=
  names.map fun name => startsWithDrive name.toList

theorem drives_dropSegment (names : List String) :
    drives (dropSegment names) = climbFrom (drives names) := by
  cases names with
  | nil => rfl
  | cons name before =>
      unfold dropSegment drives climbFrom
      cases hdrive : startsWithDrive name.toList <;> simp [hdrive]

theorem drives_close (isLast : Bool) (names : List String) :
    drives (if isLast then "" :: names else names) =
      if isLast then false :: drives names else drives names := by
  cases isLast <;> rfl

theorem length_resolve (before : List String) (segments : List (List Char)) :
    (resolve false before segments).length =
      (follow (drives before) (segments.map stepOf)).length := by
  induction segments generalizing before with
  | nil =>
      simp [resolve, follow, drives]
  | cons segment rest ih =>
      have hlast : (rest.map stepOf).isEmpty = rest.isEmpty := by
        cases rest <;> rfl
      unfold resolve
      rw [List.map_cons]
      cases hdouble : isDoubleDot segment with
      | true =>
          have hstep : stepOf segment = .climb := by
            simp [stepOf, hdouble]
          simp only [hstep, follow, hlast, if_true, ih, drives_close, drives_dropSegment]
      | false =>
          cases hsingle : isSingleDot segment with
          | true =>
              have hstep : stepOf segment = .stay := by
                simp [stepOf, hdouble, hsingle]
              simp only [hstep, follow, hlast, if_true, ih, drives_close, Bool.false_eq_true,
                if_false]
          | false =>
              have hstep : stepOf segment =
                  .descend (startsWithDrive (encoded staysInPath segment).toList) := by
                simp [stepOf, hdouble, hsingle]
              simp only [hstep, follow, ih, Bool.false_eq_true, if_false]
              rfl

theorem length_resolve_nil (segments : List (List Char)) :
    (resolve false [] segments).length = depth segments :=
  length_resolve [] segments

theorem depth_congr {left right : List (List Char)}
    (hsteps : left.map stepOf = right.map stepOf) :
    depth left = depth right := by
  rw [depth, depth, hsteps]

end Url

end Toolbench
