import HomeCore.Devices.Registration
import HomeCore.Ranges

/-! The points of a chart: a numeric series reduced by largest triangles, one point out
of each bucket between the first and the last. -/
namespace HomeCore

/-- What is used of `f64` for the corners of a triangle. Nothing is asked of it: an
area may round, overflow or be no number. -/
structure TriangleArithmetic (F : Type) where
  cast : Rat → F
  add : F → F → F
  sub : F → F → F
  mul : F → F → F
  div : F → F → F
  abs : F → F
  greater : F → F → Bool

namespace Downsampling
variable {F : Type} (f : TriangleArithmetic F) (points : List HistoryEntry) (xs ys : List F)

def timestampMillis (time : DateTime) : Int := time / 1000000

/-- Buckets span everything between the fixed first and last points. -/
def bucket (target : Nat) : Rat := ((points.length - 2 : Nat) : Rat) / ((target - 2 : Nat) : Rat)

def start (target i : Nat) : Nat := ⌊(i : Rat) * bucket points target⌋₊ + 1

def finish (target i : Nat) : Nat :=
  min (⌊((i + 1 : Nat) : Rat) * bucket points target⌋₊ + 1) (points.length - 1)

def nextFinish (target i : Nat) : Nat :=
  min (⌊((i + 2 : Nat) : Rat) * bucket points target⌋₊ + 1) points.length

/-- One turn of the loop over the next bucket: its sums, and how many points it has. -/
def addPoint (sums : F × F × Nat) (j : Nat) : Option (F × F × Nat) := do
  let (avgX, avgY, n) := sums
  let x ← xs[j]?
  let y ← ys[j]?
  return (f.add avgX x, f.add avgY y, n + 1)

def area (a j : Nat) (avgX avgY : F) : Option F := do
  let xa ← xs[a]?
  let ya ← ys[a]?
  let xj ← xs[j]?
  let yj ← ys[j]?
  return f.abs (f.sub (f.mul (f.sub xa avgX) (f.sub yj ya)) (f.mul (f.sub xa xj) (f.sub avgY ya)))

/-- One turn of the loop over a bucket, on its best point and that point's area. -/
def compare (a : Nat) (avgX avgY : F) (best : Nat × F) (j : Nat) : Option (Nat × F) := do
  let area ← area f xs ys a j avgX avgY
  return if f.greater area best.2 then (j, area) else best

/-- One turn of the loop over the buckets, on `out` and `a`. -/
def visit (target : Nat) (done : List HistoryEntry × Nat) (i : Nat) :
    Option (List HistoryEntry × Nat) := do
  let (out, a) := done
  let start := start points target i
  let finish := finish points target i
  let (sumX, sumY, n) ← (List.range' finish (nextFinish points target i - finish)).foldlM
    (addPoint f xs ys) (f.cast 0, f.cast 0, 0)
  if n = 0 then return (out, a)
  let avgX := f.div sumX (f.cast n)
  let avgY := f.div sumY (f.cast n)
  let (best, _) ← (List.range' start (finish - start)).foldlM
    (compare f xs ys a avgX avgY) (start, f.cast (-1))
  let point ← points[best]?
  return (out ++ [point], best)

end Downsampling

open Downsampling in
/-- `none` where an index is out of range. -/
def downsample {F : Type} (f : TriangleArithmetic F) (points : List HistoryEntry) (target : Nat) :
    Option (List HistoryEntry) :=
  if target < 3 ∨ points.length ≤ target then some points
  else match points.mapM fun p => p.value.asF64 with
  | none => some points
  | some numeric => do
    let ys := numeric.map f.cast
    let xs := points.map fun p => f.cast (timestampMillis p.recordedAt)
    let first ← points[0]?
    let (out, _) ← (List.range' 0 (target - 2)).foldlM (visit f points xs ys target) ([first], 0)
    let last ← points[points.length - 1]?
    return out ++ [last]

namespace Downsampling
variable {F : Type} {f : TriangleArithmetic F} {points : List HistoryEntry} {xs ys : List F}
  {target : Nat}

/-! ## The bounds of a bucket -/

section Bounds
variable (enough : 3 ≤ target) (more : target < points.length)

/-- The first index of bucket `i`, as the buckets are cut. -/
def firstOf (points : List HistoryEntry) (target i : Nat) : Nat :=
  Ranges.cut (points.length - 2) (target - 2) i + 1

theorem start_eq (i : Nat) : start points target i = firstOf points target i := by
  rw [start, bucket, Ranges.floor_stride, firstOf]

include enough more

theorem firstOf_strictMono : StrictMono (firstOf points target) :=
  (Ranges.cut_strictMono (by omega) (by omega)).add_const 1

theorem firstOf_last : firstOf points target (target - 2) = points.length - 1 := by
  rw [firstOf, Ranges.cut_last (by omega)]
  omega

/-- No bucket is cut short. -/
theorem finish_eq {i : Nat} (within : i < target - 2) :
    finish points target i = firstOf points target (i + 1) := by
  have inside := (firstOf_strictMono enough more).monotone (show i + 1 ≤ target - 2 by omega)
  rw [firstOf_last enough more] at inside
  rw [finish, bucket, Ranges.floor_stride]
  exact Nat.min_eq_left inside

/-- The next bucket, which for the last of them is the last point, has a point. -/
theorem finish_lt_nextFinish {i : Nat} (within : i < target - 2) :
    finish points target i < nextFinish points target i := by
  have inside := (firstOf_strictMono enough more).monotone (show i + 1 ≤ target - 2 by omega)
  have longer := firstOf_strictMono enough more (Nat.lt_succ_self (i + 1))
  rw [firstOf_last enough more] at inside
  rw [finish_eq enough more within, nextFinish, bucket, Ranges.floor_stride]
  exact Nat.lt_min.mpr ⟨longer, by omega⟩

end Bounds

/-! ## The loops -/

section Loops
variable (xsLength : xs.length = points.length) (ysLength : ys.length = points.length)
include xsLength ysLength

theorem addPoint_run (first : Nat) {last : Nat} (within : last ≤ points.length) (sums : F × F × Nat) :
    ∃ after, (List.range' first (last - first)).foldlM (addPoint f xs ys) sums = some after ∧
      after.2.2 = sums.2.2 + (last - first) := by
  obtain ⟨after, ran, counted⟩ := Ranges.foldlM_range' (addPoint f xs ys)
    (fun j s => s.2.2 + first = sums.2.2 + j) first (last - first) sums rfl (by
      intro j s _ before counted
      have inXs : j < xs.length := by omega
      have inYs : j < ys.length := by omega
      refine ⟨(f.add s.1 xs[j], f.add s.2.1 ys[j], s.2.2 + 1), ?_, ?_⟩
      · simp [addPoint, List.getElem?_eq_getElem inXs, List.getElem?_eq_getElem inYs]
      · change s.2.2 + 1 + first = sums.2.2 + (j + 1)
        omega)
  exact ⟨after, ran, by omega⟩

theorem compare_run {a first last : Nat} (aWithin : a < points.length) (some_ : first < last)
    (within : last ≤ points.length) (avgX avgY least : F) :
    ∃ best, (List.range' first (last - first)).foldlM (compare f xs ys a avgX avgY) (first, least) =
      some best ∧ first ≤ best.1 ∧ best.1 < last := by
  obtain ⟨best, ran, isIn⟩ := Ranges.foldlM_range' (compare f xs ys a avgX avgY)
    (fun _ s => first ≤ s.1 ∧ s.1 < last) first (last - first) (first, least) ⟨Nat.le_refl first, some_⟩ (by
      intro j s after before isIn
      have aInXs : a < xs.length := by omega
      have aInYs : a < ys.length := by omega
      have inXs : j < xs.length := by omega
      have inYs : j < ys.length := by omega
      simp only [compare, area, List.getElem?_eq_getElem, aInXs, aInYs, inXs, inYs, Option.bind_eq_bind,
        Option.bind_some, Option.pure_def]
      refine ⟨_, rfl, ?_⟩
      split
      · exact ⟨after, by omega⟩
      · exact isIn)
  exact ⟨best, ran, isIn⟩

end Loops

section Visits
variable (xsLength : xs.length = points.length) (ysLength : ys.length = points.length)
  (enough : 3 ≤ target) (more : target < points.length)
include xsLength ysLength enough more

/-- A turn of the outer loop appends a point of its bucket. -/
theorem visit_step (out : List HistoryEntry) {a i : Nat} (within : i < target - 2)
    (aWithin : a < points.length) :
    ∃ best point, visit f points xs ys target (out, a) i = some (out ++ [point], best) ∧
      points[best]? = some point ∧ firstOf points target i ≤ best ∧ best < firstOf points target (i + 1) := by
  have nextWithin : nextFinish points target i ≤ points.length := Nat.min_le_right _ _
  have someNext := finish_lt_nextFinish enough more within
  obtain ⟨⟨sumX, sumY, n⟩, summed, counted⟩ :=
    addPoint_run (f := f) xsLength ysLength (finish points target i) nextWithin (f.cast 0, f.cast 0, 0)
  have counts : n ≠ 0 := by
    simp only at counted
    omega
  have someHere : start points target i < finish points target i := by
    rw [start_eq, finish_eq enough more within]
    exact firstOf_strictMono enough more (Nat.lt_succ_self i)
  obtain ⟨⟨best, bestArea⟩, compared, after, before⟩ := compare_run (f := f) xsLength ysLength aWithin
    someHere (by omega) (f.div sumX (f.cast n)) (f.div sumY (f.cast n)) (f.cast (-1))
  have found : points[best]? = some points[best] := List.getElem?_eq_getElem (by omega)
  refine ⟨best, points[best], ?_, found, ?_, ?_⟩
  · simp [visit, summed, counts, compared, found]
  · rwa [← start_eq]
  · rwa [← finish_eq enough more within]

/-- The outer loop keeps one point out of each bucket, in order. -/
theorem visits (first : HistoryEntry) (isFirst : points[0]? = some first) :
    ∃ out a picks, (List.range' 0 (target - 2)).foldlM (visit f points xs ys target) ([first], 0) =
        some (out, a) ∧
      out.map some = (0 :: picks).map (points[·]?) ∧ picks.length = target - 2 ∧
      Ranges.Picked (firstOf points target) picks := by
  obtain ⟨⟨out, a⟩, ran, picks, _, kept, counted, picked⟩ := Ranges.foldlM_range'
    (visit f points xs ys target)
    (fun i s => ∃ picks, s.2 < points.length ∧ s.1.map some = (0 :: picks).map (points[·]?) ∧
      picks.length = i ∧ Ranges.Picked (firstOf points target) picks)
    0 (target - 2) ([first], 0)
    ⟨[], by omega, by simp [isFirst], rfl, Ranges.Picked.nil⟩ (by
      rintro i ⟨out, a⟩ _ before ⟨picks, aWithin, kept, counted, picked⟩
      obtain ⟨best, point, visited, found, after, within⟩ := visit_step (f := f)
        xsLength ysLength enough more out (show i < target - 2 by omega) aWithin
      refine ⟨_, visited, picks ++ [best], (List.getElem?_eq_some_iff.mp found).1, ?_, ?_, ?_⟩
      · simp only [List.map_append, kept, List.map_cons, List.map_nil, found, List.cons_append]
      · rw [List.length_append, counted, List.length_singleton]
      · exact picked.concat (counted.symm ▸ after) (counted.symm ▸ within))
  exact ⟨out, a, picks, ran, kept, by omega, picked⟩

end Visits

/-- The indices that are kept: the first, one out of each bucket, and the last. The
buckets lie one after another between them. -/
structure Frame (points : List HistoryEntry) (target : Nat) (kept : List Nat) : Prop where
  length : kept.length = target
  increasing : kept.Pairwise (· < ·)
  first : kept.head? = some 0
  last : kept.getLast? = some (points.length - 1)
  buckets : start points target 0 = 1 ∧ start points target (target - 2) = points.length - 1
  once : ∀ i < target - 2,
    ∃! j, j ∈ kept ∧ start points target i ≤ j ∧ j < start points target (i + 1)

theorem frame_of_picked {picks : List Nat} (enough : 3 ≤ target) (more : target < points.length)
    (counted : picks.length = target - 2) (picked : Ranges.Picked (firstOf points target) picks) :
    Frame points target (0 :: picks ++ [points.length - 1]) := by
  have increases := firstOf_strictMono enough more
  have ends := firstOf_last enough more
  have afterFirst {j : Nat} (member : j ∈ picks) : 0 < j :=
    (Nat.succ_pos _).trans_le (picked.first_le increases member)
  have beforeLast {j : Nat} (member : j ∈ picks) : j < points.length - 1 := by
    have before := picked.lt_end increases member
    rwa [counted, ends] at before
  refine ⟨?_, ?_, rfl, ?_, ⟨?_, ?_⟩, ?_⟩
  · simp
    omega
  · rw [List.cons_append, List.pairwise_cons, List.pairwise_append]
    refine ⟨?_, picked.increasing increases, List.pairwise_singleton _ _, ?_⟩
    · intro j member
      rcases List.mem_append.mp member with inside | isLast
      · exact afterFirst inside
      · rw [List.mem_singleton.mp isLast]
        omega
    · intro j member last isLast
      rw [List.mem_singleton.mp isLast]
      exact beforeLast member
  · exact List.getLast?_concat
  · rw [start_eq, firstOf, Ranges.cut_zero]
  · rw [start_eq, ends]
  · intro i within
    have laterStart := increases.monotone (show i + 1 ≤ target - 2 by omega)
    rw [ends] at laterStart
    obtain ⟨j, ⟨member, after, before⟩, unique⟩ := picked.once increases (counted.symm ▸ within)
    rw [start_eq, start_eq]
    refine ⟨j, ⟨by simp [member], after, before⟩, ?_⟩
    rintro other ⟨otherMember, otherAfter, otherBefore⟩
    refine unique other ⟨?_, otherAfter, otherBefore⟩
    -- the first and the last point are in no bucket
    rw [List.cons_append, List.mem_cons, List.mem_append, List.mem_singleton] at otherMember
    rcases otherMember with isFirst | inside | isLast
    · rw [firstOf] at otherAfter
      omega
    · exact inside
    · omega

/-- A numeric series longer than its target is reduced to exactly that many of its points. -/
theorem downsample_keeps_frame (numeric : ∀ p ∈ points, p.value.asF64.isSome) (enough : 3 ≤ target)
    (more : target < points.length) :
    ∃ out kept, downsample f points target = some out ∧ out.map some = kept.map (points[·]?) ∧
      Frame points target kept := by
  obtain ⟨values, read, valuesLength⟩ := Ranges.mapM_some numeric
  have ysLength : (values.map f.cast).length = points.length := by rw [List.length_map, valuesLength]
  have isFirst : points[0]? = some points[0] := List.getElem?_eq_getElem (by omega)
  have isLast : points[points.length - 1]? = some points[points.length - 1] :=
    List.getElem?_eq_getElem (by omega)
  have xsLength : (points.map fun p => f.cast (timestampMillis p.recordedAt)).length = points.length :=
    List.length_map _
  obtain ⟨out, a, picks, ran, kept, counted, picked⟩ :=
    visits (f := f) xsLength ysLength enough more points[0] isFirst
  refine ⟨out ++ [points[points.length - 1]], 0 :: picks ++ [points.length - 1], ?_, ?_,
    frame_of_picked enough more counted picked⟩
  · have thins : ¬ (target < 3 ∨ points.length ≤ target) := by omega
    rw [downsample, if_neg thins, read]
    simp [isFirst, ran, isLast]
  · rw [List.map_append, kept, List.map_append, List.map_singleton, List.map_singleton, isLast]

/-- Ten readings down to five, one out of each of three buckets that are not of one size. The areas are
in exact arithmetic. -/
theorem ten_readings_keep_frame :
    let readings : List HistoryEntry := [70, 71, 119, 70, 68, 90, 91, 40, 72, 70].zipIdx.map fun reading =>
      ⟨"sensor", "temperature", .num (.posInt reading.1), 60 * reading.2⟩
    let exact : TriangleArithmetic Rat := ⟨id, (· + ·), (· - ·), (· * ·), (· / ·), abs, (decide <| · > ·)⟩
    ∃ out kept, downsample exact readings 5 = some out ∧ out.map some = kept.map (readings[·]?) ∧
      Frame readings 5 kept :=
  downsample_keeps_frame (by decide) (by decide) (by decide)

end Downsampling
end HomeCore
