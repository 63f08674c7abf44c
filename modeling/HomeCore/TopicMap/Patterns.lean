import HomeCore.TopicMap.Router
import HomeCore.Slices

/-! Patterns as they are written, and as their texts are cut: at byte offsets, where a slice
that is out of order or off a character boundary panics. -/
namespace HomeCore.TopicMap
open Slices

/-! ## Cutting -/

/-- `parse_pattern` on one segment; without a result where a slice panics. -/
def cutSegment (segment : Text) : Option Segment :=
  match find? openingBrace segment, find? closingBrace segment with
  | some first, some last =>
    if first < last then do
      let before ← slice? segment 0 first
      let name ← slice? segment (first + 1) last
      let after ← back? segment (last + 1)
      if before.isEmpty && after.isEmpty then return .capture (String.ofList name)
      else return .partialCapture before (String.ofList name) after
    else some (.literal segment)
  | _, _ => some (.literal segment)

def cutPattern (pattern : Text) : Option (List Segment) := (pattern.splitOn '/').mapM cutSegment

/-- The loop of `match_segments`. -/
def cutParts (vars : Vars) : List Segment → List Text → TopicMatch
  | .literal text :: segments, part :: parts =>
    if text = part then cutParts vars segments parts else .unmatched
  | .capture name :: segments, part :: parts => cutParts (vars.insert name part) segments parts
  | .partialCapture before name after :: segments, part :: parts =>
    if before.isPrefixOf part && after.isSuffixOf part then
      -- a suffix is no longer than what ends with it, so this subtraction is in range
      let innerEnd := bytes part - bytes after
      match slice? part (bytes before) innerEnd with
      | some value => cutParts (vars.insert name value) segments parts
      | none => .panicked
    else .unmatched
  | _, _ => .matched vars

/-- `match_segments` of `parse_pattern`. -/
def matchPattern (pattern topic : Text) : TopicMatch :=
  match cutPattern pattern with
  | none => .panicked
  | some segments =>
    let parts := topic.splitOn '/'
    if parts.length ≠ segments.length then .unmatched else cutParts ∅ segments parts

/-! ## Writing -/

/-- A segment of literal text, or of one variable with literal text around it. -/
inductive Written where
  | literal (text : Text)
  | named (before : Text) (name : String) (after : Text)
  deriving DecidableEq

namespace Written

def text : Written → Text
  | literal text => text
  | named before name after => before ++ placeholder name ++ after

def name? : Written → Option String
  | literal _ => none
  | named _ name _ => some name

def fill (values : String → Text) : Written → Text
  | literal text => text
  | named before name after => before ++ values name ++ after

/-- Literal text holds no variable; what comes before a variable opens none, and its name ends
with the brace that closes it. -/
def Plain : Written → Prop
  | literal text => '/' ∉ text ∧
      ∀ front name back, text ≠ front ++ openingBrace :: name ++ closingBrace :: back
  | named before name after =>
      '/' ∉ before ∧ '/' ∉ name.toList ∧ '/' ∉ after ∧
      openingBrace ∉ before ∧ closingBrace ∉ name.toList

/-- What comes before the variable closes none. -/
def Readable : Written → Prop
  | literal _ => True
  | named before _ _ => closingBrace ∉ before

end Written

structure Pattern where
  segments : List Written
  nonempty : segments ≠ []
  plain : ∀ segment ∈ segments, segment.Plain
  distinct : (segments.filterMap Written.name?).Nodup

namespace Pattern

def text (pattern : Pattern) : Text := List.intercalate ['/'] (pattern.segments.map Written.text)

def names (pattern : Pattern) : List String := pattern.segments.filterMap Written.name?

/-- The topic is the pattern with its variables replaced. -/
def Instance (pattern : Pattern) (values : String → Text) (topic : Text) : Prop :=
  (∀ name ∈ pattern.names, '/' ∉ values name) ∧
    topic = List.intercalate ['/'] (pattern.segments.map (Written.fill values))

/-- The pattern matches the topic as its instance, capturing what replaces the variables. -/
def MatchesExactly (pattern : Pattern) (topic : Text) : Prop :=
  match matchPattern pattern.text topic with
  | .matched vars => ∃ values, pattern.Instance values topic ∧
      ∀ name : String, vars[name]? = if name ∈ pattern.names then some (values name) else none
  | .unmatched => ∀ values, ¬ pattern.Instance values topic
  | .panicked => False

end Pattern

/-! ## Where a slice is out of order -/

namespace Written

/-- The part starts and ends as the segment does, and is too short to do both. -/
def Overlaps (part : Text) : Written → Prop
  | literal _ => False
  | named before _ after => closingBrace ∉ before ∧ before <+: part ∧ after <:+ part ∧
      part.length < before.length + after.length

/-- The part is the segment's text, or has something in place of the variable. -/
def Takes (part : Text) : Written → Prop
  | literal text => part = text
  | named before name after =>
      if closingBrace ∈ before then part = (named before name after).text
      else ∃ value, part = before ++ value ++ after

end Written

/-- A part overlaps its segment, and every part before is taken by its own. -/
def OverlapReached : List Written → List Text → Prop
  | segment :: segments, part :: parts =>
      segment.Overlaps part ∨ segment.Takes part ∧ OverlapReached segments parts
  | _, _ => False

end HomeCore.TopicMap
