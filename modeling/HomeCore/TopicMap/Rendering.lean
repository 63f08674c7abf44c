import HomeCore.TopicMap.Router

/-! Templates as pieces: characters, and placeholders of names. Names are replaced one after
another in a text that holds the values of those before, so what is replaced need not be a
placeholder of the template. -/
namespace HomeCore.TopicMap

inductive Piece where
  | char (c : Char)
  | named (name : String)
  deriving DecidableEq

namespace Piece

def text : Piece → Text
  | char c => [c]
  | named name => placeholder name

/-- The piece once the names of `filled` are replaced; a name without a value is left. -/
def fill (vars : Vars) (filled : List String) : Piece → Text
  | char c => [c]
  | named name => if name ∈ filled then vars[name]?.getD (placeholder name) else placeholder name

end Piece

def templateText (pieces : List Piece) : Text := pieces.flatMap Piece.text

def partlyFilled (vars : Vars) (filled : List String) (pieces : List Piece) : Text :=
  pieces.flatMap (Piece.fill vars filled)

/-- Every placeholder replaced at once. -/
def filledIn (vars : Vars) (pieces : List Piece) : Text := partlyFilled vars vars.keys pieces

/-- A placeholder of the name stands only where the pieces have it. -/
def StandsOwn (vars : Vars) (filled : List String) (pieces : List Piece) (name : String) : Prop :=
  ∀ front back, partlyFilled vars filled pieces = front ++ placeholder name ++ back →
    ∃ before after, pieces = before ++ .named name :: after ∧ partlyFilled vars filled before = front

/-- Whichever names are replaced already, a placeholder of another one stands only where the
pieces have it. One that is its own value may stand anywhere. -/
def OwnPlaceholders (vars : Vars) (pieces : List Piece) : Prop :=
  ∀ (filled : List String) (name : String) (value : Text), name ∉ filled →
    vars[name]? = some value → value ≠ placeholder name → StandsOwn vars filled pieces name

/-- The loop of `render_template`, over what the map lists. -/
def replaceEach (entries : List (String × Text)) (text : Text) : Text :=
  entries.foldl (fun text entry => replaceFrom (placeholder entry.1) entry.2 0 text) text

/-- In some order of the map, what is replaced first is right, and then a placeholder is replaced
that is not the template's. -/
def ReplacesOther (vars : Vars) (pieces : List Piece) : Prop :=
  ∃ (hash : HashOrder) (done rest : List (String × Text)) (name : String) (value : Text),
    hash.order vars.toList = done ++ (name, value) :: rest ∧ value ≠ placeholder name ∧
      replaceEach done (templateText pieces) = partlyFilled vars (done.map Prod.fst) pieces ∧
      ¬ StandsOwn vars (done.map Prod.fst) pieces name

/-- The text is the same whatever the order of the map. -/
def OrderFree (template : Text) (vars : Vars) : Prop :=
  ∀ hash other : HashOrder, renderTemplate hash template vars = renderTemplate other template vars

/-! ## Patterns as templates -/

def Segment.pieces : Segment → List Piece
  | literal text => text.map .char
  | capture name => [.named name]
  | partialCapture before name after => before.map .char ++ .named name :: after.map .char

def patternPieces (pattern : Text) : List Piece :=
  List.intercalate [.char '/'] ((parsePattern pattern).map Segment.pieces)

/-- The topic is the pattern with one value for each name. -/
def OneValueEach (pattern topic : Text) : Prop :=
  ∃ values : Vars, (∀ (name : String) (value : Text), values[name]? = some value → '/' ∉ value) ∧
    fillPattern (parsePattern pattern) values = some topic

end HomeCore.TopicMap
