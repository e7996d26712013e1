import PatternTemplate.Proofs.Template.Text

/-!
# The pieces of a template

A template written out is a tree again, and in the tree a marker is a character like any other. The
pieces of an outline (`Outline.pieces`) are what its characters were before a mode was chosen:
characters of the pattern, holes, and the two ends of sections, in document order. The characters of
the tree in a mode are those that the pieces have in it (`Regex.characters_reduce`), and so are the
texts (`Regex.render_eq_join`).

A class is matched and not shown, but it stays in the tree. Whether its items count is a parameter.
-/

namespace PatternTemplate

/-- What a character of a template comes from. -/
inductive Piece where
  /-- A character of the pattern. -/
  | literal (character : Character)
  /-- The place of a capturing group. -/
  | hole (identity : String)
  /-- The beginning of a section. -/
  | opening (identity : String)
  /-- The end of a section. -/
  | closing (identity : String)
  deriving DecidableEq, Repr

namespace Piece

def isMarker : Piece → Bool
  | opening _ | closing _ => true
  | _ => false

def isLeaf (piece : Piece) : Bool :=
  !piece.isMarker

def isHole : Piece → Bool
  | hole _ => true
  | _ => false

def character? (mode : Mode) : Piece → Option Character
  | literal c => some c
  | hole identity => some (.placeholder (mode.placeholder identity))
  | opening identity => (mode.markers? identity).map fun markers => .placeholder markers.1
  | closing identity => (mode.markers? identity).map fun markers => .placeholder markers.2

def text : Mode → Piece → String
  | _, literal c => c.text
  | .mustache, hole identity => Mode.tag identity
  | .mustache, opening identity => Mode.tag ("#" ++ identity)
  | .mustache, closing identity => Mode.tag ("/" ++ identity)
  | .plain, hole identity => identity
  | .plain, opening _ | .plain, closing _ => ""

theorem text_eq_getD (mode : Mode) (piece : Piece) :
    piece.text mode = ((piece.character? mode).map Character.text).getD "" := by
  cases mode <;> cases piece <;> rfl

def enclose : Option String → List Piece → List Piece
  | none, pieces => pieces
  | some identity, pieces => opening identity :: pieces ++ [closing identity]

@[simp] theorem enclose_none (pieces : List Piece) : enclose none pieces = pieces := rfl

@[simp] theorem enclose_some (identity : String) (pieces : List Piece) :
    enclose (some identity) pieces = opening identity :: pieces ++ [closing identity] := rfl

end Piece

namespace Outline

mutual

/-- The pieces of an outline in document order, with those in classes or without. -/
def pieces (inClasses : Bool) : Outline → List Piece
  | char c => [.literal c]
  | hole identity => [.hole identity]
  | backreference _ => []
  | group body => piecesOption inClasses body
  | repetition body _ => pieces inClasses body
  | row heading parts => Piece.enclose heading (piecesList inClasses parts)
  | characterClass items => if inClasses then piecesList inClasses items else []

def piecesOption (inClasses : Bool) : Option Outline → List Piece
  | none => []
  | some outline => pieces inClasses outline

def piecesList (inClasses : Bool) : List Outline → List Piece
  | [] => []
  | outline :: outlines => pieces inClasses outline ++ piecesList inClasses outlines

end

@[simp] theorem piecesList_nil (inClasses : Bool) : piecesList inClasses [] = [] := rfl

@[simp] theorem piecesList_cons (inClasses : Bool) (outline : Outline) (outlines : List Outline) :
    piecesList inClasses (outline :: outlines) =
      pieces inClasses outline ++ piecesList inClasses outlines := rfl

@[simp] theorem piecesList_append (inClasses : Bool) (front back : List Outline) :
    piecesList inClasses (front ++ back) =
      piecesList inClasses front ++ piecesList inClasses back := by
  induction front with
  | nil => rfl
  | cons outline outlines ih => simp [ih]

@[simp] theorem piecesList_toList (inClasses : Bool) (outline : Option Outline) :
    piecesList inClasses outline.toList = piecesOption inClasses outline := by
  cases outline with
  | none => rfl
  | some outline => simp [piecesOption]

@[simp] theorem piecesOption_repetition (inClasses : Bool) (outline : Option Outline)
    (quantifier : Quantifier) :
    piecesOption inClasses (outline.map (.repetition · quantifier)) =
      piecesOption inClasses outline := by
  cases outline <;> rfl

end Outline

namespace Node

def character? : Node → Option Character
  | char c => some c
  | _ => none

def isEntered (inClasses : Bool) (node : Node) : Bool :=
  inClasses || node.isShown

end Node

/-- The characters of a regular expression in document order, with those in classes and assertions
or only those that are shown. -/
def Regex.characters (inClasses : Bool) (regex : Regex) : List Character :=
  (Node.walkOption (Node.isEntered inClasses) regex.body).filterMap Node.character?

def Regex.pieces (inClasses : Bool) (regex : Regex) : List Piece :=
  Outline.piecesOption inClasses regex.outline.1

section Written

open Node

variable (inClasses : Bool) (mode : Mode)

private theorem filterMap_walkList_frame (heading : Option String) (parts : List Node) :
    (walkList (isEntered inClasses) (mode.frame heading parts)).filterMap character? =
      match heading.bind mode.markers? with
      | some (first, last) =>
        .placeholder first ::
          (walkList (isEntered inClasses) parts).filterMap character? ++ [.placeholder last]
      | none => (walkList (isEntered inClasses) parts).filterMap character? := by
  unfold Mode.frame
  cases heading.bind mode.markers? with
  | none => rfl
  | some markers => simp [walkList_append, walk, character?]

private theorem filterMap_enclose (heading : Option String) (pieces : List Piece) :
    (Piece.enclose heading pieces).filterMap (Piece.character? mode) =
      match heading.bind mode.markers? with
      | some (first, last) =>
        .placeholder first :: pieces.filterMap (Piece.character? mode) ++ [.placeholder last]
      | none => pieces.filterMap (Piece.character? mode) := by
  cases heading with
  | none => rfl
  | some identity =>
      cases h : mode.markers? identity <;> simp [Piece.character?, h]

mutual

/-- An outline written out has the characters of its pieces. -/
theorem filterMap_walk_node (outline : Outline) :
    (walk (isEntered inClasses) (outline.node mode)).filterMap character? =
      (outline.pieces inClasses).filterMap (Piece.character? mode) := by
  match outline with
  | .char c => simp [Outline.node, Outline.pieces, walk, character?, Piece.character?]
  | .hole identity => simp [Outline.node, Outline.pieces, walk, character?, Piece.character?]
  | .backreference target => simp [Outline.node, Outline.pieces, walk, character?]
  | .group body =>
      have hbody := filterMap_walkOption_nodeOption body
      simpa [Outline.node, Outline.pieces, walk, List.filterMap_cons, character?, isEntered,
        isShown] using hbody
  | .repetition body quantifier =>
      have hbody := filterMap_walk_node body
      simpa [Outline.node, Outline.pieces, walk, List.filterMap_cons, character?, isEntered,
        isShown] using hbody
  | .row heading parts =>
      have hparts := filterMap_walkList_nodes parts
      have hwalk := filterMap_walkList_frame inClasses mode heading (Outline.nodes mode parts)
      rw [hparts, ← filterMap_enclose] at hwalk
      simpa [Outline.node, Outline.pieces, walk, List.filterMap_cons, character?, isEntered,
        isShown] using hwalk
  | .characterClass items =>
      have hitems := filterMap_walkList_nodes items
      cases inClasses with
      | false => simp [Outline.node, Outline.pieces, walk, character?, isEntered, isShown]
      | true =>
          simpa [Outline.node, Outline.pieces, walk, List.filterMap_cons, character?,
            isEntered] using hitems

theorem filterMap_walkOption_nodeOption (outline : Option Outline) :
    (walkOption (isEntered inClasses) (Outline.nodeOption mode outline)).filterMap character? =
      (Outline.piecesOption inClasses outline).filterMap (Piece.character? mode) := by
  match outline with
  | none => rfl
  | some outline => exact filterMap_walk_node outline

theorem filterMap_walkList_nodes (outlines : List Outline) :
    (walkList (isEntered inClasses) (Outline.nodes mode outlines)).filterMap character? =
      (Outline.piecesList inClasses outlines).filterMap (Piece.character? mode) := by
  match outlines with
  | [] => rfl
  | outline :: outlines =>
      have hfirst := filterMap_walk_node outline
      have hothers := filterMap_walkList_nodes outlines
      rw [Outline.nodes, walkList_cons, Outline.piecesList_cons, List.filterMap_append,
        List.filterMap_append, hfirst, hothers]

end

end Written

theorem Regex.characters_reduce (inClasses : Bool) (mode : Mode) (regex : Regex) :
    (regex.reduce mode).characters inClasses =
      (regex.pieces inClasses).filterMap (Piece.character? mode) :=
  filterMap_walkOption_nodeOption inClasses mode regex.outline.1

private theorem join_ownText (nodes : List Node) :
    String.join (nodes.map Node.ownText) =
      String.join ((nodes.filterMap Node.character?).map Character.text) := by
  induction nodes with
  | nil => rfl
  | cons node nodes ih =>
      cases node <;> simp [Node.ownText, Node.character?, List.filterMap_cons, ih]

private theorem join_text (mode : Mode) (pieces : List Piece) :
    String.join ((pieces.filterMap (Piece.character? mode)).map Character.text) =
      String.join (pieces.map (Piece.text mode)) := by
  induction pieces with
  | nil => rfl
  | cons piece pieces ih =>
      cases h : piece.character? mode <;> simp [h, Piece.text_eq_getD, ih]

theorem Regex.text_eq_join (regex : Regex) :
    regex.text = String.join ((regex.characters false).map Character.text) := by
  have hentered : Node.isEntered false = Node.isShown := rfl
  rw [Regex.text, Regex.characters, hentered, ← join_ownText]
  cases regex.body <;> rfl

theorem Regex.render_eq_join (mode : Mode) (regex : Regex) :
    regex.render mode = String.join ((regex.pieces false).map (Piece.text mode)) := by
  rw [Regex.render, Regex.text_eq_join, Regex.characters_reduce, join_text]

end PatternTemplate
