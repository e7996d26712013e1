import PatternTemplate.Template.Reduction

/-!
# Texts of the parts of a tree

The text of a tree is defined by a walk through all of it. Here it is described node by node: what
joins other nodes has their texts one behind the other, and a class or an assertion has none. A row
written out in a mode has the text of its parts between the markers of its section, if it is one
(`Mode.wrap`).
-/

namespace PatternTemplate

namespace Node

def textOption : Option Node → String
  | none => ""
  | some node => node.text

def textList (nodes : List Node) : String :=
  String.join (nodes.map text)

@[simp] theorem textOption_none : textOption none = "" := rfl

@[simp] theorem textOption_some (node : Node) : textOption (some node) = node.text := rfl

@[simp] theorem textList_nil : textList [] = "" := by
  simp [textList]

@[simp] theorem textList_cons (node : Node) (nodes : List Node) :
    textList (node :: nodes) = node.text ++ textList nodes := by
  simp [textList]

@[simp] theorem textList_append (front back : List Node) :
    textList (front ++ back) = textList front ++ textList back := by
  simp [textList]

private theorem join_walkOption (node : Option Node) :
    String.join ((walkOption isShown node).map ownText) = textOption node := by
  cases node with
  | none => simp
  | some node => rfl

private theorem join_walkList (nodes : List Node) :
    String.join ((walkList isShown nodes).map ownText) = textList nodes := by
  induction nodes with
  | nil => simp
  | cons node nodes ih => simp [ih, text]

@[simp] theorem text_char (c : Character) : (char c).text = c.text := by
  simp [text, walk, ownText]

@[simp] theorem text_group (capture : Option Capture) (body : Option Node) :
    (group capture body).text = textOption body := by
  simp [text, walk, ownText, isShown, join_walkOption]

@[simp] theorem text_repetition (body : Node) (quantifier : Quantifier) :
    (repetition body quantifier).text = body.text := by
  simp [text, walk, ownText, isShown]

@[simp] theorem text_alternative (parts : List Node) :
    (alternative parts).text = textList parts := by
  simp [text, walk, ownText, isShown, join_walkList]

@[simp] theorem text_disjunction (left right : Option Node) :
    (disjunction left right).text = textOption left ++ textOption right := by
  simp [text, walk, ownText, isShown, join_walkOption]

@[simp] theorem text_assertion (kind : AssertionKind) (body : Option Node) :
    (assertion kind body).text = "" := by
  simp [text, walk, ownText, isShown]

@[simp] theorem text_characterClass (negative : Bool) (items : List Node) :
    (characterClass negative items).text = "" := by
  simp [text, walk, ownText, isShown]

@[simp] theorem text_classRange (low high : Character) : (classRange low high).text = "" := by
  simp [text, walk, ownText]

@[simp] theorem text_backreference (target : Backreference) :
    (backreference target).text = "" := by
  simp [text, walk, ownText]

end Node

theorem Regex.text_eq (regex : Regex) : regex.text = Node.textOption regex.body := by
  unfold Regex.text
  cases regex.body <;> rfl

/-- A text between the markers that a mode sets for a heading, if it sets any. -/
def Mode.wrap (mode : Mode) (heading : Option String) (text : String) : String :=
  match heading.bind mode.markers? with
  | some (first, last) => first ++ text ++ last
  | none => text

@[simp] theorem Mode.wrap_none (mode : Mode) (text : String) : mode.wrap none text = text := rfl

@[simp] theorem Mode.textList_frame (mode : Mode) (heading : Option String) (parts : List Node) :
    Node.textList (mode.frame heading parts) = mode.wrap heading (Node.textList parts) := by
  unfold frame wrap
  cases heading.bind mode.markers? with
  | none => rfl
  | some markers => simp [Character.placeholder, String.append_assoc]

@[simp] theorem Outline.nodes_append (mode : Mode) (front back : List Outline) :
    nodes mode (front ++ back) = nodes mode front ++ nodes mode back := by
  simp [nodes_eq_map]

theorem Outline.nodes_toList (mode : Mode) (outline : Option Outline) :
    nodes mode outline.toList = (nodeOption mode outline).toList := by
  cases outline <;> rfl

theorem Outline.nodeOption_eq_of_nodes {mode : Mode} {outline : Option Outline}
    {node : Option Node} (h : nodes mode outline.toList = node.toList) :
    nodeOption mode outline = node := by
  rw [nodes_toList] at h
  simpa using congrArg List.head? h

theorem Outline.nodes_map_repetition (mode : Mode) (outline : Option Outline)
    (quantifier : Quantifier) :
    nodes mode (outline.map (.repetition · quantifier)).toList =
      (nodes mode outline.toList).map (.repetition · quantifier) := by
  cases outline <;> rfl

end PatternTemplate
