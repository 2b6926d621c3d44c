import Preferences.Source.Position

/-! Token trees, as a source text is read, and code, as it is printed.

A tree knows where it stands, and a name that it has at least one character. Code does not: it is a
list of pieces, of which a glued one is printed without a space after it. -/

namespace Preferences.Source

/-- The delimiters of a group. A group without any, which only another macro passes, is no part of a
source text and has no tree. -/
inductive Delimiter where
  | parenthesis
  | bracket
  | brace
  deriving DecidableEq, Repr, Inhabited

/-- A piece of printed code: a word, or a group of code between delimiters. -/
inductive Piece where
  | word (text : String) (glued : Bool)
  | group (delimiter : Delimiter) (body : List Piece)
  deriving Repr, Inhabited

abbrev Code := List Piece

mutual

def Piece.decEq : (a b : Piece) → Decidable (a = b)
  | .word text glued, .word text' glued' =>
    decidable_of_iff (text = text' ∧ glued = glued') (by simp)
  | .group delimiter body, .group delimiter' body' =>
    have := Code.decEq body body'
    decidable_of_iff (delimiter = delimiter' ∧ body = body') (by simp)
  | .word .., .group .. | .group .., .word .. => isFalse (by intro h; cases h)

def Code.decEq : (a b : List Piece) → Decidable (a = b)
  | [], [] => isTrue rfl
  | a :: as, b :: bs =>
    have := Piece.decEq a b
    have := Code.decEq as bs
    decidable_of_iff (a = b ∧ as = bs) (by simp)
  | [], _ :: _ | _ :: _, [] => isFalse (by intro h; cases h)

end

instance : DecidableEq Piece := Piece.decEq

namespace Piece

/-- A word with a space after it. -/
@[match_pattern] abbrev plain (text : String) : Piece := .word text false

def isGlued : Piece → Bool
  | word _ glued => glued
  | group .. => false

/-- Code in parentheses. -/
@[match_pattern] abbrev parens (body : Code) : Piece := .group .parenthesis body

abbrev brackets (body : Code) : Piece := .group .bracket body

@[match_pattern] abbrev braces (body : Code) : Piece := .group .brace body

end Piece

/-- A group's text around the text of its body. -/
def Delimiter.enclose (delimiter : Delimiter) (body : String) : String :=
  match delimiter with
  | .parenthesis => "(" ++ body ++ ")"
  | .bracket => "[" ++ body ++ "]"
  | .brace => if body.isEmpty then "\x7b \x7d" else "\x7b " ++ body ++ " \x7d"

mutual

def Piece.text : Piece → String
  | .word text _ => text
  | .group delimiter body => delimiter.enclose (Code.text body)

/-- Printed code: one space between pieces, but none after a glued one. -/
def Code.text : List Piece → String
  | [] => ""
  | [piece] => piece.text
  | piece :: next :: rest =>
    piece.text ++ (if piece.isGlued then "" else " ") ++ Code.text (next :: rest)

end

/-- Words that are no punctuation or whole operators, each with a space after it. -/
def Code.words (texts : List String) : Code := texts.map .plain

/-- Code with `separator` between its parts. -/
def Code.separated (separator : Piece) : List Code → Code
  | [] => []
  | [part] => part
  | part :: next :: rest => part ++ separator :: Code.separated separator (next :: rest)

/-- A comma-separated list; `trailing` adds a comma after its last part. -/
def Code.commaList (parts : List Code) (trailing : Bool) : Code :=
  Code.separated (.plain ",") parts ++ if trailing && !parts.isEmpty then [.plain ","] else []

/-- A name with its position. A raw name keeps its mark. -/
structure Name where
  text : String
  pos : Position
  nonempty : text ≠ ""
  deriving DecidableEq, Repr

instance : Inhabited Name := ⟨⟨"_", default, by decide⟩⟩

def Name.piece (name : Name) : Piece := .plain name.text

/-- A token tree of a source text. A punctuation character is joint when another one follows it
directly. -/
inductive Tree where
  | ident (name : Name)
  | punct (char : Char) (joint : Bool) (pos : Position)
  | literal (text : String) (pos : Position)
  | group (delimiter : Delimiter) (body : List Tree) (opens closes : Position)
  deriving Repr, Inhabited

namespace Tree

/-- Where the tree's first character stands. -/
def pos : Tree → Position
  | ident name => name.pos
  | punct _ _ pos | literal _ pos | group _ _ pos _ => pos

mutual

/-- A tree as it was written. -/
def piece : Tree → Piece
  | ident name => name.piece
  | punct char joint _ => .word (String.singleton char) joint
  | literal text _ => .plain text
  | group delimiter body _ _ => .group delimiter (code body)

/-- Trees as they were written. -/
def code : List Tree → Code
  | [] => []
  | tree :: rest => tree.piece :: code rest

end

mutual

/-- The number of trees in a tree, itself included. -/
def size : Tree → Nat
  | ident .. | punct .. | literal .. => 1
  | group _ body _ _ => 1 + sizes body

def sizes : List Tree → Nat
  | [] => 0
  | tree :: rest => tree.size + sizes rest

end

mutual

/-- The tree with every token at `pos`. -/
def moveTo (pos : Position) : Tree → Tree
  | ident name => .ident { name with pos }
  | punct char joint _ => .punct char joint pos
  | literal text _ => .literal text pos
  | group delimiter body _ _ => .group delimiter (moveAllTo pos body) pos pos

def moveAllTo (pos : Position) : List Tree → List Tree
  | [] => []
  | tree :: rest => tree.moveTo pos :: moveAllTo pos rest

end

end Tree

end Preferences.Source
