import Preferences.Source.Lexeme

/-! Reading a source text into token trees. -/

namespace Preferences.Source

open Preferences.Text

/-- A group whose closing delimiter is still to come. Trees are kept last first. -/
structure OpenGroup where
  delimiter : Delimiter
  opens : Position
  before : List Tree

/-- The attribute that a doc comment stands for, last tree first. -/
def docTrees (inner : Bool) (text : List Char) (pos : Position) : List Tree :=
  let name : Name := ⟨"doc", pos, by decide⟩
  let body := [.ident name, .punct '=' false pos, .literal (literal (String.ofList text)) pos]
  .group .bracket body pos pos ::
    (if inner then [.punct '!' false pos] else []) ++ [.punct '#' false pos]

/-- What is taken from a text is not empty, if less of the text is left. -/
theorem ofList_taken_ne_empty {s rest : List Char} (h : rest.length < s.length) :
    String.ofList (s.take (s.length - rest.length)) ≠ "" := by
  intro hempty
  have hlength := congrArg (fun text : String => text.toList.length) hempty
  simp at hlength
  omega

/-- Reads lexeme after lexeme; `outer` are the groups open around the trees in `read`. -/
def readTrees (s : List Char) (pos : Position) (outer : List OpenGroup) (read : List Tree) :
    Option (List Tree) :=
  if s.isEmpty then if outer.isEmpty then some read.reverse else none
  else
    match lexeme? s with
    | none => none
    | some (lexeme, rest) =>
      if hless : rest.length < s.length then
        let taken := s.take (s.length - rest.length)
        let next := pos.after taken
        match lexeme with
        | .blank => readTrees rest next outer read
        | .doc inner text => readTrees rest next outer (docTrees inner text pos ++ read)
        | .literal => readTrees rest next outer (.literal (String.ofList taken) pos :: read)
        | .punct char joint => readTrees rest next outer (.punct char joint pos :: read)
        | .name =>
          let name : Name := ⟨String.ofList taken, pos, ofList_taken_ne_empty hless⟩
          readTrees rest next outer (.ident name :: read)
        | .opening delimiter => readTrees rest next (⟨delimiter, pos, read⟩ :: outer) []
        | .closing delimiter =>
          match outer with
          | [] => none
          | group :: outer =>
            if group.delimiter = delimiter then
              readTrees rest next outer
                (.group delimiter read.reverse group.opens pos :: group.before)
            else none
      else none
termination_by s.length

/-- The token trees of a source text. A byte order mark in front of it is skipped. -/
def Tree.ofText? (text : String) : Option (List Tree) :=
  match text.toList with
  | '\ufeff' :: rest => readTrees rest (Position.start.next '\ufeff') [] []
  | s => readTrees s Position.start [] []

end Preferences.Source
