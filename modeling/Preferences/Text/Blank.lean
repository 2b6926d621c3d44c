import Preferences.Text.CodePoints

/-! Blank characters: the Unicode property White_Space. -/

namespace Preferences.Text

/-- White_Space. -/
def whiteSpace : CodePoints :=
  [(9, 13), (32, 32), (133, 133), (160, 160), (5760, 5760), (8192, 8202), (8232, 8233),
   (8239, 8239), (8287, 8287), (12288, 12288)]

def isBlank (c : Char) : Bool := whiteSpace.contains c

end Preferences.Text
