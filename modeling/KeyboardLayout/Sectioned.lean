import KeyboardLayout.Key

/-!
# Sectioned listings

Every exporter lists the keys section by section: a title, then the lines of its keys, and a blank
line before the next section.
-/

namespace KeyboardLayout.Sectioned

/-- Blocks of lines with a blank line between any two. -/
def blocks (parts : List (List Text)) : List Text :=
  [[]].intercalate parts

def block (title : Text → Text) (lines : Key → List Text) (group : KeySection) : List Text :=
  title group.title :: group.keys.flatMap lines

def listing (title : Text → Text) (lines : Key → List Text) : List Text :=
  blocks (Key.sections.map (block title lines))

/-- A section title in the comment syntax that XKB and KLC share. -/
def slashTitle (title : Text) : Text :=
  "//".toList ++ title

/-- A section title in an XML comment. -/
def xmlTitle (title : Text) : Text :=
  "<!-- ".toList ++ title ++ " -->".toList

end KeyboardLayout.Sectioned
