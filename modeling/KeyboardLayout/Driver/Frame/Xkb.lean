import KeyboardLayout.Text.Basic

/-!
# The XKB file frame

The fixed text of the symbols file of an XKB layout, with its placeholders: line markers that stand for a whole
view, and tokens that stand for the metadata.
-/

namespace KeyboardLayout.Driver.Frame

/-- The lines of the XKB frame. -/
def xkbLines : List String := [
  "// $\x7bdescription\x7d",
  "// Locale: $\x7blocale=us\x7d, version $\x7bversion=0.0.0\x7d, by $\x7bauthor=unknown\x7d",
  "// Generated by kalamine, do not edit.",
  "//",
  "// Base layer + dead key:",
  "// KALAMINE::GEOMETRY_qwerty",
  "//",
  "// AltGr layer:",
  "// KALAMINE::GEOMETRY_altgr",
  "",
  "partial alphanumeric_keys modifier_keys",
  "xkb_symbols \"$\x7bvariant\x7d\" \x7b",
  "    name[group1]= \"$\x7bdescription\x7d\";",
  "    key.type[group1] = \"FOUR_LEVEL\";",
  "    key.type[group2] = \"TWO_LEVEL\";",
  "",
  "    KALAMINE::LAYOUT",
  "",
  "    //Space bar",
  "    key <SPCE> \x7b[ space           , space           , nobreakspace    , nobreakspace    ],[ space           , nobreakspace    ]\x7d;",
  "",
  "    include \"level3(ralt_switch)\"",
  "\x7d;",
  ""
]

/-- The XKB frame as one text. -/
def xkb : Text :=
  ['\n'].intercalate (xkbLines.map String.toList)

end KeyboardLayout.Driver.Frame
