import KeyboardLayout.Text.Basic

/-!
# The macOS file frame

The fixed text of a macOS keylayout bundle file, with its placeholders: line markers that stand for a whole
view, and tokens that stand for the metadata.
-/

namespace KeyboardLayout.Driver.Frame

/-- The lines of the macOS frame. -/
def keylayoutLines : List String := [
  "<?xml version=\"1.1\" encoding=\"UTF-8\"?>",
  "<!DOCTYPE keyboard SYSTEM \"file://localhost/System/Library/DTDs/KeyboardLayout.dtd\">",
  "<!--",
  "  $\x7bdescription\x7d",
  "  Locale: $\x7blocale=us\x7d, version $\x7bversion=0.0.0\x7d, by $\x7bauthor=unknown\x7d",
  "  Generated by kalamine, do not edit.",
  "",
  "  Base layer + dead key:",
  "  KALAMINE::GEOMETRY_qwerty",
  "",
  "  AltGr layer:",
  "  KALAMINE::GEOMETRY_altgr",
  "-->",
  "<keyboard group=\"126\" id=\"-5000\" name=\"$\x7bname\x7d\" maxout=\"3\">",
  "  <layouts>",
  "    <layout first=\"0\" last=\"17\" mapSet=\"ANSI\" modifiers=\"Modifiers\" />",
  "  </layouts>",
  "  <modifierMap id=\"Modifiers\" defaultIndex=\"0\">",
  "    <keyMapSelect mapIndex=\"0\">",
  "      <modifier keys=\"command?\" />",
  "      <modifier keys=\"anyShift? caps? command\" />",
  "    </keyMapSelect>",
  "    <keyMapSelect mapIndex=\"1\">",
  "      <modifier keys=\"anyShift caps?\" />",
  "    </keyMapSelect>",
  "    <keyMapSelect mapIndex=\"2\">",
  "      <modifier keys=\"caps\" />",
  "    </keyMapSelect>",
  "    <keyMapSelect mapIndex=\"3\">",
  "      <modifier keys=\"anyOption\" />",
  "    </keyMapSelect>",
  "    <keyMapSelect mapIndex=\"4\">",
  "      <modifier keys=\"anyOption anyShift caps?\" />",
  "      <modifier keys=\"anyOption caps\" />",
  "    </keyMapSelect>",
  "  </modifierMap>",
  "  <keyMapSet id=\"ANSI\">",
  "    <keyMap index=\"0\">",
  "      KALAMINE::LAYOUT_0",
  "",
  "      <!-- Space bar -->",
  "      <key code=\"49\"  action=\"space\" />",
  "    </keyMap>",
  "    <keyMap index=\"1\">",
  "      KALAMINE::LAYOUT_1",
  "",
  "      <!-- Space bar -->",
  "      <key code=\"49\"  action=\"space\" />",
  "    </keyMap>",
  "    <keyMap index=\"2\">",
  "      KALAMINE::LAYOUT_2",
  "",
  "      <!-- Space bar -->",
  "      <key code=\"49\"  action=\"space\" />",
  "    </keyMap>",
  "    <keyMap index=\"3\">",
  "      KALAMINE::LAYOUT_3",
  "",
  "      <!-- Space bar -->",
  "      <key code=\"49\"  action=\"nbsp\" />",
  "    </keyMap>",
  "    <keyMap index=\"4\">",
  "      KALAMINE::LAYOUT_4",
  "",
  "      <!-- Space bar -->",
  "      <key code=\"49\"  action=\"nbsp\" />",
  "    </keyMap>",
  "  </keyMapSet>",
  "  <actions>",
  "    KALAMINE::ACTIONS",
  "  </actions>",
  "  <terminators>",
  "    KALAMINE::TERMINATORS",
  "  </terminators>",
  "</keyboard>",
  ""
]

/-- The macOS frame as one text. -/
def keylayout : Text :=
  ['\n'].intercalate (keylayoutLines.map String.toList)

end KeyboardLayout.Driver.Frame
