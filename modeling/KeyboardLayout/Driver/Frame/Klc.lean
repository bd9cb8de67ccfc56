import KeyboardLayout.Text.Basic

/-!
# The KLC file frame

The fixed text of the source of a Windows layout, with its placeholders: line markers that stand for a whole
view, and tokens that stand for the metadata.
-/

namespace KeyboardLayout.Driver.Frame

/-- The lines of the KLC frame. -/
def klcLines : List String := [
  "// $\x7bdescription\x7d",
  "// Locale: $\x7blocale=us\x7d, version $\x7bversion=0.0.0\x7d, by $\x7bauthor=unknown\x7d",
  "// Generated by kalamine, do not edit. File encoding: $\x7bencoding\x7d",
  "//",
  "// Base layer + dead key:",
  "// KALAMINE::GEOMETRY_qwerty",
  "//",
  "// AltGr layer:",
  "// KALAMINE::GEOMETRY_altgr",
  "",
  "KBD\t$\x7bname\x7d\t\"$\x7bdescription\x7d\"",
  "",
  "COPYRIGHT\t\"(c) $\x7bauthor=unknown\x7d\"",
  "",
  "COMPANY\t\"$\x7bauthor=unknown\x7d\"",
  "",
  "LOCALENAME\t\"$\x7blocale=en-US\x7d\"",
  "",
  "LOCALEID\t\"00000409\"",
  "",
  "VERSION\t$\x7bversion=1.0\x7d",
  "",
  "SHIFTSTATE",
  "",
  "0\t//Column 4",
  "1\t//Column 5 : Shft",
  "2\t//Column 6 :       Ctrl",
  "6\t//Column 7 :       Ctrl Alt",
  "7\t//Column 8 : Shft  Ctrl Alt",
  "",
  "LAYOUT\t\t;an extra '@' at the end is a dead key",
  "",
  "//SC\tVK_\t\tCap\t0\t1\t2\t6\t7",
  "//--\t----\t\t----\t----\t----\t----\t----\t----",
  "",
  "KALAMINE::LAYOUT",
  "",
  "//Space bar",
  "39\tSPACE\t0\t0020\t0020\t0020\t00a0\t00a0\t// space",
  "53\tDECIMAL\t0\t002e\t002e\t-1\t-1\t-1\t// . .",
  "",
  "",
  "KALAMINE::DEAD_KEYS",
  "",
  "",
  "KEYNAME",
  "",
  "01\tEsc",
  "0e\tBackspace",
  "0f\tTab",
  "1c\tEnter",
  "1d\tCtrl",
  "2a\tShift",
  "36\t\"Right Shift\"",
  "37\t\"Num *\"",
  "38\tAlt",
  "39\tSpace",
  "3a\t\"Caps Lock\"",
  "45\tPause",
  "46\t\"Scroll Lock\"",
  "47\t\"Num 7\"",
  "48\t\"Num 8\"",
  "49\t\"Num 9\"",
  "4a\t\"Num -\"",
  "4b\t\"Num 4\"",
  "4c\t\"Num 5\"",
  "4d\t\"Num 6\"",
  "4e\t\"Num +\"",
  "4f\t\"Num 1\"",
  "50\t\"Num 2\"",
  "51\t\"Num 3\"",
  "52\t\"Num 0\"",
  "53\t\"Num Del\"",
  "54\t\"Sys Req\"",
  "",
  "KEYNAME_EXT",
  "",
  "1c\t\"Num Enter\"",
  "1d\t\"Right Ctrl\"",
  "35\t\"Num /\"",
  "37\t\"Prnt Scrn\"",
  "38\t\"Right Alt\"",
  "45\t\"Num Lock\"",
  "46\tBreak",
  "47\tHome",
  "48\tUp",
  "49\t\"Page Up\"",
  "4b\tLeft",
  "4d\tRight",
  "4f\tEnd",
  "50\tDown",
  "51\t\"Page Down\"",
  "52\tInsert",
  "53\tDelete",
  "5b\t\"Left Windows\"",
  "5c\t\"Right Windows\"",
  "5d\tApplication",
  "",
  "KEYNAME_DEAD",
  "",
  "KALAMINE::DEAD_KEY_INDEX",
  "",
  "DESCRIPTIONS",
  "",
  "0409\t$\x7bdescription\x7d",
  "",
  "LANGUAGENAMES",
  "",
  "0409\tEnglish (United States)",
  "",
  "ENDKBD",
  ""
]

/-- The KLC frame as one text. -/
def klc : Text :=
  ['\n'].intercalate (klcLines.map String.toList)

end KeyboardLayout.Driver.Frame
