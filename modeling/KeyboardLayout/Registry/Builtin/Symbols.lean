import KeyboardLayout.Text.Basic

/-!
# The built-in symbol tables

The keysym names of the X11 headers, and the characters that a Windows layout table may show as
themselves. A keysym name that is too long for its column is listed all the same: the exporter
passes over it.
-/

namespace KeyboardLayout.Registry.Builtin

/-- Characters with their X11 keysym names. -/
def xkbNames : List (Char × Text) := [
  (' ', "space"), ('!', "exclam"), ('"', "quotedbl"), ('#', "numbersign"), ('$', "dollar"),
  ('%', "percent"), ('&', "ampersand"), ('\'', "apostrophe"), ('(', "parenleft"),
  (')', "parenright"), ('*', "asterisk"), ('+', "plus"), (',', "comma"), ('-', "minus"),
  ('.', "period"), ('/', "slash"), ('0', "0"), ('1', "1"), ('2', "2"), ('3', "3"), ('4', "4"),
  ('5', "5"), ('6', "6"), ('7', "7"), ('8', "8"), ('9', "9"), (':', "colon"),
  (';', "semicolon"), ('<', "less"), ('=', "equal"), ('>', "greater"), ('?', "question"),
  ('@', "at"), ('A', "A"), ('B', "B"), ('C', "C"), ('D', "D"), ('E', "E"), ('F', "F"),
  ('G', "G"), ('H', "H"), ('I', "I"), ('J', "J"), ('K', "K"), ('L', "L"), ('M', "M"),
  ('N', "N"), ('O', "O"), ('P', "P"), ('Q', "Q"), ('R', "R"), ('S', "S"), ('T', "T"),
  ('U', "U"), ('V', "V"), ('W', "W"), ('X', "X"), ('Y', "Y"), ('Z', "Z"), ('[', "bracketleft"),
  ('\\', "backslash"), (']', "bracketright"), ('^', "asciicircum"), ('_', "underscore"),
  ('\x60', "grave"), ('a', "a"), ('b', "b"), ('c', "c"), ('d', "d"), ('e', "e"), ('f', "f"),
  ('g', "g"), ('h', "h"), ('i', "i"), ('j', "j"), ('k', "k"), ('l', "l"), ('m', "m"),
  ('n', "n"), ('o', "o"), ('p', "p"), ('q', "q"), ('r', "r"), ('s', "s"), ('t', "t"),
  ('u', "u"), ('v', "v"), ('w', "w"), ('x', "x"), ('y', "y"), ('z', "z"), ('\x7b', "braceleft"),
  ('|', "bar"), ('\x7d', "braceright"), ('~', "asciitilde"), ('\u00a0', "nobreakspace"),
  ('¡', "exclamdown"), ('¢', "cent"), ('£', "sterling"), ('¤', "currency"), ('¥', "yen"),
  ('¦', "brokenbar"), ('§', "section"), ('¨', "diaeresis"), ('©', "copyright"),
  ('ª', "ordfeminine"), ('«', "guillemotleft"), ('¬', "notsign"), ('\u00ad', "hyphen"),
  ('®', "registered"), ('¯', "macron"), ('°', "degree"), ('±', "plusminus"),
  ('²', "twosuperior"), ('³', "threesuperior"), ('´', "acute"), ('µ', "mu"), ('¶', "paragraph"),
  ('·', "periodcentered"), ('¸', "cedilla"), ('¹', "onesuperior"), ('º', "masculine"),
  ('»', "guillemotright"), ('¼', "onequarter"), ('½', "onehalf"), ('¾', "threequarters"),
  ('¿', "questiondown"), ('À', "Agrave"), ('Á', "Aacute"), ('Â', "Acircumflex"),
  ('Ã', "Atilde"), ('Ä', "Adiaeresis"), ('Å', "Aring"), ('Æ', "AE"), ('Ç', "Ccedilla"),
  ('È', "Egrave"), ('É', "Eacute"), ('Ê', "Ecircumflex"), ('Ë', "Ediaeresis"), ('Ì', "Igrave"),
  ('Í', "Iacute"), ('Î', "Icircumflex"), ('Ï', "Idiaeresis"), ('Ð', "ETH"), ('Ñ', "Ntilde"),
  ('Ò', "Ograve"), ('Ó', "Oacute"), ('Ô', "Ocircumflex"), ('Õ', "Otilde"), ('Ö', "Odiaeresis"),
  ('×', "multiply"), ('Ø', "Oslash"), ('Ù', "Ugrave"), ('Ú', "Uacute"), ('Û', "Ucircumflex"),
  ('Ü', "Udiaeresis"), ('Ý', "Yacute"), ('Þ', "THORN"), ('ß', "ssharp"), ('à', "agrave"),
  ('á', "aacute"), ('â', "acircumflex"), ('ã', "atilde"), ('ä', "adiaeresis"), ('å', "aring"),
  ('æ', "ae"), ('ç', "ccedilla"), ('è', "egrave"), ('é', "eacute"), ('ê', "ecircumflex"),
  ('ë', "ediaeresis"), ('ì', "igrave"), ('í', "iacute"), ('î', "icircumflex"),
  ('ï', "idiaeresis"), ('ð', "eth"), ('ñ', "ntilde"), ('ò', "ograve"), ('ó', "oacute"),
  ('ô', "ocircumflex"), ('õ', "otilde"), ('ö', "odiaeresis"), ('÷', "division"),
  ('ø', "oslash"), ('ù', "ugrave"), ('ú', "uacute"), ('û', "ucircumflex"), ('ü', "udiaeresis"),
  ('ý', "yacute"), ('þ', "thorn"), ('ÿ', "ydiaeresis"), ('Œ', "OE"), ('œ', "oe"),
  ('Ÿ', "Ydiaeresis"), ('–', "endash"), ('—', "emdash"), ('‘', "leftsinglequotemark"),
  ('’', "rightsinglequotemark"), ('‚', "singlelowquotemark"), ('“', "leftdoublequotemark"),
  ('”', "rightdoublequotemark"), ('„', "doublelowquotemark"), ('†', "dagger"),
  ('‡', "doubledagger"), ('…', "ellipsis"), ('€', "EuroSign"), ('←', "leftarrow"),
  ('↑', "uparrow"), ('→', "rightarrow"), ('↓', "downarrow"), ('⇒', "implies"),
  ('⇔', "ifonlyif"), ('≠', "notequal"), ('≤', "lessthanequal"), ('≥', "greaterthanequal"),
  ('−', "minussign"), ('‰', "permille"), ('′', "minutes"), ('″', "seconds")
].map fun (c, name) => (c, name.toList)

/-- Characters that may stand as themselves in a Windows layout table: the digits and the letters. -/
def klcLiterals : List Char :=
  "1234567890abcdefghijklmnopqrstuvwxyzABCDEFGHIJKLMNOPQRSTUVWXYZ".toList

end KeyboardLayout.Registry.Builtin
