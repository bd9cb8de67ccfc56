import KeyboardLayout.DeadKey

/-!
# The built-in dead keys

One key that takes its table from the layout it stands in, and ten accents with fixed tables.
-/

namespace KeyboardLayout.Registry.Builtin

/-- An accent: its glyph is what it types before a space and after itself. -/
def accent (marker : Char) (name : String) (glyph : Char) (xkb base alt : String) : DeadKey where
  marker := marker
  name := name.toList
  glyph := glyph
  xkbSymbol := xkb.toList
  altSpace := glyph
  altSelf := glyph
  compose := .table
  base := base.toList
  alt := alt.toList

/-- The built-in dead keys, in the order of their declaration. -/
def deadKeys : List DeadKey := [
  { accent '\u20e1' "lafayette" '¤' "ISO_Level3_Latch" "" "" with compose := .layout },
  accent '\u0300' "grave" '\x60' "dead_grave"
    "AaEeIiNnOoUuWwYy"
    "ÀàÈèÌìǸǹÒòÙùẀẁỲỳ",
  accent '\u0301' "acute" '´' "dead_acute"
    "AaCcEeGgIiKkLlMmNnOoPpRrSsUuWwYyZz"
    "ÁáĆćÉéǴǵÍíḰḱĹĺḾḿŃńÓóṔṕŔŕŚśÚúẂẃÝýŹź",
  accent '\u0302' "circumflex" '^' "dead_circumflex"
    "AaCcEeGgHhIiJjOoSsUuWwYyZz"
    "ÂâĈĉÊêĜĝĤĥÎîĴĵÔôŜŝÛûŴŵŶŷẐẑ",
  accent '\u0303' "tilde" '~' "dead_tilde"
    "AaEeIiNnOoUuVvYy"
    "ÃãẼẽĨĩÑñÕõŨũṼṽỸỹ",
  accent '\u0307' "abovedot" '˙' "dead_abovedot"
    "BbCcDdEeFfGgHhIMmNnPpRrSsTtWwXxYyZz"
    "ḂḃĊċḊḋĖėḞḟĠġḢḣİṀṁṄṅṖṗṘṙṠṡṪṫẆẇẊẋẎẏŻż",
  accent '\u0308' "diaeresis" '¨' "dead_diaeresis"
    "AaEeHhIiOotUuWwXxYy"
    "ÄäËëḦḧÏïÖöẗÜüẄẅẌẍŸÿ",
  accent '\u030a' "abovering" '˚' "dead_abovering"
    "AaUuwy"
    "ÅåŮůẘẙ",
  accent '\u0326' "commabelow" ',' "dead_belowcomma"
    "SsTt"
    "ȘșȚț",
  accent '\u0327' "cedilla" '¸' "dead_cedilla"
    "CcDdEeGgHhKkLlNnRrSsTt"
    "ÇçḐḑȨȩĢģḨḩĶķĻļŅņŖŗŞşŢţ",
  accent '\u0328' "ogonek" '˛' "dead_ogonek"
    "AaEeIiOoUu"
    "ĄąĘęĮįǪǫŲų"
]

end KeyboardLayout.Registry.Builtin
