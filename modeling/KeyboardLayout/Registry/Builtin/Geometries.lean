import KeyboardLayout.Geometry

/-!
# The built-in geometries

ANSI and ISO boards with their staggered rows, and the ergonomic grid. In each drawing the cells
of the keys are blank.
-/

namespace KeyboardLayout.Registry.Builtin

/-- The ANSI board: a wide return key, the backslash key above it. -/
def ansi : Geometry where
  name := "ANSI".toList
  template := [
    "┌─────┬─────┬─────┬─────┬─────┬─────┬─────┬─────┬─────┬─────┬─────┬─────┬─────┲━━━━━━━━━━┓",
    "│     │     │     │     │     │     │     │     │     │     │     │     │     ┃          ┃",
    "│     │     │     │     │     │     │     │     │     │     │     │     │     ┃ ⌫        ┃",
    "┢━━━━━┷━━┱──┴──┬──┴──┬──┴──┬──┴──┬──┴──┬──┴──┬──┴──┬──┴──┬──┴──┬──┴──┬──┴──┬──┺━━┯━━━━━━━┩",
    "┃        ┃     │     │     │     │     │     │     │     │     │     │     │     │       │",
    "┃ ↹      ┃     │     │     │     │     │     │     │     │     │     │     │     │       │",
    "┣━━━━━━━━┻┱────┴┬────┴┬────┴┬────┴┬────┴┬────┴┬────┴┬────┴┬────┴┬────┴┬────┴┲━━━━┷━━━━━━━┪",
    "┃         ┃     │     │     │     │     │     │     │     │     │     │     ┃            ┃",
    "┃ ⇬       ┃     │     │     │     │     │     │     │     │     │     │     ┃ ⏎          ┃",
    "┣━━━━━━━━━┻━━┱──┴──┬──┴──┬──┴──┬──┴──┬──┴──┬──┴──┬──┴──┬──┴──┬──┴──┬──┴──┲━━┻━━━━━━━━━━━━┫",
    "┃            ┃     │     │     │     │     │     │     │     │     │     ┃               ┃",
    "┃ ⇧          ┃     │     │     │     │     │     │     │     │     │     ┃ ⇧             ┃",
    "┣━━━━━━━┳━━━━┻━━┳━━┷━━━━┱┴─────┴─────┴─────┴─────┴─────┴─┲━━━┷━━━┳━┷━━━━━╋━━━━━━━┳━━━━━━━┫",
    "┃       ┃       ┃       ┃ ⍽ nbsp                         ┃       ┃       ┃       ┃       ┃",
    "┃ Ctrl  ┃ super ┃ Alt   ┃ ␣                            ’ ┃ AltGr ┃ super ┃ menu  ┃ Ctrl  ┃",
    "┗━━━━━━━┻━━━━━━━┻━━━━━━━┹────────────────────────────────┺━━━━━━━┻━━━━━━━┻━━━━━━━┻━━━━━━━┛"
  ].map String.toList
  rows := [
    ⟨2, [.tlde, .ae01, .ae02, .ae03, .ae04, .ae05, .ae06,
      .ae07, .ae08, .ae09, .ae10, .ae11, .ae12]⟩,
    ⟨11, [.ad01, .ad02, .ad03, .ad04, .ad05, .ad06, .ad07,
      .ad08, .ad09, .ad10, .ad11, .ad12, .bksl]⟩,
    ⟨12, [.ac01, .ac02, .ac03, .ac04, .ac05, .ac06, .ac07,
      .ac08, .ac09, .ac10, .ac11]⟩,
    ⟨15, [.ab01, .ab02, .ab03, .ab04, .ab05, .ab06, .ab07,
      .ab08, .ab09, .ab10]⟩
  ]

/-- The ISO board: one more key beside the left shift, a tall return key. -/
def iso : Geometry where
  name := "ISO".toList
  template := [
    "┌─────┬─────┬─────┬─────┬─────┬─────┬─────┬─────┬─────┬─────┬─────┬─────┬─────┲━━━━━━━━━━┓",
    "│     │     │     │     │     │     │     │     │     │     │     │     │     ┃          ┃",
    "│     │     │     │     │     │     │     │     │     │     │     │     │     ┃ ⌫        ┃",
    "┢━━━━━┷━━┱──┴──┬──┴──┬──┴──┬──┴──┬──┴──┬──┴──┬──┴──┬──┴──┬──┴──┬──┴──┬──┴──┬──┺━━┳━━━━━━━┫",
    "┃        ┃     │     │     │     │     │     │     │     │     │     │     │     ┃       ┃",
    "┃ ↹      ┃     │     │     │     │     │     │     │     │     │     │     │     ┃       ┃",
    "┣━━━━━━━━┻┱────┴┬────┴┬────┴┬────┴┬────┴┬────┴┬────┴┬────┴┬────┴┬────┴┬────┴┬────┺┓  ⏎   ┃",
    "┃         ┃     │     │     │     │     │     │     │     │     │     │     │     ┃      ┃",
    "┃ ⇬       ┃     │     │     │     │     │     │     │     │     │     │     │     ┃      ┃",
    "┣━━━━━━┳━━┹──┬──┴──┬──┴──┬──┴──┬──┴──┬──┴──┬──┴──┬──┴──┬──┴──┬──┴──┬──┴──┲━━┷━━━━━┻━━━━━━┫",
    "┃      ┃     │     │     │     │     │     │     │     │     │     │     ┃               ┃",
    "┃ ⇧    ┃     │     │     │     │     │     │     │     │     │     │     ┃ ⇧             ┃",
    "┣━━━━━━┻┳━━━━┷━━┳━━┷━━━━┱┴─────┴─────┴─────┴─────┴─────┴─┲━━━┷━━━┳━┷━━━━━╋━━━━━━━┳━━━━━━━┫",
    "┃       ┃       ┃       ┃ ⍽ nbsp                         ┃       ┃       ┃       ┃       ┃",
    "┃ Ctrl  ┃ super ┃ Alt   ┃ ␣                            ’ ┃ AltGr ┃ super ┃ menu  ┃ Ctrl  ┃",
    "┗━━━━━━━┻━━━━━━━┻━━━━━━━┹────────────────────────────────┺━━━━━━━┻━━━━━━━┻━━━━━━━┻━━━━━━━┛"
  ].map String.toList
  rows := [
    ⟨2, [.tlde, .ae01, .ae02, .ae03, .ae04, .ae05, .ae06,
      .ae07, .ae08, .ae09, .ae10, .ae11, .ae12]⟩,
    ⟨11, [.ad01, .ad02, .ad03, .ad04, .ad05, .ad06, .ad07,
      .ad08, .ad09, .ad10, .ad11, .ad12]⟩,
    ⟨12, [.ac01, .ac02, .ac03, .ac04, .ac05, .ac06, .ac07,
      .ac08, .ac09, .ac10, .ac11, .bksl]⟩,
    ⟨9, [.lsgt, .ab01, .ab02, .ab03, .ab04, .ab05, .ab06,
      .ab07, .ab08, .ab09, .ab10]⟩
  ]

/-- The ergonomic board: every row on one grid. -/
def ergo : Geometry where
  name := "ERGO".toList
  template := [
    "╭╌╌╌╌╌┰─────┬─────┬─────┬─────┬─────┰─────┬─────┬─────┬─────┬─────┰╌╌╌╌╌┬╌╌╌╌╌╮",
    "┆     ┃     │     │     │     │     ┃     │     │     │     │     ┃     ┆     ┆",
    "┆     ┃     │     │     │     │     ┃     │     │     │     │     ┃     ┆     ┆",
    "╰╌╌╌╌╌╂─────┼─────┼─────┼─────┼─────╂─────┼─────┼─────┼─────┼─────╂╌╌╌╌╌┼╌╌╌╌╌┤",
    "      ┃     │     │     │     │     ┃     │     │     │     │     ┃     ┆     ┆",
    "      ┃     │     │     │     │     ┃     │     │     │     │     ┃     ┆     ┆",
    "      ┠─────┼─────┼─────┼─────┼─────╂─────┼─────┼─────┼─────┼─────╂╌╌╌╌╌┼╌╌╌╌╌┤",
    "      ┃     │     │     │     │     ┃     │     │     │     │     ┃     ┆     ┆",
    "      ┃     │     │     │     │     ┃     │     │     │     │     ┃     ┆     ┆",
    "╭╌╌╌╌╌╂─────┼─────┼─────┼─────┼─────╂─────┼─────┼─────┼─────┼─────╂╌╌╌╌╌┴╌╌╌╌╌╯",
    "┆     ┃     │     │     │     │     ┃     │     │     │     │     ┃            ",
    "┆     ┃     │     │     │     │     ┃     │     │     │     │     ┃            ",
    "╰╌╌╌╌╌┸─────┴─────┴─────┴─────┴─────┸─────┴─────┴─────┴─────┴─────┚            ",
    "                ╭───────┬───────────────────────┬───────╮                      ",
    "                │  Alt  │                       │ AltGr │                      ",
    "                ╰───────┴───────────────────────┴───────╯                      "
  ].map String.toList
  rows := [
    ⟨2, [.tlde, .ae01, .ae02, .ae03, .ae04, .ae05, .ae06,
      .ae07, .ae08, .ae09, .ae10, .ae11, .ae12]⟩,
    ⟨8, [.ad01, .ad02, .ad03, .ad04, .ad05, .ad06, .ad07,
      .ad08, .ad09, .ad10, .ad11, .ad12]⟩,
    ⟨8, [.ac01, .ac02, .ac03, .ac04, .ac05, .ac06, .ac07,
      .ac08, .ac09, .ac10, .ac11, .bksl]⟩,
    ⟨2, [.lsgt, .ab01, .ab02, .ab03, .ab04, .ab05, .ab06,
      .ab07, .ab08, .ab09, .ab10]⟩
  ]

/-- The built-in geometries, in the order in which they are listed to the user. -/
def geometries : List Geometry := [ansi, iso, ergo]

end KeyboardLayout.Registry.Builtin
