import KeyboardLayout.KeyCodes

/-!
# The built-in key codes

What each key is called by Windows (scan code and virtual key), by macOS (virtual key code) and by
the browser (`KeyboardEvent.code`).
-/

namespace KeyboardLayout.Registry.Builtin

/-- One line of the table. -/
def codes (scan virtualKey : String) (mac : Nat) (web : String) : KeyCodes :=
  ⟨scan.toList, virtualKey.toList, mac, web.toList⟩

/-- The codes of a key. -/
def keyCodes : Key → KeyCodes
  | .ae01 => codes "02" "1" 18 "Digit1"
  | .ae02 => codes "03" "2" 19 "Digit2"
  | .ae03 => codes "04" "3" 20 "Digit3"
  | .ae04 => codes "05" "4" 21 "Digit4"
  | .ae05 => codes "06" "5" 23 "Digit5"
  | .ae06 => codes "07" "6" 22 "Digit6"
  | .ae07 => codes "08" "7" 26 "Digit7"
  | .ae08 => codes "09" "8" 28 "Digit8"
  | .ae09 => codes "0a" "9" 25 "Digit9"
  | .ae10 => codes "0b" "0" 29 "Digit0"
  | .ad01 => codes "10" "Q" 12 "KeyQ"
  | .ad02 => codes "11" "W" 13 "KeyW"
  | .ad03 => codes "12" "E" 14 "KeyE"
  | .ad04 => codes "13" "R" 15 "KeyR"
  | .ad05 => codes "14" "T" 17 "KeyT"
  | .ad06 => codes "15" "Y" 16 "KeyY"
  | .ad07 => codes "16" "U" 32 "KeyU"
  | .ad08 => codes "17" "I" 34 "KeyI"
  | .ad09 => codes "18" "O" 31 "KeyO"
  | .ad10 => codes "19" "P" 35 "KeyP"
  | .ac01 => codes "1e" "A" 0 "KeyA"
  | .ac02 => codes "1f" "S" 1 "KeyS"
  | .ac03 => codes "20" "D" 2 "KeyD"
  | .ac04 => codes "21" "F" 3 "KeyF"
  | .ac05 => codes "22" "G" 5 "KeyG"
  | .ac06 => codes "23" "H" 4 "KeyH"
  | .ac07 => codes "24" "J" 38 "KeyJ"
  | .ac08 => codes "25" "K" 40 "KeyK"
  | .ac09 => codes "26" "L" 37 "KeyL"
  | .ac10 => codes "27" "OEM_1" 41 "Semicolon"
  | .ab01 => codes "2c" "Z" 6 "KeyZ"
  | .ab02 => codes "2d" "X" 7 "KeyX"
  | .ab03 => codes "2e" "C" 8 "KeyC"
  | .ab04 => codes "2f" "V" 9 "KeyV"
  | .ab05 => codes "30" "B" 11 "KeyB"
  | .ab06 => codes "31" "N" 45 "KeyN"
  | .ab07 => codes "32" "M" 46 "KeyM"
  | .ab08 => codes "33" "OEM_COMMA" 43 "Comma"
  | .ab09 => codes "34" "OEM_PERIOD" 47 "Period"
  | .ab10 => codes "35" "OEM_2" 44 "Slash"
  | .tlde => codes "29" "OEM_3" 50 "Backquote"
  | .ae11 => codes "0c" "OEM_MINUS" 27 "Minus"
  | .ae12 => codes "0d" "OEM_PLUS" 24 "Equal"
  | .ad11 => codes "1a" "OEM_4" 33 "BracketLeft"
  | .ad12 => codes "1b" "OEM_6" 30 "BracketRight"
  | .ac11 => codes "28" "OEM_7" 39 "Quote"
  | .bksl => codes "2b" "OEM_5" 42 "Backslash"
  | .lsgt => codes "56" "OEM_102" 10 "IntlBackslash"

end KeyboardLayout.Registry.Builtin
