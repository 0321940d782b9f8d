/-!
# `Text.Ascii` — case rules that touch the letters `A` to `Z` only

Names of functions, capabilities and properties are compared and normalised by these rules. Letters outside
ASCII are left alone.

## Contents

* `asciiUpper`, `asciiLower` — letter by letter.
* `sameIgnoringCase` — equality up to the case of ASCII letters.
-/

namespace Pushdown.Text

/-- ASCII letters in upper case. -/
def asciiUpper (s : String) : String :=
  String.ofList (s.toList.map Char.toUpper)

/-- ASCII letters in lower case. -/
def asciiLower (s : String) : String :=
  String.ofList (s.toList.map Char.toLower)

/-- Equal up to the case of ASCII letters. -/
def sameIgnoringCase (s t : String) : Bool :=
  asciiUpper s == asciiUpper t

end Pushdown.Text
