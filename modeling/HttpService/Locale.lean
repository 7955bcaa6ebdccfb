import HttpService.Text.Blank

/-!
# Locales

The languages of validation messages.
-/

set_option autoImplicit false

namespace HttpService

/-- A language of messages. -/
inductive Locale
  | en | zh
  deriving DecidableEq, Repr, Inhabited

namespace Locale

def name : Locale → String
  | .en => "en"
  | .zh => "zh"

/-- Reads a language, alone or before a region after `-` or `_`. -/
def parse? (text : String) : Option Locale :=
  let language := text.toList.takeWhile fun c => c != '-' && c != '_'
  let name := String.ofList ((Text.trimBy Text.isBlank language).map Char.toLower)
  if name = "en" then some .en else if name = "zh" then some .zh else none

/-- The message about a text that names no language. -/
def unsupported (text : String) : String :=
  "unsupported locale: " ++ text

end Locale

end HttpService
