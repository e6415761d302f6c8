import Multigrad.Value.Basic
import Multigrad.Double.Layout
import Multigrad.Text.Quoted

/-!
# Notation of values

How messages spell a value: texts in quotes, lists in brackets, records in braces.
-/

namespace Multigrad.Value

def flagText (b : Bool) : String := if b then "True" else "False"

def listText (items : List String) : String := "[" ++ ", ".intercalate items ++ "]"

def entryTexts : Entries Float → List String
  | .reals entries => entries.map Double.plain
  | .ints entries => entries.map toString

mutual

def spelled : Value Float → String
  | .null => "None"
  | .flag b => flagText b
  | .int n => toString n
  | .real r => Double.plain r
  | .text s => Text.quoted s
  | .list items => listText (spelledItems items)
  | .record entries => "\x7b" ++ ", ".intercalate (spelledEntries entries) ++ "\x7d"
  | .array _ entries => listText (entryTexts entries)

def spelledItems : List (Value Float) → List String
  | [] => []
  | item :: rest => item.spelled :: spelledItems rest

def spelledEntries : List (String × Value Float) → List String
  | [] => []
  | (key, value) :: rest => (Text.quoted key ++ ": " ++ value.spelled) :: spelledEntries rest

end

/-- A text by itself stands without quotes. -/
def shown : Value Float → String
  | .text s => s
  | value => value.spelled

end Multigrad.Value
