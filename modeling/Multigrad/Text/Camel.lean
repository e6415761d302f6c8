/-!
# Names of fields

A field with several words in its name has a second name, in which capitals separate the words.
-/

namespace Multigrad.Text

/-- Drops underscores between words and writes the letter after each as a capital. -/
def joinWords : List Char → List Char
  | [] => []
  | ['_'] => ['_']
  | '_' :: c :: rest => c.toUpper :: joinWords rest
  | c :: rest => c :: joinWords rest

def camelCase (name : String) : String := String.ofList (joinWords name.toList)

end Multigrad.Text
