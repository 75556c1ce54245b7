import Databus.Text.Quoted

/-!
Records as text: a name, then labelled fields between braces.
-/
namespace Databus.Text

def field (f : String × String) : String := f.1 ++ ": " ++ f.2

def record (name : String) (fields : List (String × String)) : String :=
  name ++ " \x7b " ++ String.intercalate ", " (fields.map field) ++ " \x7d"

end Databus.Text
