/-!
Putting texts together.
-/

namespace RouteDoc.Text

/-- The texts one after another. -/
def concat (texts : List String) : String := String.ofList (texts.flatMap String.toList)

theorem toList_concat {α : Type} (items : List α) (code : α → String) :
    (concat (items.map code)).toList = items.flatMap fun item => (code item).toList := by
  rw [concat, String.toList_ofList, List.flatMap_map]

/-- The texts with a separator between neighbours. -/
def separated (separator : String) : List String → String
  | [] => ""
  | [text] => text
  | text :: next :: rest => text ++ separator ++ separated separator (next :: rest)

/-- A text shown in a list: its items between square brackets. -/
def bracketed (items : List String) : String := "[" ++ separated ", " items ++ "]"

/-- A text with spaces before it, up to the given number of characters. A longer text is kept
whole. -/
def alignedRight (width : Nat) (text : String) : String :=
  String.ofList (List.replicate (width - text.toList.length) ' ' ++ text.toList)

end RouteDoc.Text
