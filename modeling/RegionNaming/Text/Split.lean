/-! Cutting a text at separators, into lines and at its first mark. -/

namespace RegionNaming.Text

/-- The pieces between the characters that satisfy `sep`, empty ones included.
There is always one piece more than there are separators. -/
def pieces (sep : Char → Bool) : List Char → List (List Char)
  | [] => [[]]
  | c :: cs =>
    if sep c then [] :: pieces sep cs
    else
      match pieces sep cs with
      | [] => [[c]]
      | p :: ps => (c :: p) :: ps

def dropReturn (cs : List Char) : List Char :=
  if cs.getLast? = some '\r' then cs.dropLast else cs

/-- The lines among the pieces of a text cut at line feeds. A line that was ended by a line feed
loses one carriage return before it; what follows the last line feed is a line unless empty. -/
def endLines : List (List Char) → List (List Char)
  | [] => []
  | [last] => if last = [] then [] else [last]
  | p :: ps => dropReturn p :: endLines ps

def lines (cs : List Char) : List (List Char) := endLines (pieces (· = '\n') cs)

def hang (margin text : String) : String :=
  String.intercalate ("\n" ++ margin) ((pieces (· = '\n') text.toList).map String.ofList)

def cutAt (mark : Char) : List Char → Option (List Char × List Char)
  | [] => none
  | c :: cs =>
    if c = mark then some ([], cs) else (cutAt mark cs).map fun (a, b) => (c :: a, b)

def after? : List Char → List Char → Option (List Char)
  | [], cs => some cs
  | _ :: _, [] => none
  | w :: ws, c :: cs => if w = c then after? ws cs else none

theorem pieces_ne_nil (sep : Char → Bool) (cs : List Char) : pieces sep cs ≠ [] := by
  cases cs with
  | nil => simp [pieces]
  | cons c cs =>
    rw [pieces]
    split
    · simp
    · split <;> simp

end RegionNaming.Text
