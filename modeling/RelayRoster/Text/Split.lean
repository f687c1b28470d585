namespace RelayRoster.Text

def split (c : Char) : List Char → List (List Char)
  | [] => [[]]
  | x :: xs =>
    if x = c then [] :: split c xs
    else match split c xs with
      | s :: rest => (x :: s) :: rest
      | [] => [[x]]

def splitText (c : Char) (s : String) : List String := (split c s.toList).map String.ofList

def splitFirst? (c : Char) : List Char → Option (List Char × List Char)
  | [] => none
  | x :: xs => if x = c then some ([], xs) else (splitFirst? c xs).map fun (b, a) => (x :: b, a)

end RelayRoster.Text
