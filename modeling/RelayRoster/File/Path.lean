import RelayRoster.Text.Split

namespace RelayRoster
open Text

structure Path where
  text : String
  deriving DecidableEq, Repr

namespace Path

def parts (p : Path) : List String := splitText '/' p.text

/-- Parts without the empty and single-dot ones at the end, the first part apart. -/
def trimEnd (parts : List String) : List String :=
  match parts with
  | [] => []
  | first :: rest => first :: (rest.reverse.dropWhile fun s => s = "" || s = ".").reverse

/-- The last part, unless it stands for a directory above or here. -/
def fileName? (p : Path) : Option String :=
  match (trimEnd p.parts).getLast? with
  | some name => if name = "" || name = "." || name = ".." then none else some name
  | none => none

/-- The text before the last part; the root and the empty path have none. -/
def parent? (p : Path) : Option String :=
  match trimEnd p.parts with
  | [] => none
  | [""] => none
  | parts =>
    match trimEnd parts.dropLast with
    | [""] => some "/"
    | above => some ("/".intercalate above)

def directory (p : Path) : Path :=
  match p.parent? with
  | some "" => ⟨"."⟩
  | some text => ⟨text⟩
  | none => ⟨"."⟩

def namesDirectory (p : Path) : Bool := p.parts.getLast? = some ""

/-- Whether a path ends with dots for a directory, which nothing can be moved onto or away from. -/
def endsInDots (p : Path) : Bool :=
  match (p.parts.filter (· ≠ "")).getLast? with
  | some name => name = "." || name = ".."
  | none => false

def join (directory : Path) (name : String) : Path := ⟨directory.text ++ "/" ++ name⟩

end Path
end RelayRoster
