/-!
Paths as texts. Parts are divided by strokes; parts that are empty, and dots other than a leading
one, count for nothing. Taking the parent cuts the text and changes nothing else in it.
-/

namespace KernelStore.FilePath

/-- The stretches of a text between strokes. -/
def cut : List Char → List (List Char)
  | [] => [[]]
  | '/' :: rest => [] :: cut rest
  | letter :: rest =>
      match cut rest with
      | [] => [[letter]]
      | first :: others => (letter :: first) :: others

def pieces (path : String) : List String := (cut path.toList).map String.ofList

def isAbsolute (path : String) : Bool := path.toList.head? == some '/'

/-- Whether a stroke closes the path. -/
def isClosed (path : String) : Bool := path.toList.getLast? == some '/'

/-- Drops what counts for nothing from the end of a path, whose pieces are given in reverse. -/
def trimEnd (absolute : Bool) : List String → List String
  | [] => []
  | [first] => if first == "" || (first == "." && absolute) then [] else [first]
  | last :: before =>
      if last == "" || last == "." then trimEnd absolute before else last :: before

def reversed (path : String) : List String :=
  let absolute := isAbsolute path
  trimEnd absolute ((pieces path).drop (if absolute then 1 else 0)).reverse

def parent? (path : String) : Option String :=
  match reversed path with
  | [] => none
  | _ :: before =>
      let absolute := isAbsolute path
      some ((if absolute then "/" else "") ++ "/".intercalate (trimEnd absolute before).reverse)

def fileName? (path : String) : Option String :=
  match reversed path with
  | [] => none
  | last :: _ => if last == "." || last == ".." then none else some last

/-- The path `name` as seen from a directory. -/
def join (directory name : String) : String :=
  if isAbsolute name || directory == "" then name
  else if isClosed directory then directory ++ name
  else directory ++ "/" ++ name

inductive Step
  | here
  | up
  | down (name : String)
  deriving DecidableEq

def steps (path : String) : List Step :=
  ((pieces path).filter (· != "")).map fun piece =>
    if piece == "." then .here else if piece == ".." then .up else .down piece

end KernelStore.FilePath
