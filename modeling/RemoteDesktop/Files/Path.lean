import RemoteDesktop.Text.Split

/-!
# Paths

A path is a text of steps with slashes between them. Slashes in a row, and those at the ends, have
empty steps between them; an empty step and the step `.` lead nowhere, and `..` leads one up.
-/

namespace RemoteDesktop.Path

/-- The steps of a path. -/
def steps (path : String) : List String := (Text.splitAt '/' path.toList).map String.ofList

/-- The path starts at the root, and not where its reader stands. -/
def isAbsolute (path : String) : Bool := path.toList.head? == some '/'

/-- A step that leads nowhere. -/
def isIdle (step : String) : Bool := step == "" || step == "."

/-- The steps of a path that lead somewhere. -/
def moves (path : String) : List String := (steps path).filter (!isIdle ·)

/-- The path of the given steps. -/
def ofMoves (absolute : Bool) (moves : List String) : String :=
  (if absolute then "/" else "") ++ "/".intercalate moves

/-- A path from a directory on. One that starts at the root stays as it is. -/
def join (directory path : String) : String :=
  if isAbsolute path then path
  else
    match directory.toList.getLast? with
    | none => path
    | some '/' => directory ++ path
    | some _ => directory ++ "/" ++ path

end RemoteDesktop.Path
