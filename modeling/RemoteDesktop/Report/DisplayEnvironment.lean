/-!
# The display environment

What the surroundings of the server say about the desktop, and what in them is worth a warning. A
variable with an empty value counts as unset.
-/

namespace RemoteDesktop

/-- The surroundings of the server. -/
structure DisplayEnvironment where
  display : Option String
  sessionType : Option String
  authority : Option String
  deriving DecidableEq, Repr

namespace DisplayEnvironment

/-- The value of a variable, unless it is empty. -/
def value (setting : Option String) : Option String := setting.filter (!·.isEmpty)

/-- The surroundings that three variables describe. -/
def ofVariables (display sessionType authority : Option String) : DisplayEnvironment :=
  ⟨value display, value sessionType, value authority⟩

/-- What is worth a warning, for a configured display if there is one. -/
def warnings (e : DisplayEnvironment) (configured : Option String) : List String :=
  (if configured.isNone && e.display.isNone then
      ["DISPLAY is not set and capture.display is not configured"]
    else [])
    ++ (if e.sessionType = some "wayland" then
        ["XDG_SESSION_TYPE is wayland; only XWayland clients will be visible"]
      else [])

end DisplayEnvironment

end RemoteDesktop
