import RemoteDesktop.Encoder

/-!
# Session settings

What a session shows, how, and from which number on its updates count.
-/

namespace RemoteDesktop

/-- The settings of a session. -/
structure SessionSettings where
  size : Size
  mode : Mode
  /-- Send only what changed, where possible. -/
  onlyChanges : Bool
  /-- The number of the next update. -/
  nextSequence : UInt64
  deriving DecidableEq, Repr, Inhabited

/-- What the encoder of the session is asked to produce. -/
def SessionSettings.encoderOptions (s : SessionSettings) : EncoderOptions :=
  ⟨s.size, s.mode, s.onlyChanges⟩

end RemoteDesktop
