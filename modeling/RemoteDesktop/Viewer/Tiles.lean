import RemoteDesktop.Viewer.Picture

/-!
# Pictures kept as tiles

A viewer need not paint each change over the last picture. It can keep the rectangles of the last full update, and
put the rectangles of a change in the place of those that have the same regions.
-/

namespace RemoteDesktop

/-- The regions that an update paints. -/
def Update.places (u : Update) : List Region := u.rects.map (·.region)

/-- Every rectangle of the update can be unpacked. -/
def Update.Unpacks (u : Update) : Prop := ∀ r ∈ u.rects, ∃ pixels, r.pixels u.mode = .ok pixels

/-- The update with the rectangles of a change in the place of its own for the same regions. -/
def Update.replacedBy (kept change : Update) : Update :=
  { kept with rects := kept.rects.map fun r => (change.rects.find? fun s => s.region = r.region).getD r }

/-- The picture after some updates. -/
def Picture.applyAll : List Update → Picture → Except Lz4.BlockError Picture
  | [], p => .ok p
  | u :: updates, p => do
    let p ← p.apply u
    applyAll updates p

end RemoteDesktop
