import RemoteDesktop.Frame.History
import RemoteDesktop.Proofs.Frame

/-!
# Frames that are used again

All that can fail when a frame gets a geometry comes before the first change, so a geometry that is refused leaves the
frame as it was (`InPlace.on_configure`), and one that is taken is taken whole (`configure_eq_ok_iff`). The bytes that
are kept then may be of rows of another length: they are enough of them, and that is what keeps rows and regions inside
the buffer (`WellFormed.after`).

Main statement: `Frame.frames_stay_well_formed`.
-/

namespace RemoteDesktop.Frame

variable {memory : Memory} {width height stride : UInt32} {timestamp : Nat} {f next : Frame}

/-! ### Changes in place -/

namespace InPlace

/-- A frame in its place gets the buffer that `Frame.ensureCapacity` gives it, or nothing changes. -/
theorem on_ensureCapacity (memory : Memory) (size : Nat) (f : Frame) :
    (ensureCapacity memory size).on f =
      match f.ensureCapacity memory size with
      | .ok next => (.ok (), next)
      | .error e => (.error e, f) := by
  rw [ensureCapacity, Frame.ensureCapacity, on_get_bind, on_ite, on_ite, on_pure, on_modify, on_throw]
  split
  · rfl
  · split <;> rfl

/-- A frame in its place becomes what `Frame.configure` makes of it, or nothing changes. -/
theorem on_configure (memory : Memory) (width height stride : UInt32) (timestamp : Nat) (f : Frame) :
    (configure memory width height stride timestamp).on f =
      match f.configure memory width height stride timestamp with
      | .ok next => (.ok (), next)
      | .error e => (.error e, f) := by
  rw [configure, Frame.configure, on_ite, on_ite, on_throw, on_throw]
  split
  · rfl
  · split
    · rfl
    · rw [on_bind, on_ensureCapacity]
      cases f.ensureCapacity memory (stride.toNat * height.toNat) with
      | error e => rfl
      | ok next => rfl

end InPlace

/-! ### A new geometry -/

/-- The bytes of a frame if they are so many, and else as many zeros. -/
def resized (f : Frame) (size : Nat) : ByteArray := if size = f.data.size then f.data else Bytes.zeros size

theorem size_resized (f : Frame) (size : Nat) : (f.resized size).size = size := by
  rw [resized]
  split
  next h => exact h.symm
  next => exact Bytes.size_zeros size

theorem ensureCapacity_eq_ok_iff {size : Nat} :
    f.ensureCapacity memory size = .ok next ↔
      (size = f.data.size ∨ memory size) ∧ next = { f with data := f.resized size } := by
  rw [ensureCapacity, resized]
  by_cases hsize : f.data.size = size
  · subst hsize
    rw [if_pos rfl, if_pos rfl]
    exact ⟨fun h => ⟨.inl rfl, (Except.ok.inj h).symm⟩, fun h => congrArg Except.ok h.2.symm⟩
  · rw [if_neg hsize, if_neg (Ne.symm hsize)]
    split
    next hgranted => exact ⟨fun h => ⟨.inr hgranted, (Except.ok.inj h).symm⟩, fun h => congrArg Except.ok h.2.symm⟩
    next hrefused => exact ⟨nofun, fun h => absurd h.1 (not_or.2 ⟨Ne.symm hsize, hrefused⟩)⟩

/-- A geometry is taken if a row holds its pixels and the buffer can be had, and then the frame has all of it. -/
theorem configure_eq_ok_iff :
    f.configure memory width height stride timestamp = .ok next ↔
      width.toNat * bytesPerPixel ≤ stride.toNat ∧
        (stride.toNat * height.toNat = f.data.size ∨ memory (stride.toNat * height.toNat)) ∧
        next = ⟨width, height, stride, timestamp, f.resized (stride.toNat * height.toNat)⟩ := by
  have hstride := stride.toNat_lt
  rw [configure]
  split
  next hwide => exact ⟨nofun, fun h => by omega⟩
  next =>
    split
    next hnarrow => exact ⟨nofun, fun h => by omega⟩
    next hnarrow =>
      rw [bind_eq_ok_iff]
      constructor
      · rintro ⟨g, hg, hnext⟩
        obtain ⟨hsize, rfl⟩ := ensureCapacity_eq_ok_iff.1 hg
        exact ⟨by omega, hsize, (Except.ok.inj hnext).symm⟩
      · rintro ⟨-, hsize, rfl⟩
        exact ⟨_, ensureCapacity_eq_ok_iff.2 ⟨hsize, rfl⟩, rfl⟩

/-- What becomes of a frame that is to have a geometry: if that is refused, nothing changes. -/
def Reconfigured (width height stride : UInt32) (timestamp : Nat) (f : Frame) : Except FrameError Unit × Frame → Prop
  | (.ok (), next) =>
    next.width = width ∧ next.height = height ∧ next.stride = stride ∧ next.timestamp = timestamp ∧
      (stride.toNat * height.toNat = f.data.size → next.data = f.data) ∧
      (stride.toNat * height.toNat ≠ f.data.size → next.data = Bytes.zeros (stride.toNat * height.toNat))
  | (.error _, next) => next = f

theorem reconfigured_configure (memory : Memory) (width height stride : UInt32) (timestamp : Nat) (f : Frame) :
    Reconfigured width height stride timestamp f ((InPlace.configure memory width height stride timestamp).on f) := by
  rw [InPlace.on_configure]
  cases hconfigure : f.configure memory width height stride timestamp with
  | error e => rfl
  | ok next =>
    obtain ⟨-, -, rfl⟩ := configure_eq_ok_iff.1 hconfigure
    exact ⟨rfl, rfl, rfl, rfl, fun h => if_pos h, fun h => if_neg h⟩

theorem configure_taken_iff (memory : Memory) (width height stride : UInt32) (timestamp : Nat) (f : Frame) :
    ((InPlace.configure memory width height stride timestamp).on f).1 = .ok () ↔
      width.toNat * bytesPerPixel ≤ stride.toNat ∧
        (stride.toNat * height.toNat = f.data.size ∨ memory (stride.toNat * height.toNat)) := by
  rw [InPlace.on_configure]
  cases hconfigure : f.configure memory width height stride timestamp with
  | error e =>
    refine iff_of_false nofun fun ⟨hrow, hsize⟩ => ?_
    obtain ⟨next, hok⟩ : ∃ next, f.configure memory width height stride timestamp = .ok next :=
      ⟨_, configure_eq_ok_iff.2 ⟨hrow, hsize, rfl⟩⟩
    rw [hconfigure] at hok
    cases hok
  | ok next =>
    obtain ⟨hrow, hsize, -⟩ := configure_eq_ok_iff.1 hconfigure
    exact iff_of_true rfl ⟨hrow, hsize⟩

/-! ### Painting -/

/-- The byte at a position of a painted frame. -/
theorem byteAt_fill (h : f.WellFormed) (colour : Colour) {i : Nat} (hi : i < f.data.size) :
    Bytes.byteAt (f.fill colour).data i =
      if i % f.stride.toNat < f.rowLength then colour.byte (i % f.stride.toNat % bytesPerPixel)
      else Bytes.byteAt f.data i := by
  have hstride : 0 < f.stride.toNat := by
    rw [h.1] at hi
    exact Nat.pos_of_mul_pos_right (Nat.zero_lt_of_lt hi)
  have hrow : i / f.stride.toNat < f.data.size / f.stride.toNat := by
    rw [h.1, Nat.mul_div_cancel_left _ hstride]
    rw [h.1] at hi
    exact Nat.div_lt_of_lt_mul hi
  rw [fill, Bytes.byteAt_generate _ hi]
  simp only [hrow, true_and]

theorem size_fill (f : Frame) (colour : Colour) : (f.fill colour).data.size = f.data.size := Bytes.size_generate _ _

/-- What becomes of a frame whose pixels are painted. -/
structure Painted (colour : Colour) (f next : Frame) : Prop where
  layout : next.SameLayout f
  timestamp : next.timestamp = f.timestamp
  size : next.data.size = f.data.size
  visible : ∀ x < f.width.toNat, ∀ y < f.height.toNat, next.pixel x y = colour
  padding : ∀ i, f.InPadding i → Bytes.byteAt next.data i = Bytes.byteAt f.data i

theorem painted_fill (h : f.WellFormed) (colour : Colour) : Painted colour f (f.fill colour) where
  layout := ⟨rfl, rfl, rfl⟩
  timestamp := rfl
  size := f.size_fill colour
  visible x hx y hy := by
    have hbyte : ∀ k < 4, Bytes.byteAt (f.fill colour).data (y * f.stride.toNat + x * bytesPerPixel + k) =
        colour.byte k := by
      intro k hk
      have hcolumn : x * bytesPerPixel + k < f.rowLength := by
        rw [rowLength, bytesPerPixel]
        omega
      have hinside : y * f.stride.toNat + (x * bytesPerPixel + k) < f.data.size := by
        have hrow : (y + 1) * f.stride.toNat ≤ f.height.toNat * f.stride.toNat := Nat.mul_le_mul_right _ hy
        have hend := h.2
        rw [h.1, Nat.mul_comm f.stride.toNat]
        rw [Nat.add_one_mul] at hrow
        omega
      have hplace : (y * f.stride.toNat + (x * bytesPerPixel + k)) % f.stride.toNat = x * bytesPerPixel + k := by
        rw [Nat.mul_add_mod_self_right, Nat.mod_eq_of_lt (Nat.lt_of_lt_of_le hcolumn h.2)]
      have hbyte : (x * bytesPerPixel + k) % bytesPerPixel = k := by
        rw [Nat.mul_add_mod_self_right]
        exact Nat.mod_eq_of_lt hk
      rw [Nat.add_assoc, byteAt_fill h colour hinside, hplace, if_pos hcolumn, hbyte]
    simp only [pixel, show (f.fill colour).stride = f.stride from rfl]
    rw [← Nat.add_zero (y * f.stride.toNat + x * bytesPerPixel), hbyte 0 (by decide), Nat.add_zero, hbyte 1 (by decide),
      hbyte 2 (by decide), hbyte 3 (by decide)]
    rfl
  padding i hi := by
    rw [byteAt_fill h colour hi.1, if_neg (Nat.not_lt.2 hi.2)]

/-! ### A whole history -/

theorem wellFormed_empty (timestamp : Nat) : (empty timestamp).WellFormed := ⟨rfl, Nat.zero_le _⟩

theorem wellFormed_of_configure (h : f.configure memory width height stride timestamp = .ok next) : next.WellFormed := by
  obtain ⟨hrow, -, rfl⟩ := configure_eq_ok_iff.1 h
  exact ⟨f.size_resized _, hrow⟩

theorem wellFormed_of_solid {colour : Colour} (h : solid memory width height colour timestamp = .ok next) :
    next.WellFormed := by
  rw [solid] at h
  split at h
  next => cases h
  next =>
    obtain ⟨g, hg, hnext⟩ := bind_eq_ok_iff.1 h
    obtain rfl := Except.ok.inj hnext
    obtain ⟨hsize, hrow⟩ := wellFormed_of_configure hg
    exact ⟨(g.size_fill colour).trans hsize, hrow⟩

theorem wellFormed_of_write (h : f.WellFormed) {start : Nat} {bytes : ByteArray} (hwrite : f.write start bytes = .ok next) :
    next.WellFormed := by
  rw [write] at hwrite
  split at hwrite
  next =>
    obtain rfl := Except.ok.inj hwrite
    exact ⟨(Bytes.size_generate _ _).trans h.1, h.2⟩
  next => cases hwrite

/-- No operation makes a frame ill-formed. -/
theorem WellFormed.after (h : f.WellFormed) (operation : Operation) : (f.after operation).WellFormed := by
  cases operation with
  | new timestamp => exact wellFormed_empty timestamp
  | solid memory width height colour timestamp =>
    rw [Frame.after]
    split
    next hsolid => exact wellFormed_of_solid hsolid
    next => exact h
  | configure memory width height stride timestamp =>
    rw [Frame.after, InPlace.on_configure]
    cases hconfigure : f.configure memory width height stride timestamp with
    | error e => exact h
    | ok next => exact wellFormed_of_configure hconfigure
  | fill colour => exact ⟨(f.size_fill colour).trans h.1, h.2⟩
  | write start bytes =>
    rw [Frame.after]
    split
    next hwrite => exact wellFormed_of_write h hwrite
    next => exact h
  | stamp timestamp => exact h

theorem WellFormed.afterAll (h : f.WellFormed) (operations : List Operation) : (f.afterAll operations).WellFormed := by
  induction operations generalizing f with
  | nil => exact h
  | cons operation operations ih => exact ih (h.after operation)

/-- **Frames stay well-formed.** Whatever is done to a frame, its rows and regions can be read. A geometry is taken if a
row holds its pixels and the buffer has the right length or can be had, and is refused without a change if not. Painting
gives every pixel the colour and leaves the padding. -/
theorem frames_stay_well_formed (start : Nat) (operations : List Operation) :
    let f := (Frame.empty start).afterAll operations
    f.WellFormed ∧
      (∀ y < f.height.toNat, ∃ row, f.row y = .ok row ∧ row.size = f.rowLength) ∧
      (∀ r : Region, r.Inside f.size → ∃ pixels, f.pack r = .ok pixels ∧ pixels.size = r.area * bytesPerPixel) ∧
      (∀ memory width height stride timestamp,
        let attempt := (InPlace.configure memory width height stride timestamp).on f
        Reconfigured width height stride timestamp f attempt ∧
          (attempt.1 = .ok () ↔ width.toNat * bytesPerPixel ≤ stride.toNat ∧
            (stride.toNat * height.toNat = f.data.size ∨ memory (stride.toNat * height.toNat)))) ∧
      ∀ colour, Painted colour f (f.fill colour) := by
  intro f
  have hf : f.WellFormed := (wellFormed_empty start).afterAll operations
  refine ⟨hf, fun y hy => ?_, fun r hr => ?_, fun memory width height stride timestamp =>
    ⟨reconfigured_configure memory width height stride timestamp f, configure_taken_iff _ _ _ _ _ _⟩,
    fun colour => painted_fill hf colour⟩
  · obtain ⟨row, hrow, hsize, -⟩ := hf.row_eq_ok hy
    exact ⟨row, hrow, hsize⟩
  · obtain ⟨pixels, hpack, hsize, -⟩ := hf.pack_eq_ok hr
    exact ⟨pixels, hpack, hsize⟩

/-- The bytes of two rows of two pixels are used again as four rows of one pixel, and stay so when there is no memory
for a larger frame. -/
example : (empty 0).afterAll [.solid (fun _ => true) 2 2 ⟨1, 2, 3, 4⟩ 5, .configure (fun _ => false) 1 4 4 7,
      .configure (fun _ => false) 9 9 36 8] =
    ⟨1, 4, 4, 7, Bytes.ofList [1, 2, 3, 4, 1, 2, 3, 4, 1, 2, 3, 4, 1, 2, 3, 4]⟩ := by decide +kernel

end RemoteDesktop.Frame
