import PixelTelescope.Proofs.Beam.Exact
import PixelTelescope.Proofs.Event.Points
import PixelTelescope.Proofs.Gear.Rotation
import PixelTelescope.Proofs.Geometry.Frame

namespace PixelTelescope.Beam

open PixelTelescope.Geometry (Detector Registry Frame Vec3 Mat3 pixelOf)

variable {σ : Type}

/-- What is said of everything that a draw gives, if it gives anything. -/
def Yields {β : Type} (draw : Drawing σ β) (P : β → Prop) : Prop :=
  ∀ state x next, draw state = .ok (x, next) → P x

namespace Yields

variable {β γ : Type} {P : β → Prop} {Q : γ → Prop}

theorem trivial (draw : Drawing σ β) : Yields draw fun _ => True := fun _ _ _ _ => .intro

theorem pure {x : β} (h : P x) : Yields (Pure.pure x : Drawing σ β) P := by
  intro state y next hy
  exact (Prod.mk.inj (Except.ok.inj hy)).1 ▸ h

theorem lift {c : Except Failure β} (h : ∀ x, c = .ok x → P x) :
    Yields (StateT.lift c : Drawing σ β) P := by
  intro state x next hx
  obtain ⟨y, hy, hx⟩ := bind_eq_ok.mp hx
  obtain rfl := (Prod.mk.inj (Except.ok.inj hx)).1
  exact h y hy

theorem bind {draw : Drawing σ β} {f : β → Drawing σ γ} (h : Yields draw P)
    (hf : ∀ x, P x → Yields (f x) Q) : Yields (draw >>= f) Q := by
  intro state y last hy
  obtain ⟨⟨x, next⟩, hx, hy⟩ := bind_eq_ok.mp hy
  exact hf x (h state x next hx) next y last hy

/-- What is drawn for each item of a list, one after the other. -/
theorem mapM {f : β → Drawing σ γ} {R : β → γ → Prop} {xs : List β}
    (h : ∀ x ∈ xs, Yields (f x) (R x)) : Yields (xs.mapM f) (List.Forall₂ R xs) := by
  induction xs with
  | nil => exact pure .nil
  | cons x rest ih =>
    rw [List.mapM_cons]
    refine (h x List.mem_cons_self).bind fun y hy => ?_
    refine (ih fun z hz => h z (List.mem_cons_of_mem _ hz)).bind fun ys hys => ?_
    exact pure (.cons hy hys)

end Yields

variable {d : Detector ℝ}

theorem outward_frame (f : Frame d) (v : Vec3 ℝ) :
    outward d v.toList = .ok (f.outward v).toTensor := by
  rw [outward, f.position_eq, f.orientation_eq]
  exact bind_of_ok (Mat3.multiply_toTensor f.turn v) _

noncomputable def pixelMiddle (f : Frame d) (x y : Int) (z : ℝ) : Vec3 ℝ :=
  ⟨((x : ℝ) + 0.5) * f.pitchX - 0.5 * (f.columns : ℝ) * f.pitchX,
    ((y : ℝ) + 0.5) * f.pitchY - 0.5 * (f.rows : ℝ) * f.pitchY, z⟩

/-- A hit of a pixel, with a particle that goes straight through the middle of the pixel. -/
structure Fires (f : Frame d) (hit : Event.Hit ℝ) : Prop where
  pixel : ∃ x y p, hit.column = .whole x ∧ hit.row = .whole y ∧ hit.particles = [p] ∧
    (0 ≤ x ∧ x < f.columns) ∧ (0 ≤ y ∧ y < f.rows) ∧
    p.entry = (f.outward (pixelMiddle f x y (-(d.model.thickness / 2)))).toTensor ∧
    p.exit = (f.outward (pixelMiddle f x y (d.model.thickness / 2))).toTensor

theorem hitOf_fires (f : Frame d) (t : Track ℝ) (shiftX shiftY signal : ℝ) {hit : Event.Hit ℝ}
    (h : hitOf d t shiftX shiftY signal = .ok hit) : Fires f hit := by
  obtain ⟨x, hx, hxinside⟩ := pixelAt_inside f.columns_pos t.u shiftX
  obtain ⟨y, hy, hyinside⟩ := pixelAt_inside f.rows_pos t.v shiftY
  have hcount : pair [f.columns, f.rows] = .ok (f.columns, f.rows) := rfl
  have hsize : pair [f.pitchX, f.pitchY] = .ok (f.pitchX, f.pitchY) := rfl
  have hcentreX : pixelCentre f.columns f.pitchX x = .ok (pixelMiddle f x y 0).x := rfl
  have hcentreY : pixelCentre f.rows f.pitchY y = .ok (pixelMiddle f x y 0).y := rfl
  have hlow : (0.0 : ℝ) - 0.5 * d.model.thickness = -(d.model.thickness / 2) := by
    norm_num
    ring
  have hhigh : (0.0 : ℝ) + 0.5 * d.model.thickness = d.model.thickness / 2 := by
    norm_num
    ring
  have hpoint (z : ℝ) : outward d [(pixelMiddle f x y 0).x, (pixelMiddle f x y 0).y, z] =
      .ok (f.outward (pixelMiddle f x y z)).toTensor := outward_frame f (pixelMiddle f x y z)
  rw [hitOf, f.pixels_eq, f.pixelSize_eq, bind_of_ok (liftShape_eq_ok.mpr hcount)] at h
  dsimp only at h
  rw [bind_of_ok (liftM_eq_ok.mpr hx), bind_of_ok (liftM_eq_ok.mpr hy),
    bind_of_ok (liftShape_eq_ok.mpr hsize)] at h
  dsimp only at h
  rw [bind_of_ok (liftM_eq_ok.mpr hcentreX), bind_of_ok (liftM_eq_ok.mpr hcentreY)] at h
  obtain ⟨p, hp, h⟩ := bind_eq_ok.mp h
  obtain rfl := Except.ok.inj h
  have hp := liftShape_eq_ok.mp hp
  rw [particleAt, hlow, hhigh, bind_of_ok (hpoint _), bind_of_ok (hpoint _)] at hp
  obtain rfl := Except.ok.inj hp
  exact ⟨x, y, _, rfl, rfl, rfl, hxinside, hyinside, rfl, rfl⟩

variable {g : Generator σ ℝ} {s : Settings ℝ} {r : Registry ℝ}

theorem drawHit_fires (g : Generator σ ℝ) (f : Frame d) (t : Track ℝ) :
    Yields (drawHit g d t) (Fires f) := by
  refine (Yields.trivial _).bind fun shiftX _ => (Yields.trivial _).bind fun shiftY _ =>
    (Yields.trivial _).bind fun signal _ => ?_
  exact .lift fun hit hhit => hitOf_fires f t shiftX shiftY signal hhit

structure FiresAll (f : Frame d) (m : Event.Message ℝ) : Prop where
  detector : m.detector = d.name
  hits : ∀ hit ∈ m.hits, Fires f hit

theorem drawMessage_fires (g : Generator σ ℝ) (f : Frame d) (tracks : List (Track ℝ)) :
    Yields (drawMessage g tracks d) (FiresAll f) := by
  refine (Yields.trivial _).bind fun _ _ => ?_
  refine (Yields.mapM fun t _ => drawHit_fires g f t).bind fun hits hhits => ?_
  refine .pure ⟨rfl, fun hit hhit => ?_⟩
  obtain ⟨t, -, hfires⟩ := exists_of_mem_right hhits hhit
  exact hfires

/-- Every message of an event is one of a detector. -/
theorem drawEvent_fires (g : Generator σ ℝ) (s : Settings ℝ)
    (frame : ∀ d ∈ r.detectors, Frame d) (firstId : Nat) :
    Yields (drawEvent g s r firstId) fun drawn =>
      ∀ m ∈ drawn.1, ∃ d, ∃ hd : d ∈ r.detectors, FiresAll (frame d hd) m := by
  refine (Yields.trivial _).bind fun tracks _ => ?_
  have hmessages : Yields (r.detectors.mapM (drawMessage g tracks))
      (List.Forall₂ (fun d m => ∃ hd : d ∈ r.detectors, FiresAll (frame d hd) m) r.detectors) :=
    Yields.mapM fun d hd state m next hm => ⟨hd, drawMessage_fires g (frame d hd) tracks _ _ _ hm⟩
  refine hmessages.bind fun messages hfires => .pure fun m hm => ?_
  obtain ⟨d, -, hd, hfires⟩ := exists_of_mem_right hfires hm
  exact ⟨d, hd, hfires⟩

theorem eventsFrom_fires (frame : ∀ d ∈ r.detectors, Frame d) (n : Nat) (number : Int)
    (firstId : Nat) (state : σ) :
    ∀ e ∈ (eventsFrom g s r n number firstId state).events, ∀ m ∈ e.2,
      ∃ d, ∃ hd : d ∈ r.detectors, FiresAll (frame d hd) m := by
  induction n generalizing number firstId state with
  | zero => simp [eventsFrom]
  | succ n ih =>
    cases hdrawn : drawEvent g s r firstId state with
    | error f => simp [eventsFrom, hdrawn]
    | ok drawn =>
      obtain ⟨⟨messages, tracks⟩, next⟩ := drawn
      have hfires := drawEvent_fires g s frame firstId state _ _ hdrawn
      rw [eventsFrom, hdrawn]
      exact List.forall_mem_cons.mpr ⟨hfires, ih _ _ _⟩

def position (s : Event.SimHit ℝ) : Vec3 ℝ := ⟨s.x, s.y, s.z⟩

/-- A row of the truth that leads back to the pixel of its hit: it stands in the middle of the way
of the particle, which goes from one side of the sensor to the other. -/
structure LeadsBack (f : Frame d) (hit : Event.Hit ℝ) (p : Event.Particle ℝ)
    (s : Event.SimHit ℝ) : Prop where
  track : s.track = p.track
  column : hit.column = .whole (pixelOf f.columns f.pitchX (f.inward (position s)).x)
  row : hit.row = .whole (pixelOf f.rows f.pitchY (f.inward (position s)).y)
  flat : (f.inward (position s)).z = 0
  insideX : |(f.inward (position s)).x| < f.columns * f.pitchX / 2
  insideY : |(f.inward (position s)).y| < f.rows * f.pitchY / 2
  sides : ∃ entry exit, p.entry = entry.toTensor ∧ p.exit = exit.toTensor ∧
    position s = Frame.middle entry exit ∧
    (f.inward entry).z = -(d.model.thickness / 2) ∧ (f.inward exit).z = d.model.thickness / 2

theorem position_of_point {p : Event.Particle ℝ} {s : Event.SimHit ℝ} {v w : Vec3 ℝ}
    (hs : Event.SimHit.At p s) (hentry : p.entry = v.toTensor) (hexit : p.exit = w.toTensor) :
    position s = Frame.middle v w := by
  obtain ⟨x, y, z, hpoint, hx, hy, hz⟩ := hs.point
  have hmiddle : Event.Match.point p = .ok (.scalar (0.5 * (v.x + w.x)),
      .scalar (0.5 * (v.y + w.y)), .scalar (0.5 * (v.z + w.z))) := by
    rw [Event.Match.point, Event.Particle.midpoint, hentry, hexit]
    rfl
  rw [hmiddle] at hpoint
  obtain ⟨rfl, hlast⟩ := Prod.mk.inj (Except.ok.inj hpoint)
  obtain ⟨rfl, rfl⟩ := Prod.mk.inj hlast
  rw [position, ← Except.ok.inj hx, ← Except.ok.inj hy, ← Except.ok.inj hz, Frame.middle]

theorem Fires.leadsBack {f : Frame d} {hit : Event.Hit ℝ} {p : Event.Particle ℝ}
    {s : Event.SimHit ℝ} (h : Fires f hit) (hp : p ∈ hit.particles)
    (hs : Event.SimHit.At p s) : LeadsBack f hit p s := by
  obtain ⟨x, y, q, hx, hy, hparticles, hxinside, hyinside, hentry, hexit⟩ := h.pixel
  obtain rfl := List.mem_singleton.mp (hparticles ▸ hp)
  have hposition := position_of_point hs hentry hexit
  have hmiddle : f.inward (position s) = pixelMiddle f x y 0 := by
    rw [hposition, f.middle_outward, f.inward_outward]
    simp only [Frame.middle, pixelMiddle, neg_add_cancel, mul_zero, Vec3.mk.injEq, and_true]
    constructor <;> ring
  refine ⟨hs.track, ?_, ?_, ?_, ?_, ?_, _, _, hentry, hexit, hposition, ?_, ?_⟩
  · rw [hmiddle, hx]
    exact congrArg _ (Geometry.pixelOf_centre f.pitchX_pos).symm
  · rw [hmiddle, hy]
    exact congrArg _ (Geometry.pixelOf_centre f.pitchY_pos).symm
  · rw [hmiddle]
    rfl
  · rw [hmiddle]
    exact Geometry.centre_inside f.pitchX_pos hxinside.1 hxinside.2
  · rw [hmiddle]
    exact Geometry.centre_inside f.pitchY_pos hyinside.1 hyinside.2
  · rw [f.inward_outward]
    rfl
  · rw [f.inward_outward]
    rfl

/-- The truth of events that are made up leads back to the pixels that were fired: turned back into
the coordinates of its sensor, the middle of the way of a particle lies in the pixel of its hit. -/
theorem truth_leads_back_to_pixel (frame : ∀ d ∈ r.detectors, Frame d) (g : Generator σ ℝ)
    (s : Settings ℝ) (state : σ) {b : Event.Builder} (ht : b.truth = true) {e : Delivery ℝ}
    (he : e ∈ (events g s r state).events) {record : Event.Record ℝ}
    (hbuild : b.build e.1 e.2 = .ok record) :
    ∃ t, record.truth = some t ∧
      (∀ q ∈ Event.deliveries e.2, ∃ p, q.2.particles = [p]) ∧
      List.Forall₂ (fun q simHit => ∃ d, ∃ hd : d ∈ r.detectors, q.1.1.detector = d.name ∧
          LeadsBack (frame d hd) q.1.2 q.2 simHit)
        ((Event.deliveries e.2).flatMap fun q => q.2.particles.map (q, ·)) t.simHits := by
  have hfires := eventsFrom_fires frame _ _ _ _ e he
  obtain ⟨t, htruth, hrows⟩ := Event.simHits_of_build ht hbuild
  have hdelivered : ∀ q ∈ Event.deliveries e.2, ∃ d, ∃ hd : d ∈ r.detectors,
      q.1.detector = d.name ∧ Fires (frame d hd) q.2 := by
    intro q hq
    obtain ⟨m, hm, hq⟩ := List.mem_flatMap.mp hq
    obtain ⟨hit, hhit, rfl⟩ := List.mem_map.mp hq
    obtain ⟨d, hd, hall⟩ := hfires m hm
    exact ⟨d, hd, hall.detector, hall.hits hit hhit⟩
  refine ⟨t, htruth, fun q hq => ?_, (forall₂_mem hrows).imp ?_⟩
  · obtain ⟨d, hd, -, hfires⟩ := hdelivered q hq
    obtain ⟨x, y, p, -, -, hp, -⟩ := hfires.pixel
    exact ⟨p, hp⟩
  · rintro ⟨q, p⟩ simHit ⟨hq, -, hat⟩
    obtain ⟨q', hq', hp⟩ := List.mem_flatMap.mp hq
    obtain ⟨p', hp', he⟩ := List.mem_map.mp hp
    obtain ⟨rfl, rfl⟩ := Prod.mk.inj he
    obtain ⟨d, hd, hname, hfires⟩ := hdelivered _ hq'
    exact ⟨d, hd, hname, hfires.leadsBack hp' hat⟩

noncomputable def tiltedTelescope : Registry ℝ where
  detectors := [{
    name := "tilted", position := .vector [1, 0, -1], orientation := Gear.lockedTurn.toTensor
    model := { type := "sensor", pixels := [2, 3], pixelSize := [1, 1], thickness := 1,
               excess := 0, chip := 0 } }]
  field := .absent

noncomputable def tiltedFrame (d : Detector ℝ) (hd : d ∈ tiltedTelescope.detectors) : Frame d where
  centre := ⟨1, 0, -1⟩
  turn := Gear.lockedTurn
  columns := 2
  rows := 3
  pitchX := 1
  pitchY := 1
  position_eq := by rw [List.mem_singleton.mp hd]; rfl
  orientation_eq := by rw [List.mem_singleton.mp hd]
  pixels_eq := by rw [List.mem_singleton.mp hd]
  pixelSize_eq := by rw [List.mem_singleton.mp hd]
  orthogonal := by
    simp only [Gear.lockedTurn, Mat3.multiply, Mat3.apply, Mat3.transpose, Vec3.dot, Mat3.identity,
      Scalar.zero_real, Scalar.one_real]
    norm_num
  columns_pos := by decide
  rows_pos := by decide
  pitchX_pos := by norm_num
  pitchY_pos := by norm_num

theorem tiltedTelescope_crossable : ∀ d ∈ tiltedTelescope.detectors, Crossable d := by
  intro d hd
  obtain rfl := List.mem_singleton.mp hd
  refine ⟨⟨⟨1, 0, -1, rfl⟩, ⟨Gear.lockedTurn, rfl⟩, ?_, ⟨1, 1, rfl⟩⟩, by simp⟩
  exact ⟨2, 3, rfl, ⟨_, rfl⟩, ⟨_, rfl⟩⟩

def tiltedBuilder : Event.Builder where
  assignment := {
    collections := [("tilted", "hits")]
    sensorIds := [("tilted", 0)]
    names := ["hits"]
    source := .short }
  truth := true

theorem truth_leads_back_to_pixel_tilted :
    ∃ messages record t,
      (events evenBeam { events := 1 } tiltedTelescope ()).events = [(1, messages)] ∧
      tiltedBuilder.build 1 messages = .ok record ∧ record.truth = some t ∧ t.simHits ≠ [] ∧
      ∀ simHit ∈ t.simHits, ∃ hit p d, ∃ hd : d ∈ tiltedTelescope.detectors,
        LeadsBack (tiltedFrame d hd) hit p simHit := by
  have hmean : (0 : ℝ) ≤ ({ events := 1 } : Settings ℝ).meanTracks := by
    show (0 : ℝ) ≤ 2.0
    norm_num
  obtain ⟨n, counted, messages, next, tracks, hcount, hdrawn, hids, hcrosses⟩ :=
    drawEvent_crosses (evenBeam_steady _) hmean tiltedTelescope_crossable 0 ()
  obtain rfl : 2 = n := (Prod.mk.inj (Except.ok.inj hcount)).1
  have hevents : (events evenBeam { events := 1 } tiltedTelescope ()).events =
      [(1, messages)] := by
    show (eventsFrom evenBeam { events := 1 } tiltedTelescope 1 1 0 ()).events = _
    rw [eventsFrom, hdrawn]
    rfl
  have hknown : ∀ m ∈ messages, tiltedBuilder.assignment.Places m.detector := by
    intro m hm
    obtain ⟨d, hd, hcrosses⟩ := exists_of_mem_right hcrosses hm
    rw [hcrosses.detector, List.mem_singleton.mp hd]
    exact ⟨⟨"hits", List.mem_singleton_self _, rfl⟩, 0, rfl⟩
  have hsmall : ∀ t ∈ tracks, t.id < 2 ^ 31 := by
    intro t ht
    have hid : t.id ∈ List.range' 0 2 := hids ▸ List.mem_map_of_mem ht
    have := List.mem_range'_1.mp hid
    omega
  obtain ⟨record, hbuild⟩ := Event.Builder.build_fits 1 hknown
    (fits_of_crosses tiltedTelescope_crossable hcrosses (by decide) hsmall)
  obtain ⟨t, htruth, hone, hleads⟩ := truth_leads_back_to_pixel tiltedFrame evenBeam
    { events := 1 } () (b := tiltedBuilder) rfl (hevents ▸ List.mem_singleton_self _) hbuild
  refine ⟨messages, record, t, hevents, hbuild, htruth, ?_, fun simHit hs => ?_⟩
  · have htracks := congrArg List.length hids
    rw [List.length_map] at htracks
    have hlength : (Event.deliveries messages).length = 2 := by
      rw [← (deliveries_crosses hcrosses).length_eq, List.length_product, htracks]
      rfl
    obtain ⟨q, hq⟩ := List.exists_mem_of_length_pos (hlength ▸ Nat.zero_lt_two)
    obtain ⟨p, hp⟩ := hone q hq
    intro hnil
    rw [hnil, List.forall₂_nil_right_iff, List.flatMap_eq_nil_iff] at hleads
    simpa [hp] using hleads q hq
  · obtain ⟨q, -, d, hd, -, hback⟩ := exists_of_mem_right hleads hs
    exact ⟨_, _, d, hd, hback⟩

end PixelTelescope.Beam
