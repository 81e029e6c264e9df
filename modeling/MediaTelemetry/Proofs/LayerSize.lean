import MediaTelemetry.Proofs.Doubles
import MediaTelemetry.Proofs.Figures

/-!
# The picture of several layers

Of the pictures that the layers of a sent stream have, a record keeps the largest width, the largest
height and the largest frame rate, each by itself (`Picture.IsMergedOf`). So what it keeps covers
every layer, and each of the three is that of some layer.

It is the picture of a layer, and then of one with the largest area, if and only if one layer is the
largest in all three (`Ledger.pictures_merged`). A wide layer beside a high one, or a small one with
the faster frames, makes up a picture that nobody sends.
-/

namespace MediaTelemetry

/-! ### Largest values -/

/-- Where the values of elements compare as keys do, the largest value is that of an element with
the largest key. -/
theorem maxPresent_map_spec {σ α β : Type} [LT α] [DecidableLT α] [LinearOrder β] (f : σ → α)
    (key : σ → β) {l : List σ} (hkey : ∀ a ∈ l, ∀ b ∈ l, f a < f b ↔ key a < key b) (hne : l ≠ []) :
    ∃ a ∈ l, maxPresent (l.map fun a ↦ some (f a)) = some (f a) ∧ ∀ b ∈ l, key b ≤ key a := by
  induction l using List.reverseRecOn with
  | nil => exact absurd rfl hne
  | append_singleton l last ih =>
    rw [maxPresent, List.map_append, List.foldl_append, ← maxPresent]
    have hlast : last ∈ l ++ [last] := List.mem_append_right _ (List.mem_singleton_self last)
    by_cases hempty : l = []
    · subst hempty
      exact ⟨last, hlast, rfl, by simp⟩
    · obtain ⟨a, ha, hmax, hle⟩ := ih (fun a ha b hb ↦
        hkey a (List.mem_append_left _ ha) b (List.mem_append_left _ hb)) hempty
      have hiff : f a < f last ↔ key a < key last := hkey a (List.mem_append_left _ ha) last hlast
      rw [hmax]
      show ∃ b ∈ l ++ [last], some (if f a < f last then f last else f a) = some (f b) ∧ _
      by_cases hlt : f a < f last
      · refine ⟨last, hlast, by rw [if_pos hlt], fun b hb ↦ ?_⟩
        rcases List.mem_append.1 hb with hb | hb
        · exact (hle b hb).trans (hiff.1 hlt).le
        · rw [List.mem_singleton.1 hb]
      · refine ⟨a, List.mem_append_left _ ha, by rw [if_neg hlt], fun b hb ↦ ?_⟩
        rcases List.mem_append.1 hb with hb | hb
        · exact hle b hb
        · rw [List.mem_singleton.1 hb]
          exact not_lt.1 (hiff.not.1 hlt)

/-! ### Pictures -/

/-- Size and frame rate of what is sent. -/
structure Picture where
  width : Nat
  height : Nat
  rate : Float

namespace Picture

/-- The number of points. -/
def area (p : Picture) : Nat := p.width * p.height

/-- The first picture is at least as large as the second in every respect. -/
structure Covers (p q : Picture) : Prop where
  width : q.width ≤ p.width
  height : q.height ≤ p.height
  rate : q.rate ≤ p.rate

/-- The pictures are the same, frame rates compared as numbers. -/
structure Same (p q : Picture) : Prop where
  width : p.width = q.width
  height : p.height = q.height
  rate : (p.rate == q.rate) = true

end Picture

/-- The picture of a layer that says all of it. -/
def OutboundRtp.picture? (layer : OutboundRtp) : Option Picture :=
  match layer.frameWidth, layer.frameHeight, layer.framesPerSecond with
  | some width, some height, some rate => some ⟨width.toNat, height.toNat, rate⟩
  | _, _, _ => none

/-- The picture that a record keeps. -/
def SendRecord.picture (s : SendRecord) : Picture :=
  ⟨s.frameWidth, s.frameHeight, s.framesPerSecond⟩

theorem OutboundRtp.of_picture? {layer : OutboundRtp} {p : Picture}
    (h : layer.picture? = some p) :
    layer.frameWidth.map UInt32.toNat = some p.width ∧
      layer.frameHeight.map UInt32.toNat = some p.height ∧ layer.framesPerSecond = some p.rate := by
  rw [picture?] at h
  split at h
  · rename_i width height rate hwidth hheight hrate
    obtain rfl := Option.some.inj h
    exact ⟨by rw [hwidth]; rfl, by rw [hheight]; rfl, hrate⟩
  · exact absurd h (by simp)

/-- Where every element of a list gives something, what goes by what is given goes by the list of
it. -/
theorem map_eq_map_of_given {α β γ : Type} {given : α → Option β} {f : α → γ} {g : β → γ}
    (hg : ∀ a b, given a = some b → f a = g b) :
    ∀ {l : List α} {l' : List β}, l.map given = l'.map some → l.map f = l'.map g
  | [], [], _ => rfl
  | [], _ :: _, h | _ :: _, [], h => absurd h (by simp)
  | a :: l, b :: l', h => by
    rw [List.map_cons, List.map_cons, List.cons.injEq] at h
    rw [List.map_cons, List.map_cons, hg a b h.1, map_eq_map_of_given hg h.2]

/-- The picture is merged of pictures: each respect is the largest of them and that of one of
them. -/
structure Picture.IsMergedOf (whole : Picture) (pictures : List Picture) : Prop where
  covers : ∀ p ∈ pictures, whole.Covers p
  width : ∃ p ∈ pictures, p.width = whole.width
  height : ∃ p ∈ pictures, p.height = whole.height
  rate : ∃ p ∈ pictures, p.rate = whole.rate

theorem SendRecord.picture_takeLayers_eq (s : SendRecord) (layers : List OutboundRtp) :
    (s.takeLayers layers).picture =
      ⟨(OutboundRtp.largest layers (·.frameWidth)).getD s.frameWidth,
        (OutboundRtp.largest layers (·.frameHeight)).getD s.frameHeight,
        (maxPresent (layers.map (·.framesPerSecond))).getD s.framesPerSecond⟩ :=
  rfl

/-- What layers say of their pictures is merged respect by respect. -/
theorem SendRecord.picture_takeLayers (s : SendRecord) {layers : List OutboundRtp}
    {pictures : List Picture} (h : layers.map (·.picture?) = pictures.map some)
    (hne : pictures ≠ []) (hfinite : ∀ p ∈ pictures, p.rate.isFinite = true) :
    (s.takeLayers layers).picture.IsMergedOf pictures := by
  have hwidths : layers.map (fun l ↦ l.frameWidth.map UInt32.toNat) =
      pictures.map fun p ↦ some p.width :=
    map_eq_map_of_given (fun l p hp ↦ (OutboundRtp.of_picture? hp).1) h
  have hheights : layers.map (fun l ↦ l.frameHeight.map UInt32.toNat) =
      pictures.map fun p ↦ some p.height :=
    map_eq_map_of_given (fun l p hp ↦ (OutboundRtp.of_picture? hp).2.1) h
  have hrates : layers.map (·.framesPerSecond) = pictures.map fun p ↦ some p.rate :=
    map_eq_map_of_given (fun l p hp ↦ (OutboundRtp.of_picture? hp).2.2) h
  obtain ⟨w, hw, hwidth, hwidest⟩ :=
    maxPresent_map_spec (·.width) (·.width) (fun _ _ _ _ ↦ Iff.rfl) hne
  obtain ⟨t, ht, hheight, htallest⟩ :=
    maxPresent_map_spec (·.height) (·.height) (fun _ _ _ _ ↦ Iff.rfl) hne
  have hunits : ∀ p ∈ pictures, ∀ q ∈ pictures,
      p.rate < q.rate ↔ Double.units p.rate < Double.units q.rate := fun p hp q hq ↦
    Double.lt_iff (hfinite p hp) (hfinite q hq)
  obtain ⟨r, hr, hrate, hfastest⟩ :=
    maxPresent_map_spec (·.rate) (fun p ↦ Double.units p.rate) hunits hne
  have hwhole : (s.takeLayers layers).picture = ⟨w.width, t.height, r.rate⟩ := by
    rw [picture_takeLayers_eq, OutboundRtp.largest, OutboundRtp.largest, hwidths, hheights, hrates,
      hwidth, hheight, hrate]
    rfl
  rw [hwhole]
  refine ⟨fun p hp ↦ ⟨hwidest p hp, htallest p hp, ?_⟩, ⟨w, hw, rfl⟩, ⟨t, ht, rfl⟩, ⟨r, hr, rfl⟩⟩
  exact (Double.le_iff (hfinite p hp) (hfinite r hr)).2 (hfastest p hp)

/-- A merged picture is one of the pictures, and then one of the largest area, if one of them covers
all. -/
theorem Picture.IsMergedOf.exists_same_iff {whole : Picture} {pictures : List Picture}
    (h : whole.IsMergedOf pictures) (hfinite : ∀ p ∈ pictures, p.rate.isFinite = true) :
    (∃ p ∈ pictures, whole.Same p ∧ ∀ q ∈ pictures, q.area ≤ p.area) ↔
      ∃ p ∈ pictures, ∀ q ∈ pictures, p.Covers q := by
  obtain ⟨fastest, hfastest, hrate⟩ := h.rate
  have hwhole : whole.rate.isFinite = true := hrate ▸ hfinite fastest hfastest
  constructor
  · rintro ⟨p, hp, hsame, -⟩
    refine ⟨p, hp, fun q hq ↦ ?_⟩
    have hcovers := h.covers q hq
    refine ⟨hsame.width ▸ hcovers.width, hsame.height ▸ hcovers.height, ?_⟩
    have hle := (Double.le_iff (hfinite q hq) hwhole).1 hcovers.rate
    rw [(Double.beq_iff hwhole (hfinite p hp)).1 hsame.rate] at hle
    exact (Double.le_iff (hfinite q hq) (hfinite p hp)).2 hle
  · rintro ⟨p, hp, hall⟩
    obtain ⟨widest, hwidest, hwidth⟩ := h.width
    obtain ⟨tallest, htallest, hheight⟩ := h.height
    -- what covers all is at least as large as the merged picture, and covered by it
    have hcovers := h.covers p hp
    have hle := (Double.le_iff hwhole (hfinite p hp)).1 (hrate ▸ (hall fastest hfastest).rate)
    have hge := (Double.le_iff (hfinite p hp) hwhole).1 hcovers.rate
    refine ⟨p, hp, ⟨?_, ?_, ?_⟩, fun q hq ↦ ?_⟩
    · exact le_antisymm (hwidth ▸ (hall widest hwidest).width) hcovers.width
    · exact le_antisymm (hheight ▸ (hall tallest htallest).height) hcovers.height
    · exact (Double.beq_iff hwhole (hfinite p hp)).2 (le_antisymm hle hge)
    · exact Nat.mul_le_mul (hall q hq).width (hall q hq).height

/-! ### Reports -/

namespace Entry

/-- What the far end reports leaves the picture alone. -/
theorem picture_foldl_takeRemote (reports : List RemoteInboundRtp) :
    ∀ {e : Entry} {s : SendRecord}, e.send = some s →
      ∃ s', (reports.foldl takeRemote e).send = some s' ∧ s'.picture = s.picture := by
  induction reports with
  | nil => exact fun {e s} h ↦ ⟨s, h, rfl⟩
  | cons r rest ih =>
    intro e s h
    have hnext : (e.takeRemote r).send = some (s.takeRemote r) := by
      rw [takeRemote, h, Option.getD_some]
    obtain ⟨s', hs', hpicture⟩ := ih hnext
    exact ⟨s', hs', hpicture⟩

/-- The picture after a report is merged of the layers of the report. -/
theorem picture_takeReport (e : Entry) {line : Line} (hsend : line.direction = .send)
    (report : List Fragment) (tick : Nat) {pictures : List Picture}
    (h : (Fragment.outbounds report).map (·.picture?) = pictures.map some) (hne : pictures ≠ [])
    (hfinite : ∀ p ∈ pictures, p.rate.isFinite = true) :
    ∃ s, (e.takeReport line report tick).send = some s ∧ s.picture.IsMergedOf pictures := by
  have hlayers : ¬ (Fragment.outbounds report).isEmpty = true := by
    intro hempty
    rw [List.isEmpty_iff.1 hempty] at h
    exact hne (List.map_eq_nil_iff.1 h.symm)
  have hlocal : ∃ s, (e.takeLocal line report).send = some s ∧ s.picture.IsMergedOf pictures := by
    rw [takeLocal, hsend]
    dsimp only
    rw [takeLayers, if_neg hlayers]
    exact ⟨_, rfl, SendRecord.picture_takeLayers _ h hne hfinite⟩
  obtain ⟨s, hs, hmerged⟩ := hlocal
  obtain ⟨s', hs', hpicture⟩ := picture_foldl_takeRemote (Fragment.remoteInbounds report) hs
  refine ⟨s', ?_, by rwa [hpicture]⟩
  show ((e.takeLocal line report).takeFar line report).send = some s'
  rw [takeFar, hsend]
  exact hs'

end Entry

/-- **Size and frame rate are merged apart.** Let a report on a send line have layers that all give
their picture, with frame rates that are numbers. What the line keeps then is at least as large as
every layer in each respect, and each respect is that of some layer. It is the picture of one layer,
of one with the largest area, exactly if some layer is at least as large as all others in each
respect. -/
theorem Ledger.pictures_merged (ledger : Ledger) {line : Line} (hsend : line.direction = .send)
    {report : List Fragment} {pictures : List Picture}
    (h : (Fragment.outbounds report).map (·.picture?) = pictures.map some) (hne : pictures ≠ [])
    (hfinite : ∀ p ∈ pictures, p.rate.isFinite = true) (tick : Nat) :
    ∃ e s, (ledger.takeReport line report tick).get? line = some e ∧ e.send = some s ∧
      s.picture.IsMergedOf pictures ∧
      ((∃ p ∈ pictures, s.picture.Same p ∧ ∀ q ∈ pictures, q.area ≤ p.area) ↔
        ∃ p ∈ pictures, ∀ q ∈ pictures, p.Covers q) := by
  have hconcerns : report.any (·.concerns line) = true := by
    by_contra hnot
    rw [Fragment.outbounds_of_not_concerns hnot hsend] at h
    exact hne (List.map_eq_nil_iff.1 h.symm)
  obtain ⟨s, hs, hmerged⟩ :=
    (ledger.entry line).picture_takeReport hsend report tick h hne hfinite
  refine ⟨(ledger.entry line).takeReport line report tick, s, ?_, hs, hmerged,
    hmerged.exists_same_iff hfinite⟩
  rw [takeReport, if_pos hconcerns, KeyMap.get?_insert_self]

/-- Of two layers of one shape the larger one has the faster frames. -/
theorem Ledger.picture_of_larger_layer :
    let small : Picture := ⟨320, 180, 15.0⟩
    let large : Picture := ⟨1280, 720, 30.0⟩
    let layer (p : Picture) : Fragment := .outboundRtp
      { frameWidth := some (.ofNat p.width), frameHeight := some (.ofNat p.height)
        framesPerSecond := some p.rate }
    ∃ e s, (Ledger.takeReport ∅ (.send .video 0) [layer small, layer large] 1).get?
        (.send .video 0) = some e ∧ e.send = some s ∧
      ∃ p ∈ [small, large], s.picture.Same p ∧ ∀ q ∈ [small, large], q.area ≤ p.area := by
  intro small large layer
  have hsend : (Line.send .video 0).direction = .send := rfl
  have hpictures : (Fragment.outbounds [layer small, layer large]).map (·.picture?) =
      [small, large].map some := rfl
  have hfinite : ∀ p ∈ [small, large], p.rate.isFinite = true := by decide +kernel
  obtain ⟨e, s, he, hs, -, hiff⟩ :=
    Ledger.pictures_merged ∅ hsend hpictures (List.cons_ne_nil _ _) hfinite 1
  have hcovers : ∀ q ∈ [small, large], large.Covers q := by
    simp only [List.forall_mem_cons]
    exact ⟨⟨by decide, by decide, by decide +kernel⟩, ⟨by decide, by decide, by decide +kernel⟩,
      nofun⟩
  exact ⟨e, s, he, hs, hiff.2 ⟨large, by simp, hcovers⟩⟩

/-- The larger of two layers has the slower frames: its size is kept with the frame rate of the
smaller one, which is the picture of neither. -/
theorem Ledger.picture_of_no_layer :
    let small : Picture := ⟨320, 180, 30.0⟩
    let large : Picture := ⟨1280, 720, 15.0⟩
    let layer (p : Picture) : Fragment := .outboundRtp
      { frameWidth := some (.ofNat p.width), frameHeight := some (.ofNat p.height)
        framesPerSecond := some p.rate }
    let after := (Ledger.takeReport ∅ (.send .video 0) [layer large, layer small] 1).entry
      (.send .video 0)
    let kept := (after.send.getD {}).picture
    kept.width = 1280 ∧ kept.height = 720 ∧ kept.rate = 30.0 ∧
      ¬ ∃ p ∈ [large, small], kept.Same p := by
  intro small large layer after kept
  refine ⟨by decide +kernel, by decide +kernel, by decide +kernel, ?_⟩
  rintro ⟨p, hp, hsame⟩
  rcases List.mem_cons.1 hp with rfl | hp
  · exact absurd hsame.rate (by decide +kernel)
  · rw [List.mem_singleton.1 hp] at hsame
    exact absurd hsame.width (by decide +kernel)

end MediaTelemetry
