import ShaderWeave.Proofs.Pipeline.Layouts

/-!
# Which pipelines of a run share a layout

A store shares its environment and its device with others. What a pipeline without textures, or without
anything of the environment, is bound against is its own. What it is bound against for a mask it shares
with all pipelines of that mask, until the environment forgets its layouts.
-/

namespace ShaderWeave.PipelineStore

/-! ## Steps -/

/-- What happens to a store, its environment and its device. -/
inductive Act
  | call (c : Call) (own : c.op.IsOwn)
  | layoutFor (mask : Mask)
  | clearLayouts
  /-- Others use the device. -/
  | others (calls : CallCounts)

namespace Act

def step (w : World) : Act → World
  | call c _ => after w c
  | layoutFor m =>
    let r := w.environment.layoutFor w.device m
    { w with environment := r.state.1, device := r.state.2 }
  | clearLayouts => { w with environment := w.environment.clear }
  | others calls => { w with device := w.device.also calls }

/-- The entry that a request returns. -/
def returned (w : World) : Act → List BuiltPipeline
  | call ⟨.request ids cull, _⟩ _ => (w.request ids cull).toOption.toList
  | _ => []

/-- The entry that a request returns, if it was not stored before. -/
def built (w : World) (a : Act) : List BuiltPipeline :=
  (a.returned w).filter fun e => e ∉ w.store.pipelines

/-- The rows for the layouts that the store and the environment make. -/
def made (w : World) (period : Nat) : Act → Ledger
  | layoutFor m => w.environment.made period m (w.environment.layoutFor w.device m).result
  | a => (a.built w).flatMap fun e => e.made period w.environment

end Act

/-- What happened in a run so far. -/
structure History where
  /-- The number of times that the environment forgot its layouts. -/
  period : Nat := 0
  ledger : Ledger := []
  builds : List Build := []
  /-- The entries that requests returned. -/
  returned : List BuiltPipeline := []
  /-- The number of bind group layouts that others made. -/
  foreign : Nat := 0

def History.next (h : History) (w : World) (a : Act) : History where
  period := match a with
    | .clearLayouts => h.period + 1
    | _ => h.period
  ledger := h.ledger ++ a.made w h.period
  builds := h.builds ++ (a.built w).map (Build.mk h.period)
  returned := h.returned ++ a.returned w
  foreign := match a with
    | .others calls => h.foreign + calls.bindGroupLayouts
    | _ => h.foreign

/-- A run together with its history. -/
def trace (w : World) (h : History) : List Act → World × History
  | [] => (w, h)
  | a :: acts => trace (a.step w) (h.next w a) acts

theorem trace_fst (w : World) (h : History) (acts : List Act) :
    (trace w h acts).1 = acts.foldl Act.step w := by
  induction acts generalizing w h with
  | nil => rfl
  | cons a acts ih => exact ih _ _

/-! ## The ledger of a run -/

/-- The history accounts for all layouts: since the given device they were made by others or have rows
in the ledger. -/
structure Recorded (host : HostLayouts) (start : Device) (w : World) (h : History) : Prop where
  sameHost : w.store.host = host
  since : start.nextId ≤ w.device.nextId
  sound : h.ledger.Sound start.nextId w.device h.period
  tables : h.ledger.Tables h.period w.environment
  stored : w.store.pipelines ⊆ h.builds.map Build.entry
  returned : h.returned ⊆ h.builds.map Build.entry
  entered : ∀ b ∈ h.builds, b.Entered host h.ledger
  pipelines_nodup : (h.builds.map fun b => b.entry.pipeline.id).Nodup
  pipelines_lt : ∀ b ∈ h.builds, b.entry.pipeline.id < w.device.nextId
  counted : w.device.counts.bindGroupLayouts =
    start.counts.bindGroupLayouts + h.ledger.length + h.foreign

namespace Recorded

variable {host : HostLayouts} {start : Device} {w w' : World} {h : History} {e : BuiltPipeline}

theorem leaves (hr : Recorded host start w h) (hw : Leaves w w') {returned : List BuiltPipeline}
    (hret : ∀ e ∈ returned, e ∈ w.store.pipelines) :
    Recorded host start w' { h with returned := h.returned ++ returned } where
  sameHost := hw.host.trans hr.sameHost
  since := hr.since.trans hw.nextId
  sound := hr.sound.mono hw.nextId le_rfl
  tables := by rw [hw.environment]; exact hr.tables
  stored e he := hr.stored (hw.pipelines e he)
  returned := List.append_subset.mpr ⟨hr.returned, fun e he => hr.stored (hret e he)⟩
  entered := hr.entered
  pipelines_nodup := hr.pipelines_nodup
  pipelines_lt b hb := (hr.pipelines_lt b hb).trans_le hw.nextId
  counted := hw.layouts.trans hr.counted

theorem sound_append {rows : Ledger} {d d' d'' : Device} (hr : Recorded host start w h)
    (hd : w.device.nextId ≤ d.nextId) (hmakes : d.Makes rows d') (hd'' : d'.nextId ≤ d''.nextId)
    (hnodup : (rows.map Made.purpose).Nodup)
    (hrows : ∀ r ∈ rows, (∃ n, r.purpose.pipeline? = some n ∧ d'.nextId ≤ n ∧ n < d''.nextId) ∨
      ∃ m, r.purpose = .mask h.period m ∧ w.environment.get? m = none) :
    Ledger.Sound (h.ledger ++ rows) start.nextId d'' h.period := by
  -- A purpose is new if its pipeline has a new number, or the table has no layout for its mask.
  have hgrows := hmakes.nextId
  refine (hr.sound.mono hd le_rfl).append (hr.since.trans hd) hmakes hd'' hnodup ?new ?past
  case new =>
    intro r hrow r' hr' he
    obtain ⟨n, hn, hge, -⟩ | ⟨m, hm, hmissing⟩ := hrows r hrow
    · have hlt := (hr.sound.purposes_past r' hr').pipeline_lt (he ▸ hn)
      omega
    · have hkept := (hr.tables m r'.layout).mpr (by rw [← hm, ← he]; exact hr')
      simp [hmissing] at hkept
  case past =>
    intro r hrow
    obtain ⟨n, hn, -, hlt⟩ | ⟨m, hm, -⟩ := hrows r hrow
    · cases hp : r.purpose <;> simp_all [Purpose.pipeline?, Purpose.Past]
    · simp [hm, Purpose.Past]

theorem pipeline_ne (hr : Recorded host start w h) (hb : Builds w e w') :
    ∀ b ∈ h.builds, b.entry.pipeline.id ≠ e.pipeline.id := by
  obtain ⟨n, d', hmakes, hid, -⟩ := hb.makes h.period
  have hgrows := hmakes.nextId
  rw [Device.nextId_also] at hgrows
  intro b hb
  have hlt := hr.pipelines_lt b hb
  omega

theorem not_stored (hr : Recorded host start w h) (hb : Builds w e w') : e ∉ w.store.pipelines := by
  intro he
  obtain ⟨b, hb', rfl⟩ := List.mem_map.mp (hr.stored he)
  exact hr.pipeline_ne hb b hb' rfl

theorem builds (hr : Recorded host start w h) (hb : Builds w e w') :
    Recorded host start w' { h with
      ledger := h.ledger ++ e.made h.period w.environment
      builds := h.builds ++ [⟨h.period, e⟩]
      returned := h.returned ++ [e] } := by
  obtain ⟨n, d', hmakes, hid, hdevice⟩ := hb.makes h.period
  have hgrows := hmakes.nextId
  have hmodules := Device.nextId_also w.device { shaderModules := n }
  have hnext : w'.device.nextId = d'.nextId + 2 := by
    rw [hdevice, Device.nextId_also]
    rfl
  have hconcat {l : List BuiltPipeline} (hl : l ⊆ h.builds.map Build.entry) :
      l ++ [e] ⊆ (h.builds ++ [Build.mk h.period e]).map Build.entry := by
    rw [List.map_append, List.append_subset]
    exact ⟨fun _ hx => List.mem_append_left _ (hl hx), List.subset_append_right _ _⟩
  refine ⟨hb.host.trans hr.sameHost, ?since, ?sound, hb.tables hr.tables, ?stored, ?returned, ?entered,
    VariantStore.nodup_map_concat hr.pipelines_nodup (hr.pipeline_ne hb), ?lt, ?counted⟩
  case since =>
    have hsince := hr.since
    omega
  case sound =>
    apply hr.sound_append (by omega) hmakes (by omega) (e.purposes_nodup_made h.period w.environment)
    intro r hrow
    rcases BuiltPipeline.purpose_of_mem_made hrow with hp | ⟨hp, hmissing⟩
    · exact .inl ⟨_, hp, by omega, by omega⟩
    · exact .inr ⟨_, hp, hmissing⟩
  case stored =>
    rw [hb.pipelines]
    exact hconcat hr.stored
  case returned => exact hconcat hr.returned
  case entered =>
    intro b hmem
    rcases List.mem_append.mp hmem with hmem | hmem
    · exact (hr.entered b hmem).append _
    · rw [List.mem_singleton.mp hmem, ← hr.sameHost]
      exact hb.entered hr.tables
  case lt =>
    intro b hmem
    rcases List.mem_append.mp hmem with hmem | hmem
    · have hlt := hr.pipelines_lt b hmem
      omega
    · obtain rfl := List.mem_singleton.mp hmem
      simp only
      omega
  case counted =>
    have hcounted := hr.counted
    rw [hdevice, hmakes.device]
    simp only [Device.also, CallCounts.add, List.length_append]
    omega

theorem asked (hr : Recorded host start w h) (m : Mask) :
    Recorded host start ((Act.layoutFor m).step w) { h with
      ledger := h.ledger ++ w.environment.made h.period m
        (w.environment.layoutFor w.device m).result } := by
  have hmakes := w.environment.layoutFor_makes w.device m h.period
  have hgrows := hmakes.nextId
  have hdevice : w.device.nextId ≤ ((Act.layoutFor m).step w).device.nextId := by
    simp only [Act.step]
    omega
  refine ⟨hr.sameHost, hr.since.trans hdevice, ?sound, w.environment.tables_layoutFor hr.tables w.device m,
    hr.stored, hr.returned, fun b hb => (hr.entered b hb).append _, hr.pipelines_nodup,
    fun b hb => (hr.pipelines_lt b hb).trans_le hdevice, ?counted⟩
  case sound =>
    apply hr.sound_append le_rfl hmakes le_rfl (w.environment.purposes_nodup_made h.period m _)
    intro r hrow
    obtain ⟨rfl, hmissing⟩ := MaskLayouts.mem_made_iff.mp hrow
    exact .inr ⟨m, rfl, hmissing⟩
  case counted =>
    have hcounted := hr.counted
    simp only [Act.step, hmakes.device, Device.also, CallCounts.add, List.length_append]
    omega

theorem cleared (hr : Recorded host start w h) :
    Recorded host start (Act.clearLayouts.step w) { h with period := h.period + 1 } where
  sameHost := hr.sameHost
  since := hr.since
  sound := hr.sound.mono le_rfl (Nat.le_succ _)
  tables := Ledger.tables_clear hr.sound w.environment
  stored := hr.stored
  returned := hr.returned
  entered := hr.entered
  pipelines_nodup := hr.pipelines_nodup
  pipelines_lt := hr.pipelines_lt
  counted := hr.counted

theorem others (hr : Recorded host start w h) (calls : CallCounts) :
    Recorded host start ((Act.others calls).step w)
      { h with foreign := h.foreign + calls.bindGroupLayouts } := by
  have hdevice : w.device.nextId ≤ (w.device.also calls).nextId := by
    rw [Device.nextId_also]
    omega
  refine ⟨hr.sameHost, hr.since.trans hdevice, hr.sound.mono hdevice le_rfl, hr.tables, hr.stored,
    hr.returned, hr.entered, hr.pipelines_nodup, fun b hb => (hr.pipelines_lt b hb).trans_le hdevice, ?_⟩
  have hcounted := hr.counted
  simp only [Act.step, Device.also, CallCounts.add]
  omega

theorem next_of_leaves {c : Call} {own : c.op.IsOwn} (hr : Recorded host start w h)
    (hw : Leaves w (after w c)) (hret : ∀ e ∈ (Act.call c own).returned w, e ∈ w.store.pipelines) :
    Recorded host start (after w c) (h.next w (.call c own)) := by
  have hnone : (Act.call c own).built w = [] := by simpa [Act.built] using hret
  simpa [History.next, Act.made, hnone] using hr.leaves hw hret

theorem next_of_builds {c : Call} {own : c.op.IsOwn} (hr : Recorded host start w h)
    (hb : Builds w e (after w c)) (hret : (Act.call c own).returned w = [e]) :
    Recorded host start (after w c) (h.next w (.call c own)) := by
  have hnew := hr.not_stored hb
  have hone : (Act.call c own).built w = [e] := by simp [Act.built, hret, hnew]
  simpa [History.next, Act.made, hone, hret] using hr.builds hb

theorem next (hr : Recorded host start w h) (a : Act) : Recorded host start (a.step w) (h.next w a) := by
  cases a with
  | call c own =>
    obtain ⟨op, held⟩ := c
    cases op with
    | request ids cull =>
      obtain ⟨hleaves, hret⟩ | ⟨e, hok, hbuilds⟩ := request_cases w ids cull held
      · refine hr.next_of_leaves hleaves ?_
        intro e he
        cases hok : w.request ids cull <;> simp [Act.returned, hok, Except.toOption] at he
        exact hret e (he ▸ hok)
      · exact hr.next_of_builds hbuilds (by simp [Act.returned, hok, Except.toOption])
    | _ => exact hr.next_of_leaves (leaves_of_not_request own (by simp)) (by simp [Act.returned])
  | layoutFor m => simpa [History.next, Act.made, Act.built, Act.returned] using hr.asked m
  | clearLayouts => simpa [History.next, Act.made, Act.built, Act.returned] using hr.cleared
  | others calls => simpa [History.next, Act.made, Act.built, Act.returned] using hr.others calls

theorem trace (hr : Recorded host start w h) (acts : List Act) :
    Recorded host start (trace w h acts).1 (trace w h acts).2 := by
  induction acts generalizing w h with
  | nil => exact hr
  | cons a acts ih => exact ih (hr.next a)

end Recorded

theorem recorded_start (host : HostLayouts) (lib : Library) (settings : PipelineSettings) (d : Device) :
    Recorded host d (start host lib settings {} d) {} where
  sameHost := rfl
  since := le_rfl
  sound := Ledger.sound_nil d
  tables := by simp [Ledger.Tables, start, MaskLayouts.get?]
  stored := by simp [start, ofLibrary]
  returned := by simp
  entered := by simp
  pipelines_nodup := by simp
  pipelines_lt := by simp
  counted := rfl

/-- In every run, pipelines share a layout just when they have the same mask and the environment did not
forget its layouts between them, and the device is asked once at most for each. -/
theorem layouts_by_identity (host : HostLayouts) (lib : Library) (settings : PipelineSettings)
    (d : Device) (hhost : host.MadeBy d) (acts : List Act) :
    let w := start host lib settings {} d
    let h := (trace w {} acts).2
    (∀ e ∈ h.returned, ∃ b ∈ h.builds, b.entry = e) ∧
    (h.builds.map fun b => b.entry.pipeline.id).Nodup ∧
    (∀ b ∈ h.builds, b.entry.Bound host) ∧
    (∀ a ∈ h.builds, ∀ b ∈ h.builds, a ≠ b → a.Shares b) ∧
    (h.ledger.map Made.purpose).Nodup ∧
    (acts.foldl Act.step w).device.counts.bindGroupLayouts =
      d.counts.bindGroupLayouts + h.ledger.length + h.foreign := by
  intro w h
  have hr : Recorded host d (trace w {} acts).1 h := (recorded_start host lib settings d).trace acts
  rw [trace_fst] at hr
  refine ⟨?_, hr.pipelines_nodup, ?_, ?_, hr.sound.purposes_nodup, hr.counted⟩
  · intro e he
    exact List.mem_map.mp (hr.returned he)
  · intro b hb
    exact (hr.entered b hb).bound hr.sound hhost
  · intro a ha b hb hne
    apply (hr.entered a ha).shares (hr.entered b hb) hr.sound hhost
    intro hid
    exact hne (List.inj_on_of_nodup_map hr.pipelines_nodup ha hb hid)

/-- Shadows are asked for with two cull modes, and with a third after the environment has forgotten. -/
def shadowCulledThrice : List Act := [
  .call ⟨.register { id := "shadow", stage := .fragment }, []⟩ trivial,
  .call ⟨.request ["shadow"] .back, []⟩ trivial,
  .call ⟨.request ["shadow"] .front, []⟩ trivial,
  .clearLayouts,
  .call ⟨.request ["shadow"] .none, []⟩ trivial]

theorem layouts_by_identity_shadow_culled_thrice :
    let h := (trace plain {} shadowCulledThrice).2
    plain.store.host.MadeBy plain.device ∧ h.returned.length = 3 ∧
      ∃ a b c, h.builds = [a, b, c] ∧
        a.entry.environmentLayout = b.entry.environmentLayout ∧
        b.entry.environmentLayout.id ≠ c.entry.environmentLayout.id ∧
        a.entry.texturesLayout.id ∉ b.entry.pipelineLayout.groups := by
  intro h
  have hhost : plain.store.host.MadeBy plain.device := by constructor <;> decide
  have hreturned : h.returned.length = 3 := by decide +kernel
  have hshadow : h.builds.map (fun b => (b.period, b.entry.mask, b.entry.variant.shader.textures)) =
      [(0, .ofNat 15, []), (0, .ofNat 15, []), (1, .ofNat 15, [])] := by decide +kernel
  have hlayouts :=
    layouts_by_identity plain.store.host .blank {} plain.device hhost shadowCulledThrice
  have hnodup : (h.builds.map fun b => b.entry.pipeline.id).Nodup := hlayouts.2.1
  have hshares : ∀ a ∈ h.builds, ∀ b ∈ h.builds, a ≠ b → a.Shares b := hlayouts.2.2.2.1
  match hbuilds : h.builds with
  | [a, b, c] =>
    rw [hbuilds] at hshadow hnodup hshares
    simp only [List.map_cons, List.map_nil, List.cons.injEq, Prod.mk.injEq] at hshadow
    obtain ⟨⟨ha, hamask, hatextures⟩, ⟨hb, hbmask, -⟩, ⟨hc, -, -⟩, -⟩ := hshadow
    have hab : a.Shares b := by
      refine hshares a (by simp) b (by simp) ?_
      rintro rfl
      simp at hnodup
    have hbc : b.Shares c := hshares b (by simp) c (by simp) (by rintro rfl; omega)
    refine ⟨hhost, hreturned, a, b, c, rfl, ?_, ?_, hab.noTextures hatextures⟩
    · exact hab.shared (by rw [hamask]; decide) (hamask.trans hbmask.symm) (ha.trans hb.symm)
    · exact hbc.apart (.inr (by omega))
  | [] | [_] | [_, _] | _ :: _ :: _ :: _ :: _ => simp [hbuilds] at hshadow

end ShaderWeave.PipelineStore
