import Mathlib.Data.List.Nodup
import ProxyMeter.Proofs.Metrics.Reading
import ProxyMeter.Proofs.Metrics.Updates

/-!
# What the text form tells of updates

The samples of a text under the name of a family are those of the handle that the family holds, and
of no other: each is found from the updates of this handle alone (`exposition_tells`). So an update
changes the samples of its own handle, and of a labelled one those of its own label.
-/

namespace ProxyMeter.Metrics

open Session

/-! ### Samples by family -/

variable {m : Metrics} {f g : Family} {s : Sample}

/-- No name of a family begins with the name of another one. -/
theorem name_eq_of_begins : ∀ f ∈ families, ∀ g ∈ families,
    f.name.toList <+: g.name.toList → f.name = g.name := by
  decide +kernel

theorem nodup_names : (families.map Family.name).Nodup := by
  decide +kernel

/-- A sample stands under the name of one family only. -/
theorem name_eq_of_isOf (hf : f ∈ families) (hg : g ∈ families) (h : s.isOf f.name = true)
    (h' : s.isOf g.name = true) : f.name = g.name := by
  obtain ⟨tail, -, name⟩ := Sample.isOf_iff.mp h
  obtain ⟨tail', -, name'⟩ := Sample.isOf_iff.mp h'
  have first : f.name.toList <+: s.name.toList := ⟨tail.toList, by rw [name, String.toList_append]⟩
  have second : g.name.toList <+: s.name.toList :=
    ⟨tail'.toList, by rw [name', String.toList_append]⟩
  obtain front | front := List.prefix_or_prefix_of_prefix first second
  · exact name_eq_of_begins f hf g hg front
  · exact (name_eq_of_begins g hg f hf front).symm

theorem eq_of_name_eq (hf : f ∈ families) (hg : g ∈ families) (same : f.name = g.name) : f = g :=
  List.inj_on_of_nodup_map nodup_names hf hg same

/-- The samples that stand under the name of a family are those of the family. -/
theorem filter_allSamples (m : Metrics) (known : f ∈ families) :
    m.allSamples.filter (·.isOf f.name) = samples m f := by
  obtain ⟨before, after, split⟩ := List.append_of_mem known
  have distinct := nodup_names
  rw [split, List.map_append, List.map_cons] at distinct
  have none (gs : List Family) (others : ∀ g ∈ gs, g ∈ families ∧ g.name ≠ f.name) :
      (gs.flatMap (samples m)).filter (·.isOf f.name) = [] := by
    rw [List.filter_eq_nil_iff]
    intro s member own
    obtain ⟨g, there, member⟩ := List.mem_flatMap.mp member
    obtain ⟨hg, other⟩ := others g there
    exact other (name_eq_of_isOf hg known (fits_of_mem_samples member).isOf own)
  have own : (samples m f).filter (·.isOf f.name) = samples m f :=
    List.filter_eq_self.mpr fun s member => (fits_of_mem_samples member).isOf
  obtain ⟨-, rest, apart⟩ := List.nodup_append.mp distinct
  rw [allSamples, split, List.flatMap_append, List.flatMap_cons, List.filter_append,
    List.filter_append, own, none before, none after, List.nil_append, List.append_nil]
  · refine fun g there => ⟨by rw [split]; simp [there], fun same => ?_⟩
    exact (List.nodup_cons.mp rest).1 (same ▸ List.mem_map_of_mem there)
  · refine fun g there => ⟨by rw [split]; simp [there], fun same => ?_⟩
    exact apart _ (List.mem_map_of_mem there) _ (.head _) same

/-! ### What samples report -/

/-- The samples of counters under labels: one for each key that has been used, with the number of
times that it has been counted. -/
def ReportsSeries {κ : Type} [DecidableEq κ] (name key : String) (label : κ → String)
    (uses : List (κ × Bool)) (ss : List Sample) : Prop :=
  ∃ keys : List κ, keys.Nodup ∧ (∀ k, k ∈ keys ↔ k ∈ uses.map Prod.fst) ∧
    ss = keys.map fun k =>
      ⟨name ++ "_total", some (key, label k), toString (uses.count (k, true) % 2 ^ 64)⟩

/-- The samples of a histogram: the sum and the number of observations, for each bound how many of
them it or one before it reaches, and under `+Inf` how many are below infinity. These numbers do not
fall, and the last is the number of observations if all of them are finite. -/
def ReportsTiming (name : String) (bounds observations : List Float) (ss : List Sample) : Prop :=
  ∃ (counts : List Nat) (last : Nat),
    counts = (List.range bounds.length).map (fun i => reached bounds observations (i + 1)) ∧
    last = observations.countP (fun x => decide (BelowInfinity x)) ∧
    (counts ++ [last]).Pairwise (· ≤ ·) ∧
    ((∀ x ∈ observations, x.isFinite = true) → last = observations.length) ∧
    ss = ⟨name ++ "_sum", none, sampleText (observations.foldl (· + ·) 0)⟩ ::
      ⟨name ++ "_count", none, toString observations.length⟩ ::
        ((bounds.map sampleText).zip counts ++ [("+Inf", last)]).map (bucketSample name)

/-- What samples under a name report of the handle that has seen some updates. -/
def Reports (updates : List Update) (name : String) : Source → List Sample → Prop
  | .active, ss => ss = [⟨name, none, toString ((netShift updates).bmod (2 ^ 64))⟩]
  | .counter c, ss =>
    ss = [⟨name ++ "_total", none, toString (increments c updates % 2 ^ 64)⟩]
  | .rejections, ss => ReportsSeries name "reason" RejectReason.label (reasonsIn updates) ss
  | .drops, ss => ReportsSeries name "stage" DropStage.label (stagesIn updates) ss
  | .timing t, ss => ReportsTiming name t.bounds (observationsIn t updates) ss

theorem reportsSeries_labelled {κ : Type} [DecidableEq κ] (name key : String) (label : κ → String)
    (uses : List (κ × Bool)) : ReportsSeries name key label uses
      (labelled name key ((seriesOf uses).map fun (k, n) => (label k, n))) := by
  let sample (k : κ) : Sample :=
    ⟨name ++ "_total", some (key, label k), toString (uses.count (k, true) % 2 ^ 64)⟩
  have told : ((seriesOf uses).map fun (k, n) => (label k, n)).map (seriesSample name key) =
      ((seriesOf uses).map Prod.fst).map sample := by
    rw [List.map_map, map_eq_map_fst _ (nodup_keys_seriesOf uses)]
    refine List.map_congr_left fun k _ => ?_
    simp only [Function.comp_apply, seriesSample, sample, lookup_seriesOf, UInt64.toNat_ofNat']
  refine ⟨((seriesOf uses).map Prod.fst).mergeSort fun a b => (sample a).line ≤ (sample b).line,
    ?_, fun k => ?_, ?_⟩
  · exact (List.mergeSort_perm _ _).nodup_iff.mpr (nodup_keys_seriesOf uses)
  · rw [List.mem_mergeSort, mem_keys_seriesOf]
  · rw [labelled, told]
    exact (List.map_mergeSort (r := fun a b => decide ((sample a).line ≤ (sample b).line))
      (f := sample) fun _ _ _ _ => rfl).symm

/-! ### Buckets -/

theorem runningTotals_eq (before : Nat) (ns : List (String × Nat)) : runningTotals before ns =
    (ns.map Prod.fst).zip ((List.range ns.length).map fun i =>
      before + ((ns.take (i + 1)).map Prod.snd).sum) := by
  induction ns generalizing before with
  | nil => rfl
  | cons entry rest ih =>
    obtain ⟨text, n⟩ := entry
    rw [runningTotals, ih, List.length_cons, List.range_succ_eq_map]
    simp [Function.comp_def, Nat.add_assoc]

theorem reached_mono {bounds observations : List Float} {i j : Nat} (h : i ≤ j) :
    reached bounds observations i ≤ reached bounds observations j := by
  refine List.countP_mono_left fun x _ some => ?_
  obtain ⟨bound, member, reaches⟩ := List.any_eq_true.mp some
  exact List.any_eq_true.mpr ⟨bound, (List.take_prefix_take_left h).subset member, reaches⟩

/-- A bound that stands before the last one: it is below infinity, and is written as a number. -/
def IsOrdinary (bound : Float) : Prop := BelowInfinity bound ∧ (bound == greatest) = false

instance (bound : Float) : Decidable (IsOrdinary bound) :=
  inferInstanceAs (Decidable (BelowInfinity bound ∧ (bound == greatest) = false))

theorem isOrdinary_of_mem_bounds (t : Timing) : ∀ bound ∈ t.bounds, IsOrdinary bound := by
  cases t <;> exact List.all_iff_forall_prop.mp (by decide)

theorem reached_append_of_le {bounds observations : List Float} {first : Nat}
    (inside : first ≤ bounds.length) (more : List Float) :
    reached (bounds ++ more) observations first = reached bounds observations first := by
  rw [reached, reached, List.take_append_of_le_length inside]

/-- All bounds together reach the observations below infinity. -/
theorem reached_all {bounds : List Float} (ordinary : ∀ bound ∈ bounds, IsOrdinary bound)
    (observations : List Float) : reached (bounds ++ [greatest]) observations (bounds.length + 1) =
      observations.countP (fun x => decide (BelowInfinity x)) := by
  rw [reached, List.take_of_length_le (by simp)]
  refine List.countP_congr fun x _ => ?_
  rw [decide_eq_true_iff, List.any_eq_true]
  constructor
  · rintro ⟨bound, member, reaches⟩
    have le : x ≤ bound := decide_eq_true_iff.mp reaches
    obtain member | last := List.mem_append.mp member
    · exact (ordinary bound member).1.of_le le
    · exact le_greatest_iff.mp (List.mem_singleton.mp last ▸ le)
  · intro below
    exact ⟨greatest, by simp, decide_eq_true_iff.mpr (le_greatest_iff.mpr below)⟩

theorem map_boundText {bounds : List Float} (ordinary : ∀ bound ∈ bounds, IsOrdinary bound) :
    (bounds ++ [greatest]).map boundText = bounds.map sampleText ++ ["+Inf"] := by
  have last : boundText greatest = "+Inf" := by decide
  rw [List.map_append, List.map_singleton, last]
  congr 1
  refine List.map_congr_left fun bound member => ?_
  rw [boundText, (ordinary bound member).2, if_neg Bool.false_ne_true]

theorem Histogram.Holds.upTo_eq {h : Histogram} {bounds observations : List Float}
    (holds : h.Holds bounds observations) (ordinary : ∀ bound ∈ bounds, IsOrdinary bound) :
    h.upTo = (bounds.map sampleText).zip
      ((List.range bounds.length).map fun i => reached bounds observations (i + 1)) ++
        [("+Inf", observations.countP (fun x => decide (BelowInfinity x)))] := by
  let named := h.buckets.map fun bucket => (boundText bucket.1, bucket.2)
  have length : named.length = bounds.length + 1 := by
    have same := congrArg List.length holds.bounds_eq
    rwa [List.length_map, List.length_append, List.length_singleton,
      ← List.length_map (f := fun bucket => (boundText bucket.1, bucket.2))] at same
  have texts : named.map Prod.fst = bounds.map sampleText ++ ["+Inf"] := by
    rw [← map_boundText ordinary, ← holds.bounds_eq, List.map_map, List.map_map]
    rfl
  have upTo (first : Nat) : 0 + ((named.take first).map Prod.snd).sum =
      reached (bounds ++ [greatest]) observations first := by
    rw [Nat.zero_add, ← holds.upTo, ← List.map_take, List.map_map]
    rfl
  show runningTotals 0 named = _
  rw [runningTotals_eq, length, texts, List.range_succ, List.map_append, List.map_singleton,
    List.zip_append (by simp), upTo, reached_all ordinary]
  congr 2
  refine List.map_congr_left fun i member => ?_
  rw [upTo, reached_append_of_le (List.mem_range.mp member)]

theorem reportsTiming {h : Histogram} {bounds observations : List Float} (name : String)
    (holds : h.Holds bounds observations) (ordinary : ∀ bound ∈ bounds, IsOrdinary bound) :
    ReportsTiming name bounds observations
      (⟨name ++ "_sum", none, sampleText h.sum⟩ :: ⟨name ++ "_count", none, toString h.count⟩ ::
        h.upTo.map (bucketSample name)) := by
  refine ⟨_, _, rfl, rfl, ?_, fun finite => ?_,
    by rw [holds.sum, holds.count, holds.upTo_eq ordinary]⟩
  · rw [List.pairwise_append, List.pairwise_map]
    refine ⟨List.pairwise_lt_range.imp fun h => reached_mono (by omega),
      List.pairwise_singleton _ _, ?_⟩
    intro n member last only
    obtain ⟨i, inside, rfl⟩ := List.mem_map.mp member
    rw [List.mem_singleton.mp only, ← reached_all ordinary,
      ← reached_append_of_le (List.mem_range.mp inside) [greatest]]
    exact reached_mono (Nat.succ_le_succ (List.mem_range.mp inside).le)
  · exact List.countP_eq_length.mpr fun x member =>
      decide_eq_true_iff.mpr (belowInfinity_of_isFinite (finite x member))

/-- The samples of a family report the updates of its handle. -/
theorem reports_samples (updates : List Update) (f : Family) :
    Reports updates f.name f.source (samples (afterUpdates updates) f) := by
  unfold samples
  cases f.source with
  | active =>
    dsimp only
    rw [activeConnections_afterUpdates, Int64.toInt_ofInt]
    rfl
  | counter c =>
    dsimp only
    rw [counter_afterUpdates, UInt64.toNat_ofNat']
    rfl
  | rejections =>
    dsimp only
    rw [rejections_afterUpdates]
    exact reportsSeries_labelled _ _ _ _
  | drops =>
    dsimp only
    rw [drops_afterUpdates]
    exact reportsSeries_labelled _ _ _ _
  | timing t => exact reportsTiming _ (timing_afterUpdates t updates) (isOrdinary_of_mem_bounds t)

/-! ### One update -/

/-- The handle that an update is about. -/
def Update.handle : Update → Source
  | increase c _ => .counter c
  | shift _ => .active
  | reject _ | readRejected _ => .rejections
  | drop _ | readDropped _ => .drops
  | observe t _ => .timing t

/-- The label that an update is about, if its handle has any. -/
def Update.label? : Update → Option (String × String)
  | reject reason | readRejected reason => some ("reason", reason.label)
  | drop stage | readDropped stage => some ("stage", stage.label)
  | _ => none

/-- Whether an update is about a sample. -/
def Update.Concerns (u : Update) (s : Sample) : Prop :=
  (∃ f ∈ families, f.source = u.handle ∧ s.isOf f.name = true) ∧
    ∀ l, u.label? = some l → s.label = some l

/-- The samples of the other handles stay. -/
theorem samples_updated_of_ne {u : Update} (other : f.source ≠ u.handle) :
    samples (m.updated u) f = samples m f := by
  unfold samples
  revert other
  cases f.source with
  | active =>
    intro other
    have still : u.shifted = 0 := by
      cases u with
      | shift amount => exact absurd rfl other
      | _ => rfl
    dsimp only
    rw [activeConnections_updated, still, show (Int64.ofInt 0) = 0 from rfl, Int64.add_zero]
  | counter c =>
    intro other
    have still : u.increment c = 0 := by
      cases u with
      | increase c' amount => exact if_neg fun same => other (congrArg Source.counter same.symm)
      | _ => rfl
    dsimp only
    rw [counter_updated, still, show UInt64.ofNat 0 = 0 from rfl, UInt64.add_zero]
  | rejections =>
    intro other
    have still : u.reason? = none := by
      cases u with
      | reject reason | readRejected reason => exact absurd rfl other
      | _ => rfl
    dsimp only
    rw [rejections_updated, still]
    rfl
  | drops =>
    intro other
    have still : u.stage? = none := by
      cases u with
      | drop stage | readDropped stage => exact absurd rfl other
      | _ => rfl
    dsimp only
    rw [drops_updated, still]
    rfl
  | timing t =>
    intro other
    have still : u.observation? t = none := by
      cases u with
      | observe t' x => exact if_neg fun same => other (congrArg Source.timing same.symm)
      | _ => rfl
    dsimp only
    rw [timing_updated, still]
    rfl

/-- Of the samples under labels, those of other labels stay when a key is used. -/
theorem mem_labelled_used {κ : Type} [DecidableEq κ] {name key : String} {label : κ → String}
    {series : List (κ × UInt64)} (use : κ × Bool)
    (other : s.label ≠ some (key, label use.1)) :
    s ∈ labelled name key ((used series use).map fun (k, n) => (label k, n)) ↔
      s ∈ labelled name key (series.map fun (k, n) => (label k, n)) := by
  have told (series : List (κ × UInt64)) :
      s ∈ labelled name key (series.map fun (k, n) => (label k, n)) ↔
        ∃ entry ∈ series, seriesSample name key (label entry.1, entry.2) = s := by
    rw [labelled, List.mem_mergeSort, List.map_map, List.mem_map]
    rfl
  rw [told, told]
  refine exists_congr fun entry => and_congr_left fun same => ?_
  refine mem_bump_of_ne fun key => other ?_
  rw [← same, ← key]
  rfl

/-- An update changes no sample that it is not about. -/
theorem mem_allSamples_updated {u : Update} (apart : ¬ u.Concerns s) :
    s ∈ (m.updated u).allSamples ↔ s ∈ m.allSamples := by
  rw [allSamples, allSamples, List.mem_flatMap, List.mem_flatMap]
  refine exists_congr fun f => and_congr_right fun known => ?_
  by_cases own : f.source = u.handle
  · by_cases under : s.isOf f.name = true
    · obtain ⟨l, label, differs⟩ : ∃ l, u.label? = some l ∧ s.label ≠ some l := by
        by_contra none
        simp only [not_exists, not_and, not_not] at none
        exact apart ⟨⟨f, known, own, under⟩, none⟩
      unfold samples
      rw [own]
      cases u with
      | reject reason =>
        cases label
        exact mem_labelled_used (reason, true) differs
      | readRejected reason =>
        cases label
        exact mem_labelled_used (reason, false) differs
      | drop stage =>
        cases label
        exact mem_labelled_used (stage, true) differs
      | readDropped stage =>
        cases label
        exact mem_labelled_used (stage, false) differs
      | increase | shift | observe => cases label
    · exact iff_of_false (fun h => under (fits_of_mem_samples h).isOf)
        fun h => under (fits_of_mem_samples h).isOf
  · rw [samples_updated_of_ne own]

/-- Every handle has a family, and only one. -/
theorem existsUnique_family (h : Source) : ∃! f, f ∈ families ∧ f.source = h := by
  have distinct : (families.map Family.source).Nodup := by decide +kernel
  have some : ∃ f ∈ families, f.source = h := by
    cases h with
    | active | rejections | drops => simp [families]
    | counter c => cases c <;> simp [families]
    | timing t => cases t <;> simp [families]
  obtain ⟨f, known, source⟩ := some
  refine ⟨f, ⟨known, source⟩, fun g ⟨there, same⟩ => ?_⟩
  exact List.inj_on_of_nodup_map distinct there known (same.trans source.symm)

/-- What a text tells of some updates: under the name of each family it has the samples of the
family's handle, and no other samples. -/
structure Tells (updates : List Update) (text : String) (ss : List Sample) : Prop where
  read : readSamples? text = some ss
  /-- There are fourteen names, one for each handle. -/
  names : (families.map Family.name).Nodup ∧ families.length = 14 ∧
    ∀ h : Source, ∃! f, f ∈ families ∧ f.source = h
  reports : ∀ f ∈ families, Reports updates f.name f.source (ss.filter (·.isOf f.name))
  only : ∀ s ∈ ss, ∃! f, f ∈ families ∧ s.isOf f.name = true

end ProxyMeter.Metrics
