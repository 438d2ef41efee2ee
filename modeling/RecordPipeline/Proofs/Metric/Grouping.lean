import Mathlib.Data.List.Nodup
import RecordPipeline.Proofs.Metric.Merging
import RecordPipeline.Topology.Pipeline

/-!
Components by stage. A view of a pipeline has one component for each stage, in the order in which
the stages were met first. It counts all replicas of its stage and no other ones, and its stats are
theirs, merged in their order. A stage is told by its role and its type, so that a source and a sink
of one type are two components.
-/

namespace RecordPipeline

namespace Bag

/-- Merged into an empty bag, another bag stays as it is. -/
theorem merge_into_empty (b : Bag) : merge {} b = .ok b := by
  have nothing : ∀ name, get? name {} = none := fun _ => rfl
  obtain ⟨merged, merges⟩ : ∃ merged, merge {} b = .ok merged := by
    apply exists_merge_eq_ok
    intro name s current _ there
    rw [nothing] at there
    cases there
  rw [merges]
  refine congrArg Except.ok (eq_of_get? fun name => ?_)
  cases found : b.get? name with
  | none => exact get?_merge_of_none merges found
  | some s =>
      obtain ⟨joint, joins, read⟩ := get?_merge_of_some merges found
      rw [nothing] at joins
      rw [read, Except.ok.inj joins]

end Bag

namespace Stats

variable {first : Stats} {rest : List Stats}

/-- Merging starts from the first stats as they are. -/
theorem merged_cons : merged (first :: rest) = rest.foldlM merge first := by
  have taken : merge {} first = .ok first := by
    refine merge_eq_ok_iff.mpr ⟨Bag.merge_into_empty first.bag, ?_, ?_, ?_⟩
    · exact (Sample.addSaturating_zero first.processed).symm
    · exact (Sample.addSaturating_zero first.filtered).symm
    · exact (Sample.addSaturating_zero first.errors).symm
  rw [merged, List.foldlM_cons, taken]
  rfl

end Stats

section FirstOccurrences

variable {α : Type} [BEq α] [LawfulBEq α] {xs : List α} {x : α}

theorem eraseDups_concat_of_mem (member : x ∈ xs) : (xs ++ [x]).eraseDups = xs.eraseDups := by
  rw [List.eraseDups_append]
  simp [List.removeAll, member]

theorem eraseDups_concat_of_not_mem (new : x ∉ xs) :
    (xs ++ [x]).eraseDups = xs.eraseDups ++ [x] := by
  rw [List.eraseDups_append]
  simp [List.removeAll, new, List.eraseDups_cons]

theorem nodup_eraseDups (xs : List α) : xs.eraseDups.Nodup := by
  induction xs using List.reverseRecOn with
  | nil => exact List.nodup_nil
  | append_singleton xs x ih =>
      by_cases member : x ∈ xs
      · rwa [eraseDups_concat_of_mem member]
      · rw [eraseDups_concat_of_not_mem member, ← List.concat_eq_append]
        exact ih.concat (mt List.mem_eraseDups.mp member)

end FirstOccurrences

/-- One replica of a stage, with its stats. -/
structure Replica where
  role : Role
  type : String
  stats : Stats

def Replica.stage (r : Replica) : Role × String := (r.role, r.type)

/-- The stats of the replicas of a stage, in their order. -/
def statsOf (stage : Role × String) (replicas : List Replica) : List Stats :=
  (replicas.filter fun r => r.stage = stage).map Replica.stats

section StatsOf

variable {stage : Role × String} {replicas : List Replica} {r : Replica}

theorem statsOf_concat_self (replicas : List Replica) (r : Replica) :
    statsOf r.stage (replicas ++ [r]) = statsOf r.stage replicas ++ [r.stats] := by
  simp [statsOf]

theorem statsOf_concat_of_ne (other : stage ≠ r.stage) :
    statsOf stage (replicas ++ [r]) = statsOf stage replicas := by
  simp [statsOf, Ne.symm other]

theorem statsOf_eq_nil_iff : statsOf stage replicas = [] ↔ stage ∉ replicas.map Replica.stage := by
  simp [statsOf]

theorem length_statsOf : (statsOf stage replicas).length = replicas.countP (·.stage = stage) := by
  rw [statsOf, List.length_map, List.countP_eq_length_filter]

end StatsOf

namespace Component

def stage (c : Component) : Role × String := (c.role, c.type)

theorem sameStage_iff {role : Role} {type : String} {c : Component} :
    c.sameStage role type = true ↔ c.stage = (role, type) := by
  simp [sameStage, stage]

variable {replicas : List Replica} {r : Replica} {components components' : List Component}

/-- What becomes of the components when a replica is counted: its stage is new and put last, or the
component of its stage takes it in. -/
inductive Added (r : Replica) (components : List Component) : List Component → Prop where
  | first (new : r.stage ∉ components.map stage) :
      Added r components (components ++ [⟨r.role, r.type, 1, r.stats⟩])
  | next (before : List Component) {after : List Component} {c : Component} {merged : Stats}
      (found : components = before ++ c :: after) (same : c.stage = r.stage)
      (merges : c.stats.merge r.stats = .ok merged) :
      Added r components
        (before ++ { c with instances := c.instances + 1, stats := merged } :: after)

theorem added_of_add (added : add r.role r.type r.stats components = .ok components') :
    Added r components components' := by
  induction components generalizing components' with
  | nil =>
      obtain rfl := Except.ok.inj added
      exact .first List.not_mem_nil
  | cons c rest ih =>
      rw [add] at added
      split at added
      · rename_i same
        obtain ⟨merged, merges, rfl⟩ := exists_of_map_eq_ok added
        exact .next [] rfl (sameStage_iff.mp same) merges
      · rename_i different
        have other : r.stage ≠ c.stage := fun same => different (sameStage_iff.mpr same.symm)
        obtain ⟨rest', later, rfl⟩ := exists_of_map_eq_ok added
        cases ih later with
        | first new => exact .first (List.not_mem_cons_of_ne_of_not_mem other new)
        | @next before _ _ _ found same merges =>
            exact .next (c :: before) (congrArg (c :: ·) found) same merges

/-- A replica is counted if it can be merged with what is there of its stage. -/
theorem exists_add (merges : ∀ c ∈ components, c.stage = r.stage →
      ∃ merged, c.stats.merge r.stats = .ok merged) :
    ∃ components', add r.role r.type r.stats components = .ok components' := by
  induction components with
  | nil => exact ⟨_, rfl⟩
  | cons c rest ih =>
      obtain ⟨here, later⟩ := List.forall_mem_cons.mp merges
      rw [add]
      split
      · rename_i same
        obtain ⟨merged, merges⟩ := here (sameStage_iff.mp same)
        rw [merges]
        exact ⟨_, rfl⟩
      · obtain ⟨rest', added⟩ := ih later
        rw [added]
        exact ⟨_, rfl⟩

/-- A component has taken in the replicas of its stage, from the first one on. -/
structure Sums (replicas : List Replica) (c : Component) : Prop where
  instances : c.instances = (statsOf c.stage replicas).length
  stats : ∃ first rest, statsOf c.stage replicas = first :: rest ∧
    rest.foldlM Stats.merge first = .ok c.stats

namespace Sums

variable {c : Component}

theorem first (new : r.stage ∉ replicas.map Replica.stage) :
    Sums (replicas ++ [r]) ⟨r.role, r.type, 1, r.stats⟩ := by
  have alone : statsOf r.stage (replicas ++ [r]) = [r.stats] := by
    rw [statsOf_concat_self, statsOf_eq_nil_iff.mpr new, List.nil_append]
  exact ⟨(congrArg List.length alone).symm, r.stats, [], alone, rfl⟩

/-- A component of another stage has nothing to do with a replica. -/
theorem keep (h : Sums replicas c) (other : c.stage ≠ r.stage) : Sums (replicas ++ [r]) c := by
  obtain ⟨instances, stats⟩ := h
  rw [← statsOf_concat_of_ne other] at instances stats
  exact ⟨instances, stats⟩

theorem next {merged : Stats} (h : Sums replicas c) (same : c.stage = r.stage)
    (merges : c.stats.merge r.stats = .ok merged) :
    Sums (replicas ++ [r]) { c with instances := c.instances + 1, stats := merged } := by
  have grown : statsOf c.stage (replicas ++ [r]) = statsOf c.stage replicas ++ [r.stats] := by
    rw [same, statsOf_concat_self]
  obtain ⟨instances, first, rest, all, folded⟩ := h
  constructor
  · show c.instances + 1 = (statsOf c.stage (replicas ++ [r])).length
    rw [grown, List.length_append, List.length_singleton, instances]
  · refine ⟨first, rest ++ [r.stats], grown.trans (by rw [all, List.cons_append]), ?_⟩
    rw [List.foldlM_append, folded]
    show (c.stats.merge r.stats >>= pure) = .ok merged
    rw [merges]
    rfl

/-- The stats of a component are those of its replicas, merged. -/
theorem merged (h : Sums replicas c) : Stats.merged (statsOf c.stage replicas) = .ok c.stats := by
  obtain ⟨first, rest, all, folded⟩ := h.stats
  rw [all, Stats.merged_cons]
  exact folded

end Sums

/-- The components are the stages of the replicas in the order of their first ones. -/
structure Grouped (replicas : List Replica) (components : List Component) : Prop where
  stages : components.map stage = (replicas.map Replica.stage).eraseDups
  sums : ∀ c ∈ components, Sums replicas c

namespace Grouped

theorem nodup (h : Grouped replicas components) : (components.map stage).Nodup :=
  h.stages ▸ nodup_eraseDups _

theorem mem_stages_iff (h : Grouped replicas components) {stage : Role × String} :
    stage ∈ components.map Component.stage ↔ stage ∈ replicas.map Replica.stage := by
  rw [h.stages, List.mem_eraseDups]

theorem first (h : Grouped replicas components) (new : r.stage ∉ components.map stage) :
    Grouped (replicas ++ [r]) (components ++ [⟨r.role, r.type, 1, r.stats⟩]) := by
  have absent := mt h.mem_stages_iff.mpr new
  constructor
  · rw [List.map_append, List.map_append, h.stages]
    exact (eraseDups_concat_of_not_mem absent).symm
  · intro c member
    rcases List.mem_append.mp member with before | last
    · refine (h.sums c before).keep ?_
      intro same
      exact new (same ▸ List.mem_map_of_mem before)
    · obtain rfl := List.mem_singleton.mp last
      exact .first absent

theorem next {before after : List Component} {c : Component} {merged : Stats}
    (h : Grouped replicas (before ++ c :: after)) (same : c.stage = r.stage)
    (merges : c.stats.merge r.stats = .ok merged) :
    Grouped (replicas ++ [r])
      (before ++ { c with instances := c.instances + 1, stats := merged } :: after) := by
  have found : c ∈ before ++ c :: after := List.mem_append_right before List.mem_cons_self
  -- The stages are all different, so the other components are of other stages.
  have others : ∀ d ∈ before ++ after, d.stage ≠ r.stage := by
    intro d member isSame
    have distinct := h.nodup
    rw [List.map_append, List.map_cons, List.nodup_middle, List.nodup_cons,
      ← List.map_append] at distinct
    exact distinct.1 (same ▸ isSame ▸ List.mem_map_of_mem member)
  constructor
  · have member : r.stage ∈ replicas.map Replica.stage :=
      h.mem_stages_iff.mp (same ▸ List.mem_map_of_mem found)
    have nothingNew : ((replicas ++ [r]).map Replica.stage).eraseDups =
        (replicas.map Replica.stage).eraseDups := by
      rw [List.map_append]
      exact eraseDups_concat_of_mem member
    rw [nothingNew, ← h.stages, List.map_append, List.map_append, List.map_cons, List.map_cons]
    rfl
  · intro d member
    rw [List.mem_append, List.mem_cons] at member
    rcases member with earlier | rfl | later
    · exact (h.sums d (by simp [earlier])).keep (others d (by simp [earlier]))
    · exact (h.sums c found).next same merges
    · exact (h.sums d (by simp [later])).keep (others d (by simp [later]))

theorem add (h : Grouped replicas components)
    (added : Component.add r.role r.type r.stats components = .ok components') :
    Grouped (replicas ++ [r]) components' := by
  cases added_of_add added with
  | first new => exact h.first new
  | next _ found same merges => exact (found ▸ h).next same merges

end Grouped

end Component

namespace Collected

open Component

variable {c c' : Collected} {replicas : List Replica} {r : Replica}

/-- Counts replicas one after the other. -/
def addAll (c : Collected) (replicas : List Replica) : Except MetricMisuse Collected :=
  replicas.foldlM (fun c r => c.addComponent r.role r.type r.stats) c

theorem addAll_concat (c : Collected) (replicas : List Replica) (r : Replica) :
    c.addAll (replicas ++ [r]) =
      c.addAll replicas >>= fun c => c.addComponent r.role r.type r.stats := by
  rw [addAll, List.foldlM_append]
  exact congrArg (c.addAll replicas >>= ·) (funext fun c => bind_pure (c.addComponent ..))

theorem grouped_of_addAll (fresh : c.components = []) (added : c.addAll replicas = .ok c') :
    Grouped replicas c'.components ∧ c' = { c with components := c'.components } := by
  induction replicas using List.reverseRecOn generalizing c' with
  | nil =>
      obtain rfl := Except.ok.inj added
      rw [fresh]
      exact ⟨⟨rfl, nofun⟩, by rw [← fresh]⟩
  | append_singleton replicas r ih =>
      rw [addAll_concat, bind_eq_ok_iff] at added
      obtain ⟨between, earlier, last⟩ := added
      obtain ⟨components, added, rfl⟩ := exists_of_map_eq_ok last
      obtain ⟨grouped, same⟩ := ih earlier
      exact ⟨grouped.add added, by rw [same]⟩

/-- Replicas are counted if none of those of one stage uses a name with another kind. -/
theorem exists_addAll (fresh : c.components = [])
    (one : ∀ stage, Stats.OneKind (statsOf stage replicas)) :
    ∃ c', c.addAll replicas = .ok c' := by
  induction replicas using List.reverseRecOn with
  | nil => exact ⟨c, rfl⟩
  | append_singleton replicas r ih =>
      have inside : ∀ stage, statsOf stage replicas ⊆ statsOf stage (replicas ++ [r]) := by
        intro stage
        rw [statsOf, statsOf, List.filter_append, List.map_append]
        exact List.subset_append_left _ _
      obtain ⟨between, earlier⟩ := ih fun stage =>
        (one stage).of_subset fun name => List.filterMap_subset _ (inside stage)
      obtain ⟨grouped, _⟩ := grouped_of_addAll fresh earlier
      obtain ⟨components, added⟩ : ∃ components',
          add r.role r.type r.stats between.components = .ok components' := by
        apply exists_add
        intro d member same
        have before := (grouped.sums d member).merged
        obtain ⟨total, after⟩ := Stats.exists_merged (one r.stage)
        rw [statsOf_concat_self, Stats.merged_concat, ← same, before] at after
        exact ⟨total, after⟩
      refine ⟨{ between with components }, ?_⟩
      rw [addAll_concat, earlier]
      show (add r.role r.type r.stats between.components).map _ = _
      rw [added]
      rfl

theorem component?_eq_some_iff (grouped : Grouped replicas c.components) {role : Role}
    {type : String} {e : Component} :
    c.component? role type = some e ↔ e ∈ c.components ∧ e.stage = (role, type) := by
  constructor
  · intro found
    exact ⟨List.mem_of_find?_eq_some found, sameStage_iff.mp (List.find?_some found)⟩
  · rintro ⟨member, same⟩
    cases found : c.component? role type with
    | none =>
        have missed := List.find?_eq_none.mp found e member
        exact absurd (sameStage_iff.mpr same) missed
    | some other =>
        have isOther := sameStage_iff.mp (List.find?_some found)
        have equal := List.inj_on_of_nodup_map grouped.nodup (List.mem_of_find?_eq_some found)
          member (isOther.trans same.symm)
        rw [equal]

theorem component?_eq_none_iff (grouped : Grouped replicas c.components) {role : Role}
    {type : String} :
    c.component? role type = none ↔ ∀ r ∈ replicas, r.stage ≠ (role, type) := by
  have present : (∃ e, c.component? role type = some e) ↔
      (role, type) ∈ replicas.map Replica.stage := by
    simp only [component?_eq_some_iff grouped, ← grouped.mem_stages_iff, List.mem_map]
  rw [← not_iff_not, ← ne_eq, Option.ne_none_iff_exists', present]
  simp

end Collected

/-- The parts of a pipeline, each with its stats, in the order in which a view counts them. -/
def Pipeline.replicas (p : Pipeline) : List Replica :=
  ⟨.source, p.source.name, p.source.stats⟩ ::
    (p.topology.chain.stats p.flow.filters).map (fun entry => ⟨.filter, entry.1, entry.2⟩) ++
    p.flow.sinks.map (fun s => ⟨.sink, s.sink.name, s.sink.stats.1⟩) ++
    [⟨.uploader, p.flow.uploader.name, p.flow.uploader.stats⟩]

/-- A view counts each part of the pipeline once. -/
theorem Pipeline.collect_eq (p : Pipeline) :
    ∃ view : Collected, view.components = [] ∧ p.collect = view.addAll p.replicas := by
  refine ⟨{
    pipeline := some (p.flow.tally.counts (Chain.errorCount p.flow.filters))
    invalidFields := (p.flow.tally.invalidByName p.topology.fields).map fun entry =>
      (entry.1, UInt64.ofNat entry.2) }, rfl, ?_⟩
  simp only [collect, Collected.addAll, replicas, List.cons_append, List.foldlM_cons,
    List.foldlM_append, List.foldlM_map, List.foldlM_nil, bind_assoc, bind_pure]

namespace Collected

open Component

/-- Counting replicas fails exactly if two of one stage use a name with different kinds. Otherwise
there is one component for each stage, in the order in which the stages were met first: it has as
many instances as the stage has replicas, and their stats merged in their order, the first ones
taken as they are. It is what is found for its role and type. All this goes for the parts of a
pipeline, which a view counts one by one. -/
theorem groups_replicas {c : Collected} {replicas : List Replica} (fresh : c.components = []) :
    ((∃ c', c.addAll replicas = .ok c') ↔ ∀ stage, Stats.OneKind (statsOf stage replicas)) ∧
    (∀ c', c.addAll replicas = .ok c' →
      c' = { c with components := c'.components } ∧
      c'.components.map stage = (replicas.map Replica.stage).eraseDups ∧
      (c'.components.map stage).Nodup ∧
      (∀ e ∈ c'.components, e.instances = replicas.countP (·.stage = e.stage) ∧
        Stats.merged (statsOf e.stage replicas) = .ok e.stats ∧
        ∃ first rest, statsOf e.stage replicas = first :: rest ∧
          rest.foldlM Stats.merge first = .ok e.stats) ∧
      (∀ role type e, c'.component? role type = some e ↔
        e ∈ c'.components ∧ e.stage = (role, type)) ∧
      ∀ role type, c'.component? role type = none ↔ ∀ r ∈ replicas, r.stage ≠ (role, type)) ∧
    ∀ p : Pipeline, ∃ view : Collected, view.components = [] ∧
      p.collect = view.addAll p.replicas := by
  refine ⟨?_, ?_, Pipeline.collect_eq⟩
  · constructor
    · rintro ⟨c', added⟩ stage
      obtain ⟨grouped, _⟩ := grouped_of_addAll fresh added
      by_cases member : stage ∈ replicas.map Replica.stage
      · obtain ⟨e, inside, rfl⟩ := List.mem_map.mp (grouped.mem_stages_iff.mpr member)
        exact (Stats.get?_merged (grouped.sums e inside).merged).1
      · rw [statsOf_eq_nil_iff.mpr member]
        exact fun _ _ none => absurd none List.not_mem_nil
    · exact exists_addAll fresh
  · intro c' added
    obtain ⟨grouped, same⟩ := grouped_of_addAll fresh added
    refine ⟨same, grouped.stages, grouped.nodup, ?_, ?_, ?_⟩
    · intro e member
      have sums := grouped.sums e member
      exact ⟨sums.instances.trans length_statsOf, sums.merged, sums.stats⟩
    · exact fun _ _ _ => component?_eq_some_iff grouped
    · exact fun _ _ => component?_eq_none_iff grouped

/-- A source and two sinks of one type, with another sink between these. -/
def namesakes : List Replica := [
  ⟨.source, "file", { processed := 4, bag := .of [("bytes", .counter 9)] }⟩,
  ⟨.sink, "file", { processed := 3, bag := .of [("bytes", .timing [7])] }⟩,
  ⟨.sink, "null", { processed := 1 }⟩,
  ⟨.sink, "file", { errors := 2, bag := .of [("bytes", .timing [5])] }⟩]

/-- The source keeps its counter, and the two sinks make one component with the times of both. -/
theorem namesakes_grouped :
    ∃ c', addAll {} namesakes = .ok c' ∧
      c'.components.map stage = [(.source, "file"), (.sink, "file"), (.sink, "null")] ∧
      ∃ e, c'.component? .sink "file" = some e ∧ e.instances = 2 ∧
        e.stats = { processed := 3, errors := 2, bag := .of [("bytes", .timing [7, 5])] } := by
  obtain ⟨_, each, _⟩ := groups_replicas (c := {}) rfl
  obtain ⟨c', added⟩ : ∃ c', addAll {} namesakes = .ok c' := ⟨_, rfl⟩
  obtain ⟨_, stages, _, entries, found, _⟩ := each c' added
  have inside : (Role.sink, "file") ∈ c'.components.map stage := by
    rw [stages]
    decide
  obtain ⟨e, member, same⟩ := List.mem_map.mp inside
  obtain ⟨instances, merged, _⟩ := entries e member
  rw [same] at instances merged
  refine ⟨c', added, stages.trans (by decide), e, (found _ _ _).mpr ⟨member, same⟩,
    instances.trans (by decide), ?_⟩
  exact Except.ok.inj (merged.symm.trans rfl)

end Collected

end RecordPipeline
