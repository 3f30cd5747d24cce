import DerivedStats.Proofs.Pipeline.Interleaving
import DerivedStats.Proofs.Pipeline.Isolation
import DerivedStats.Proofs.Table.Listing
import Mathlib.Algebra.BigOperators.Group.List.Basic
import Mathlib.Data.List.Nodup

/-! Updates in parallel are updates one after the other, as long as no formula draws samples. -/

namespace DerivedStats.Pipeline

open Formula (Cache Place Section compile)
open Relation (ReflTransGen)

section

variable {owner mode : String} {part : Section} {formulas : Formulas} {spec : Spec} {x y : Source}

lemma text_eq_of_listed (h : formulas.keys.Nodup) (hx : x ∈ listed owner part formulas)
    (hy : y ∈ listed owner part formulas) (hplace : x.place = y.place) : x.text = y.text := by
  obtain ⟨f, hf, rfl⟩ := List.mem_map.mp hx
  obtain ⟨g, hg, rfl⟩ := List.mem_map.mp hy
  have hname : f.1 = g.1 := (Place.mk.inj hplace).2.2
  exact congrArg Prod.snd (List.inj_on_of_nodup_map h hf hg hname)

lemma text_eq_of_calculated (h : formulas.keys.Nodup) (hx : x ∈ calculated owner mode formulas)
    (hy : y ∈ calculated owner mode formulas) (hplace : x.place = y.place) : x.text = y.text := by
  obtain ⟨f, hf, rfl⟩ := List.mem_map.mp hx
  obtain ⟨g, hg, rfl⟩ := List.mem_map.mp hy
  rcases (calculationKey_eq_iff ..).mp (Place.mk.inj hplace).2.2 with
    ⟨-, hname⟩ | hswallows | hswallows
  · exact congrArg Prod.snd (List.inj_on_of_nodup_map h hf hg hname)
  · exact absurd rfl hswallows.mode_ne
  · exact absurd rfl hswallows.mode_ne

lemma place_of_listed (hx : x ∈ listed owner part formulas) :
    x.place.owner = owner ∧ x.place.part = part := by
  obtain ⟨f, -, rfl⟩ := List.mem_map.mp hx
  exact ⟨rfl, rfl⟩

lemma place_of_calculated (hx : x ∈ calculated owner mode formulas) :
    x.place.owner = owner ∧ x.place.part = .calculate := by
  obtain ⟨f, -, rfl⟩ := List.mem_map.mp hx
  exact ⟨rfl, rfl⟩

lemma Spec.mem_lookups {i : Invocation} (hx : x ∈ spec.lookups owner i.resolvedMode) :
    x.place.owner = owner ∧
      (x.place.part = .definition ∧ x ∈ listed owner .definition spec.definition ∨
        x.place.part = .tools ∧ x ∈ listed owner .tools spec.tools ∨
        x.place.part = .calculate ∧
          x ∈ calculated owner (spec.selected i).1 (spec.selected i).2) := by
  simp only [Spec.lookups, List.mem_append] at hx
  rcases hx with (hx | hx) | hx
  · obtain ⟨howner, hpart⟩ := place_of_listed hx
    exact ⟨howner, .inl ⟨hpart, hx⟩⟩
  · obtain ⟨howner, hpart⟩ := place_of_listed hx
    exact ⟨howner, .inr (.inl ⟨hpart, hx⟩)⟩
  · cases hselect : spec.calculate.select? i.resolvedMode with
    | none =>
      rw [hselect] at hx
      cases hx
    | some found =>
      rw [hselect] at hx
      obtain ⟨howner, hpart⟩ := place_of_calculated hx
      rw [Spec.selected_eq, hselect]
      exact ⟨howner, .inr (.inr ⟨hpart, hx⟩)⟩

lemma Spec.NamesApart.oneText {i : Invocation} (h : spec.NamesApart i) :
    OneText (spec.lookups owner i.resolvedMode) := by
  intro x hx y hy hplace
  have hpart := congrArg Place.part hplace
  rcases (Spec.mem_lookups hx).2 with ⟨hpx, hx⟩ | ⟨hpx, hx⟩ | ⟨hpx, hx⟩
  all_goals
    rcases (Spec.mem_lookups hy).2 with ⟨hpy, hy⟩ | ⟨hpy, hy⟩ | ⟨hpy, hy⟩
    all_goals rw [hpx, hpy] at hpart
  · exact text_eq_of_listed h.definition hx hy hplace
  · cases hpart
  · cases hpart
  · cases hpart
  · exact text_eq_of_listed h.tools hx hy hplace
  · cases hpart
  · cases hpart
  · cases hpart
  · exact text_eq_of_calculated h.calculation hx hy hplace

end

structure SystemsApart (systems : Systems) : Prop where
  owners : systems.keys.Nodup
  names : ∀ system ∈ systems, ∀ id, system.2.NamesApart (.solo id)

lemma SystemsApart.oneText {systems : Systems} (h : SystemsApart systems) (id : EntityId) :
    OneText (systemLookups systems (Invocation.solo id).resolvedMode) := by
  intro x hx y hy hplace
  obtain ⟨system, hsystem, hx⟩ := List.mem_flatMap.mp hx
  obtain ⟨system', hsystem', hy⟩ := List.mem_flatMap.mp hy
  have howner : system.1 = system'.1 := by
    rw [← (Spec.mem_lookups hx).1, ← (Spec.mem_lookups hy).1, hplace]
  obtain rfl := List.inj_on_of_nodup_map h.owners hsystem hsystem' howner
  exact (h.names system hsystem id).oneText x hx y hy hplace

lemma steady_of_randomFree {sources : List Source} {c : Cache} (hone : OneText sources)
    (hformulas : ∀ x ∈ sources, ∀ e, compile x.text = .ok e → e.randomFree)
    (hcached : ∀ p e, c.get? p = some e → e.randomFree) : Steady sources c where
  oneText := hone
  randomFree x hx e he := by
    rcases (fetch_eq_ok_iff c x e).mp he with hfound | ⟨-, hcompiled⟩
    · exact hcached _ e hfound
    · exact hformulas x hx e hcompiled

/-- However the steps of the updates of distinct profiles are mixed, and whatever is in their common
cache at first: they do not go on for ever, as long as one is not done a step can be taken, and when
all are done the profiles and the count of applied writes are those of updating one profile after the
other, in any order. -/
theorem interleaved_updates_eq_sequential (setting : Setting) (systems : Systems)
    (ids order : List EntityId) (s : Session) (hids : ids.Nodup) (horder : order.Perm ids)
    (hsystems : SystemsApart systems)
    (hformulas : ∀ x ∈ systemLookups systems "solo", ∀ e, compile x.text = .ok e → e.randomFree)
    (hcached : ∀ p e, s.cache.get? p = some e → e.randomFree) :
    (WellFounded fun w' w : World => w.Step w') ∧
    ∀ w, ReflTransGen World.Step (World.start setting systems ids s) w →
      (¬w.Finished → ∃ w', w.Step w') ∧
      (w.Finished →
        let r := (updateAll setting systems order).run s
        (∀ id, w.session.profiles.get? id = r.2.profiles.get? id) ∧
          (w.writes.countP fun write => write.applied) = r.1) := by
  refine ⟨World.step_wellFounded, fun w hw => ⟨World.step_of_not_finished, fun hfinished => ?_⟩⟩
  have hsteady : Steady (systemLookups systems "solo") s.cache :=
    steady_of_randomFree (hsystems.oneText ⟨0⟩) hformulas hcached
  -- The end of each update is settled before the first step.
  have hsettled : ∀ id, ∃ end_ : List (String × Outcome) × Option Profile,
      Ends (Serves (systemLookups systems "solo") s.cache) id end_.1 end_.2
        (Thread.updateProfile setting id systems) (s.profiles.get? id) := by
    intro id
    have hupdate : Settles (Serves (systemLookups systems "solo") s.cache) id
        (Thread.updateProfile setting id systems) :=
      .updateProfile setting hsteady (List.Subset.refl _)
    obtain ⟨outcomes, q, hends⟩ := hupdate (s.profiles.get? id)
    exact ⟨(outcomes, q), hends⟩
  choose final hfinal using hsettled
  have hserves : Serves (systemLookups systems "solo") s.cache s.cache := fun _ _ => rfl
  have hstart : (World.start setting systems ids s).updates.map Prod.fst = ids := by
    rw [World.start, List.map_map]
    exact List.map_id ids
  have hheading : Heading (Serves (systemLookups systems "solo") s.cache) final s
      (World.start setting systems ids s).updates :=
    ⟨hserves, List.forall_mem_map.mpr fun id _ => hfinal id⟩
  obtain ⟨hend, hkept, hothers⟩ := heading_of_reachable hw (by rwa [hstart]) hheading
  rw [hstart] at hkept hothers
  obtain ⟨hwrites, hprofiles, hothers'⟩ := updateAll_ends setting systems
    (horder.nodup_iff.mpr hids) hserves fun id _ => hfinal id
  refine ⟨fun id => ?_, ?_⟩
  · by_cases hid : id ∈ ids
    · rw [hprofiles id (horder.mem_iff.mpr hid)]
      exact hend.profile hfinished (by rwa [hkept])
    · rw [hothers' id (mt horder.mem_iff.mp hid)]
      exact hothers id hid
  · rw [hwrites, hend.countP_writes hfinished, hkept]
    exact ((horder.map _).sum_eq).symm

def training : Systems := [
  ("Health", ⟨[("health", "%entity-status#Health%")], [("bonus", "%entity-status#Level% * 2")],
    .flat [("health", "10 + bonus")]⟩),
  ("Mana", ⟨[], [], .flat [("mana", "%entity-status#Health% + 1")]⟩)]

def staleCache : Cache := ⟨[(⟨"Mana", .calculate, "mana"⟩, .number 7)], 1⟩

theorem interleaved_updates_eq_sequential_training :
    let setting : Setting := ⟨.unloaded, fun _ => 0⟩
    let s : Session := ⟨staleCache, 0, [(⟨1⟩, .new ⟨1⟩ "Knight"), (⟨2⟩, .new ⟨2⟩ "Mage")], []⟩
    let ids : List EntityId := [⟨1⟩, ⟨2⟩]
    let order : List EntityId := [⟨2⟩, ⟨1⟩]
    (ids.Nodup ∧ order.Perm ids ∧ SystemsApart training ∧
      (∀ x ∈ systemLookups training "solo", ∀ e, compile x.text = .ok e → e.randomFree) ∧
      ∀ p e, s.cache.get? p = some e → e.randomFree) ∧
    (WellFounded fun w' w : World => w.Step w') ∧
    ∀ w, ReflTransGen World.Step (World.start setting training ids s) w →
      (¬w.Finished → ∃ w', w.Step w') ∧
      (w.Finished →
        (∀ id ∈ ids, ((w.session.profiles.get? id).bind (·.stats.get? "health")) = some 10) ∧
          (w.writes.countP fun write => write.applied) = 2) := by
  intro setting s ids order
  have hids : ids.Nodup := by decide
  have horder : order.Perm ids := .swap _ _ _
  have hsystems : SystemsApart training := by
    refine ⟨by decide, ?_⟩
    refine List.forall_mem_cons.mpr ⟨fun id => ?_, List.forall_mem_singleton.mpr fun id => ?_⟩
    · exact ⟨List.nodup_singleton _, List.nodup_singleton _, List.nodup_singleton _⟩
    · exact ⟨List.nodup_nil, List.nodup_nil, List.nodup_singleton _⟩
  have hformulas : ∀ x ∈ systemLookups training "solo", ∀ e, compile x.text = .ok e →
      e.randomFree := by
    have hall : ((systemLookups training "solo").all fun x =>
        (compile x.text).toOption.all Formula.Expr.randomFree) = true := by decide +kernel
    intro x hx e he
    have hfree := List.all_eq_true.mp hall x hx
    rwa [he] at hfree
  have hcached : ∀ p e, s.cache.get? p = some e → e.randomFree := by
    intro p e he
    obtain ⟨rfl, rfl⟩ := Prod.mk.inj (List.mem_singleton.mp (Table.mem_of_get? he))
    rfl
  obtain ⟨hwf, hends⟩ := interleaved_updates_eq_sequential setting training ids order s hids horder
    hsystems hformulas hcached
  refine ⟨⟨hids, horder, hsystems, hformulas, hcached⟩, hwf, fun w hw => ?_⟩
  obtain ⟨hprogress, hfinal⟩ := hends w hw
  refine ⟨hprogress, fun hfinished => ?_⟩
  obtain ⟨hprofiles, hwrites⟩ := hfinal hfinished
  refine ⟨fun id hid => ?_, hwrites.trans (by decide +kernel)⟩
  rw [hprofiles]
  revert id
  decide +kernel

end DerivedStats.Pipeline
