/-
# Things in places

Places hold lists of things. They are apart if no thing is held twice, neither by one place
nor by two. Moving things from one place to another keeps them apart and loses none, and so
does dropping things, which loses only those that are dropped.
-/

import Mathlib.Data.List.Nodup
import Mathlib.Data.List.Perm.Basic
import Mathlib.Logic.Function.Basic

namespace LiteIM.Foundation

open Function List

variable {K P : Type} {contents after : P → List K}

/-- Every thing is held at most once. -/
structure Apart (contents : P → List K) : Prop where
  nodup : ∀ place, (contents place).Nodup
  unique : ∀ {thing place other}, thing ∈ contents place → thing ∈ contents other → place = other

/-- Some place holds a thing. -/
def Held (contents : P → List K) (thing : K) : Prop := ∃ place, thing ∈ contents place

variable {thing : K}

theorem Apart.existsUnique (hapart : Apart contents) (hheld : Held contents thing) :
    ∃! place, thing ∈ contents place := by
  obtain ⟨place, hmem⟩ := hheld
  exact ⟨place, hmem, fun other hother => hapart.unique hother hmem⟩

/-- Things leave a place, and the other places are as before. -/
structure Drops (contents after : P → List K) (source : P) (dropped : List K) : Prop where
  leave : (contents source).Perm (dropped ++ after source)
  rest : ∀ place, place ≠ source → after place = contents place

/-- Things go from one place to another. -/
structure Moves (contents after : P → List K) (source target : P) (moved : List K) : Prop where
  distinct : source ≠ target
  leave : (contents source).Perm (moved ++ after source)
  arrive : (after target).Perm (moved ++ contents target)
  rest : ∀ place, place ≠ source → place ≠ target → after place = contents place

variable {source : P} {dropped : List K}

theorem Drops.subset (hdrops : Drops contents after source dropped) (place : P) :
    after place ⊆ contents place := by
  intro thing hmem
  by_cases hsource : place = source
  · subst hsource
    exact hdrops.leave.mem_iff.mpr (mem_append_right _ hmem)
  · rwa [hdrops.rest place hsource] at hmem

theorem Drops.apart (hdrops : Drops contents after source dropped) (hapart : Apart contents) :
    Apart after := by
  apply Apart.mk
  · intro place
    by_cases hsource : place = source
    · subst hsource
      exact (nodup_append.mp (hdrops.leave.nodup_iff.mp (hapart.nodup place))).2.1
    · rw [hdrops.rest place hsource]
      exact hapart.nodup place
  · intro thing place other hmem hother
    exact hapart.unique (hdrops.subset place hmem) (hdrops.subset other hother)

theorem Drops.held (hdrops : Drops contents after source dropped) (hheld : Held contents thing) :
    thing ∈ dropped ∨ Held after thing := by
  obtain ⟨place, hmem⟩ := hheld
  by_cases hsource : place = source
  · subst hsource
    exact (mem_append.mp (hdrops.leave.mem_iff.mp hmem)).imp_right fun hkept => ⟨place, hkept⟩
  · rw [← hdrops.rest place hsource] at hmem
    exact Or.inr ⟨place, hmem⟩

namespace Moves

variable {source target : P} {moved : List K}

theorem mem_iff (hmoves : Moves contents after source target moved) (hapart : Apart contents)
    (thing : K) (place : P) :
    thing ∈ after place ↔ (thing ∈ moved ∧ place = target) ∨
      (thing ∉ moved ∧ thing ∈ contents place) := by
  have hmoved : ∀ {other}, thing ∈ moved → thing ∈ contents other → other = source := by
    intro other hmem hother
    exact hapart.unique hother (hmoves.leave.mem_iff.mpr (mem_append_left _ hmem))
  by_cases htarget : place = target
  · subst htarget
    rw [hmoves.arrive.mem_iff, mem_append]
    by_cases hmem : thing ∈ moved
    · simp [hmem]
    · simp [hmem]
  · by_cases hsource : place = source
    · subst hsource
      have hdisjoint := nodup_append.mp (hmoves.leave.nodup_iff.mp (hapart.nodup place))
      rw [hmoves.leave.mem_iff, mem_append]
      by_cases hmem : thing ∈ moved
      · have hgone : thing ∉ after place := fun hkept => hdisjoint.2.2 _ hmem _ hkept rfl
        simp [hmem, htarget, hgone]
      · simp [hmem]
    · rw [hmoves.rest place hsource htarget]
      by_cases hmem : thing ∈ moved
      · have hgone : thing ∉ contents place := fun hthere => hsource (hmoved hmem hthere)
        simp [hmem, htarget, hgone]
      · simp [hmem]

theorem apart (hmoves : Moves contents after source target moved) (hapart : Apart contents) :
    Apart after := by
  have hleft := nodup_append.mp (hmoves.leave.nodup_iff.mp (hapart.nodup source))
  apply Apart.mk
  · intro place
    by_cases htarget : place = target
    · subst htarget
      rw [hmoves.arrive.nodup_iff]
      refine nodup_append.mpr ⟨hleft.1, hapart.nodup place, ?_⟩
      rintro thing hmem other hother rfl
      refine hmoves.distinct (hapart.unique ?_ hother)
      exact hmoves.leave.mem_iff.mpr (mem_append_left _ hmem)
    · by_cases hsource : place = source
      · rw [hsource]
        exact hleft.2.1
      · rw [hmoves.rest place hsource htarget]
        exact hapart.nodup place
  · intro thing place other hmem hother
    rw [hmoves.mem_iff hapart] at hmem hother
    rcases hmem with ⟨hmoved, rfl⟩ | ⟨hkept, hmem⟩
    · rcases hother with ⟨_, rfl⟩ | ⟨hkept, _⟩
      · rfl
      · exact (hkept hmoved).elim
    · rcases hother with ⟨hmoved, _⟩ | ⟨_, hother⟩
      · exact (hkept hmoved).elim
      · exact hapart.unique hmem hother

theorem held (hmoves : Moves contents after source target moved) (hheld : Held contents thing) :
    Held after thing := by
  obtain ⟨place, hmem⟩ := hheld
  have harrived : thing ∈ moved → Held after thing := fun hmoved =>
    ⟨target, hmoves.arrive.mem_iff.mpr (mem_append_left _ hmoved)⟩
  by_cases htarget : place = target
  · subst htarget
    exact ⟨place, hmoves.arrive.mem_iff.mpr (mem_append_right _ hmem)⟩
  · by_cases hsource : place = source
    · subst hsource
      rcases mem_append.mp (hmoves.leave.mem_iff.mp hmem) with hmoved | hkept
      · exact harrived hmoved
      · exact ⟨place, hkept⟩
    · rw [← hmoves.rest place hsource htarget] at hmem
      exact ⟨place, hmem⟩

variable [DecidableEq P] {kept arrived : List K}

theorem update_update (hdistinct : source ≠ target)
    (hleave : (contents source).Perm (moved ++ kept))
    (harrive : arrived.Perm (moved ++ contents target)) :
    Moves contents (update (update contents source kept) target arrived)
      source target moved where
  distinct := hdistinct
  leave := by rwa [update_of_ne hdistinct, update_self]
  arrive := by rwa [update_self]
  rest place hsource htarget := by
    rw [update_of_ne htarget, update_of_ne hsource]

/-- The same with the updates the other way round. -/
theorem update_update' (hdistinct : source ≠ target)
    (hleave : (contents source).Perm (moved ++ kept))
    (harrive : arrived.Perm (moved ++ contents target)) :
    Moves contents (update (update contents target arrived) source kept)
      source target moved := by
  rw [update_comm hdistinct.symm]
  exact update_update hdistinct hleave harrive

end Moves

theorem Drops.update [DecidableEq P] {kept : List K}
    (hleave : (contents source).Perm (dropped ++ kept)) :
    Drops contents (update contents source kept) source dropped where
  leave := by rwa [update_self]
  rest place hsource := update_of_ne hsource _ _

end LiteIM.Foundation
