import ChestMenu.Engine.Errands
import ChestMenu.Proofs.Registry.Soundness
import Mathlib.Data.List.Induction

/-!
# Histories of a registry

Whatever is done with a new registry, and in whatever order, its cache never shows: a
look-up finds what the registry holds under the name. Every change of what the registry
holds starts a new generation and nothing else does. Of the editions that it has ever
held, exactly those that it holds no longer have expired.

The law of expiry supposes that nothing else lets editions expire: none of the
operations here does so to an edition that stays.
-/

namespace ChestMenu.Registry

/-- What can be done with a registry. -/
inductive Operation where
  /-- The folder is loaded, with whatever files there are at that time. -/
  | load (files : Files)
  | register (menu : Menu)
  | get (name : String)
  | clearCache
  /-- The repeating chore clears the cache. -/
  | sweep

/-- The registry after an operation. -/
def apply (registry : Registry) : Operation → Registry
  | .load files => (registry.load files).value.2.1
  | .register menu => registry.registered menu
  | .get name => (registry.get name).2
  | .clearCache => registry.clearCache.value
  | .sweep => registry.clearCache.value

/-- The registry after several operations. -/
def after (registry : Registry) (operations : List Operation) : Registry :=
  operations.foldl apply registry

/-- The edition was held at some time in the history of a new registry. -/
def Stored (folder : String) (history : List Operation) (edition : Edition) : Prop :=
  ∃ earlier, earlier <+: history ∧ (after { folder } earlier).Current edition

variable {stored : Edition → Prop} {registry : Registry}

/-- The chore of the engine does to the registry what a sweep does. -/
theorem chore_sweeps (engine : Engine) :
    ∃ swept, Engine.runChore .clearCache engine = some (.clearCache, swept) ∧
      swept.registry = engine.registry.apply .sweep :=
  ⟨_, rfl, rfl⟩

/-- One operation keeps a registry sound, with what it holds then as stored, and lets
nothing expire that stays. -/
theorem apply_sound (sound : registry.Sound stored) (unspoilt : registry.Unspoilt)
    (operation : Operation) :
    Registry.Sound ((registry.apply operation).Adds stored) (registry.apply operation) ∧
      (registry.apply operation).Unspoilt := by
  cases operation with
  | load files =>
    rcases registry.load_cases files with ⟨error, left, same⟩ | ⟨left, _, _, same⟩
    · simp only [apply, same]
      exact ⟨sound.unchanged, unspoilt⟩
    · simp only [apply, same]
      exact ⟨sound.replaceAll _, unspoilt_replaceAll sound _⟩
  | register menu => exact ⟨sound.registered menu, unspoilt.registered sound menu⟩
  | get name =>
    refine ⟨(sound.get name).unchanged, ?_⟩
    rcases registry.get_registry name with same | ⟨edition, _, same⟩
    · rw [apply, same]
      exact unspoilt
    · rw [apply, same]
      exact unspoilt
  | clearCache => exact ⟨sound.clearCache.unchanged, unspoilt⟩
  | sweep => exact ⟨sound.clearCache.unchanged, unspoilt⟩

/-- A new registry is sound after any history, for what it has held in it. -/
theorem after_sound (folder : String) (history : List Operation) :
    Registry.Sound (Stored folder history) (after { folder } history) ∧
      (after { folder } history).Unspoilt := by
  induction history using List.reverseRecOn with
  | nil =>
    have nothing : Stored folder [] = fun _ => False := by
      funext edition
      refine propext ⟨?_, False.elim⟩
      rintro ⟨earlier, isEarlier, current⟩
      obtain rfl := List.prefix_nil.mp isEarlier
      simp [after, Current] at current
    rw [nothing]
    exact ⟨sound_empty folder, by simp [Unspoilt, after, Current]⟩
  | append_singleton history operation inductionHypothesis =>
    have last : after { folder } (history ++ [operation]) =
        (after { folder } history).apply operation := by
      simp [after, List.foldl_append]
    have storedThen : Stored folder (history ++ [operation]) =
        (after { folder } (history ++ [operation])).Adds (Stored folder history) := by
      funext edition
      refine propext ⟨?_, ?_⟩
      · rintro ⟨earlier, isEarlier, current⟩
        rcases List.prefix_concat_iff.mp isEarlier with rfl | isEarlier
        · exact Or.inr current
        · exact Or.inl ⟨earlier, isEarlier, current⟩
      · rintro (⟨earlier, isEarlier, current⟩ | current)
        · exact ⟨earlier, isEarlier.trans (List.prefix_append _ _), current⟩
        · exact ⟨_, List.prefix_refl _, current⟩
    rw [storedThen, last]
    exact apply_sound inductionHypothesis.1 inductionHypothesis.2 operation

/-- An operation either leaves what the registry holds and its generation alone, or
changes both, and the generation grows. What is put in is never what was there, because
its number was free. -/
theorem apply_generation (sound : registry.Sound stored) (operation : Operation) :
    (registry.apply operation).editions = registry.editions ∧
        (registry.apply operation).generation = registry.generation ∨
      (registry.apply operation).editions ≠ registry.editions ∧
        registry.generation < (registry.apply operation).generation := by
  cases operation with
  | load files =>
    rcases registry.load_cases files with ⟨error, left, same⟩ | ⟨left, _, some, same⟩
    · rw [apply, same]
      exact Or.inl ⟨rfl, rfl⟩
    · rw [apply, same]
      refine Or.inr ⟨?_, Nat.lt_succ_self _⟩
      intro unchanged
      obtain ⟨⟨name, edition⟩, isThere⟩ :=
        List.exists_mem_of_ne_nil _ (editions_from_ne_nil registry.nextNumber [] some)
      have ordered := (sound.replaceAll (loadFolder left registry.folder).value).ordered
      have found := Index.find_of_mem ordered isThere
      obtain ⟨place, numbered, _, _⟩ := replaced_is_new found
      rw [unchanged] at found
      have below := sound.numbered (sound.current (sound.current_of_find found))
      omega
  | register menu =>
    refine Or.inr ⟨?_, ?_⟩
    · intro unchanged
      have current : (registry.registered menu).Current (registry.nextEdition menu) :=
        (current_registered_iff registry menu _).mpr (Or.inl rfl)
      have held : registry.Current (registry.nextEdition menu) := by
        unfold Current at current ⊢
        exact unchanged ▸ current
      exact Nat.lt_irrefl _ (sound.numbered (sound.current held))
    · rw [apply, registered_generation]
      exact Nat.lt_succ_self _
  | get name =>
    refine Or.inl ?_
    rcases registry.get_registry name with same | ⟨edition, _, same⟩
    · rw [apply, same]
      exact ⟨rfl, rfl⟩
    · rw [apply, same]
      exact ⟨rfl, rfl⟩
  | clearCache => exact Or.inl ⟨rfl, rfl⟩
  | sweep => exact Or.inl ⟨rfl, rfl⟩

/-- After any history of a new registry, a look-up finds exactly what the registry holds
under the name, and nothing when it holds nothing there; the next operation makes the
generation grow if and only if it changes what is held; and an edition that was ever held
has expired if and only if it is held no longer. -/
theorem history_exact (folder : String) (history : List Operation) :
    let registry := after { folder } history
    (∀ name, (registry.get name).1 = Index.find? name registry.editions) ∧
    (∀ operation,
      (registry.apply operation).editions = registry.editions ∧
          (registry.apply operation).generation = registry.generation ∨
        (registry.apply operation).editions ≠ registry.editions ∧
          registry.generation < (registry.apply operation).generation) ∧
    (∀ edition, Stored folder history edition →
      (registry.isExpired edition = true ↔ ¬ registry.Current edition)) := by
  obtain ⟨sound, unspoilt⟩ := after_sound folder history
  refine ⟨get_exact sound.honest, apply_generation sound, ?_⟩
  intro edition stored
  constructor
  · intro expired current
    rw [unspoilt edition current] at expired
    cases expired
  · exact sound.retired stored

end ChestMenu.Registry
